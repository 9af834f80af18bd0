/-
Module: DawnShell.Proofs.ReplyBounds
Layer: Proofs
Purpose: Every payload a dispatch leaves behind fits the capacity it was given, for every platform: error
  texts are cut to it, images and codec buffers are checked against it before they are copied.
Trusted boundary: none
Main exports: length_normalizeImage, dscwCodecDequeue_bounded, dispatched_bounded
-/
import DawnShell.Codec.Worker
import DawnShell.Proofs.SessionSteps
import Mathlib.Tactic.Linarith

namespace DawnShell

open Wire Interaction

/-! ### Images -/

/-- A row is copied with as many samples as the plane is wide, whatever the strides are. -/
theorem length_copyRow (data : Nat → UInt8) (first pixelStride : Int) (planeWidth : Nat) :
    (copyRow data first pixelStride planeWidth).length = planeWidth := by
  unfold copyRow
  split <;> simp

/-- A row loop that succeeds has its first row inside the plane data, and goes on with the others. -/
theorem of_copyRows_succ {data : Nat → UInt8} {dataLength rowStride pixelStride cropLeft cropTop : Int}
    {planeWidth rows row : Nat} {output : Bytes}
    (copied : copyRows data dataLength rowStride pixelStride cropLeft cropTop planeWidth (rows + 1) row =
      .ok output) :
    (0 ≤ (cropTop + row) * rowStride + cropLeft * pixelStride ∧
        (cropTop + row) * rowStride + cropLeft * pixelStride
          + ((planeWidth : Int) - 1) * pixelStride < dataLength) ∧
      ∃ rest, copyRows data dataLength rowStride pixelStride cropLeft cropTop planeWidth rows (row + 1) =
          .ok rest ∧
        output = copyRow data ((cropTop + row) * rowStride + cropLeft * pixelStride) pixelStride
          planeWidth ++ rest := by
  rw [copyRows] at copied
  split at copied
  · cases copied
  next inside =>
  simp only [not_or, Int.not_lt, Int.not_le] at inside
  cases later : copyRows data dataLength rowStride pixelStride cropLeft cropTop planeWidth rows
      (row + 1) with
  | error failure =>
      rw [later] at copied
      cases copied
  | ok rest =>
      rw [later] at copied
      cases copied
      exact ⟨⟨inside.1, inside.2.2⟩, rest, rfl, rfl⟩

/-- What a successful row loop says about its plane: the number of bytes, and that every row lies
inside the plane data. -/
theorem copyRows_ok {data : Nat → UInt8} {dataLength rowStride pixelStride cropLeft cropTop : Int}
    {planeWidth rows row : Nat} {output : Bytes}
    (copied : copyRows data dataLength rowStride pixelStride cropLeft cropTop planeWidth rows row =
      .ok output) :
    output.length = rows * planeWidth ∧
      ∀ offset : Nat, offset < rows →
        0 ≤ (cropTop + (row + offset : Nat)) * rowStride + cropLeft * pixelStride ∧
        (cropTop + (row + offset : Nat)) * rowStride + cropLeft * pixelStride
          + ((planeWidth : Int) - 1) * pixelStride < dataLength := by
  induction rows generalizing row output with
  | zero =>
      cases copied
      exact ⟨by simp, fun offset below => absurd below (Nat.not_lt_zero offset)⟩
  | succ rows ih =>
      obtain ⟨inside, others, later, rfl⟩ := of_copyRows_succ copied
      obtain ⟨length, rest⟩ := ih later
      refine ⟨?_, fun offset below => ?_⟩
      · rw [List.length_append, length_copyRow, length]
        ring
      · cases offset with
        | zero => exact inside
        | succ offset =>
            have shifted := rest offset (by omega)
            rwa [show row + 1 + offset = row + (offset + 1) by omega] at shifted

/-- A plane that is copied whole is no wider and no higher than its data is long. -/
theorem copyRows_small {data : Nat → UInt8} {dataLength rowStride pixelStride cropLeft cropTop : Int}
    {planeWidth rows : Nat} {output : Bytes} (rowsPositive : 0 < rows) (wide : 0 < planeWidth)
    (rowStrided : 0 < rowStride) (pixelStrided : 0 < pixelStride)
    (copied : copyRows data dataLength rowStride pixelStride cropLeft cropTop planeWidth rows 0 =
      .ok output) : (planeWidth : Int) ≤ dataLength ∧ (rows : Int) ≤ dataLength := by
  obtain ⟨_, inside⟩ := copyRows_ok copied
  obtain ⟨firstLow, firstHigh⟩ := inside 0 rowsPositive
  obtain ⟨lastLow, lastHigh⟩ := inside (rows - 1) (by omega)
  have columns : (planeWidth : Int) - 1 ≤ ((planeWidth : Int) - 1) * pixelStride :=
    le_mul_of_one_le_right (by omega) pixelStrided
  have steps : ((rows - 1 : Nat) : Int) ≤ ((rows - 1 : Nat) : Int) * rowStride :=
    le_mul_of_one_le_right (by omega) rowStrided
  have moved : (cropTop + ((0 + (rows - 1) : Nat) : Int)) * rowStride =
      (cropTop + ((0 + 0 : Nat) : Int)) * rowStride + ((rows - 1 : Nat) : Int) * rowStride := by
    rw [Nat.zero_add, ← add_mul]
    congr 1
    push_cast
    ring
  rw [moved] at lastHigh
  omega

/-- A plane that is copied has one byte for each of its samples, the chroma planes at half the width and
height. -/
theorem copyPlane_ok {image : Image} {crop : CropRect} {width height : Int} {plane : Fin 3}
    {output : Bytes} (copied : copyPlane image crop width height plane = .ok output) :
    output.length = (height / 2 ^ (if plane = 0 then 0 else 1)).toNat *
      (width / 2 ^ (if plane = 0 then 0 else 1)).toNat := by
  rw [copyPlane] at copied
  dsimp only at copied
  split at copied
  · split at copied
    · cases copied
    · exact (copyRows_ok copied).1
  · cases copied

/-- A luma plane that is copied whole has sides below `2 ^ 31`. -/
theorem copyPlane_zero_small {image : Image} {crop : CropRect} {width height : Int} {output : Bytes}
    (wide : 0 < width) (high : 0 < height) (copied : copyPlane image crop width height 0 = .ok output) :
    width < 2 ^ 31 ∧ height < 2 ^ 31 := by
  rw [copyPlane] at copied
  dsimp only at copied
  split at copied
  next data dataLength rowStride pixelStride _ _ _ =>
    split at copied
    · cases copied
    next positive =>
      simp only [not_or, Int.not_le] at positive
      simp only [if_true, pow_zero, Int.ediv_one] at copied
      have sides := copyRows_small (by omega) (by omega) positive.2.1 positive.2.2 copied
      have bound : dataLength.toInt < 2 ^ 31 := Int32.toInt_lt dataLength
      omega
  · cases copied

/-- The 64-bit frame length of a crop with sides below `2 ^ 31` does not wrap. -/
theorem frameLength_toNat {width height : Int} (wide : 0 ≤ width) (high : 0 ≤ height)
    (narrow : width < 2 ^ 31) (low : height < 2 ^ 31) :
    (UInt64.ofInt width * UInt64.ofInt height * 3 / 2).toNat =
      width.toNat * height.toNat * 3 / 2 := by
  have number {side : Int} (nonnegative : 0 ≤ side) (small : side < 2 ^ 31) :
      (UInt64.ofInt side).toNat = side.toNat := by
    rw [UInt64.ofInt, UInt64.toNat_ofNat']
    omega
  have product : width.toNat * height.toNat < 2 ^ 31 * 2 ^ 31 :=
    Nat.mul_lt_mul'' (by omega) (by omega)
  rw [UInt64.toNat_div, UInt64.toNat_mul, UInt64.toNat_mul, number wide narrow, number high low,
    Nat.mod_eq_of_lt (by omega : width.toNat * height.toNat < 2 ^ 64)]
  congr 1
  exact Nat.mod_eq_of_lt (by show width.toNat * height.toNat * 3 < 2 ^ 64; omega)

/-- The sides of a crop. -/
def CropRect.width (crop : CropRect) : Int := crop.right.toInt - crop.left.toInt

def CropRect.height (crop : CropRect) : Int := crop.bottom.toInt - crop.top.toInt

/-- What a normalized image is made of: a crop of even sides that fits the capacity, and its three
planes one after another. -/
theorem normalizeImage_planes {image : Image} {capacity : Nat} {pixels : Bytes}
    (normalized : normalizeImage image capacity = .ok pixels) :
    ∃ (crop : CropRect) (luma blue red : Bytes), image.cropRect = some crop ∧
      0 < crop.width ∧ 0 < crop.height ∧ crop.width % 2 = 0 ∧ crop.height % 2 = 0 ∧
      (UInt64.ofInt crop.width * UInt64.ofInt crop.height * 3 / 2).toNat ≤ capacity ∧
      copyPlane image crop crop.width crop.height 0 = .ok luma ∧
      copyPlane image crop crop.width crop.height 1 = .ok blue ∧
      copyPlane image crop crop.width crop.height 2 = .ok red ∧ pixels = luma ++ blue ++ red := by
  rw [normalizeImage] at normalized
  dsimp only at normalized
  split at normalized
  · cases normalized
  split at normalized
  · cases normalized
  next crop reported =>
  split at normalized
  · cases normalized
  next checked =>
    change ¬(crop.width ≤ 0 ∨ crop.height ≤ 0 ∨ crop.width % 2 ≠ 0 ∨ crop.height % 2 ≠ 0 ∨
      capacity < (UInt64.ofInt crop.width * UInt64.ofInt crop.height * 3 / 2).toNat) at checked
    change (do
      let luma ← copyPlane image crop crop.width crop.height 0
      let blue ← copyPlane image crop crop.width crop.height 1
      let red ← copyPlane image crop crop.width crop.height 2
      pure (luma ++ blue ++ red)) = Except.ok pixels at normalized
    simp only [not_or, Int.not_le, Nat.not_lt, not_not] at checked
    obtain ⟨wide, high, evenWidth, evenHeight, fits⟩ := checked
    cases luma : copyPlane image crop crop.width crop.height 0 with
    | error failure =>
        rw [luma] at normalized
        cases normalized
    | ok lumaBytes =>
    cases blue : copyPlane image crop crop.width crop.height 1 with
    | error failure =>
        rw [luma, blue] at normalized
        cases normalized
    | ok blueBytes =>
    cases red : copyPlane image crop crop.width crop.height 2 with
    | error failure =>
        rw [luma, blue, red] at normalized
        cases normalized
    | ok redBytes =>
    rw [luma, blue, red] at normalized
    cases normalized
    exact ⟨crop, lumaBytes, blueBytes, redBytes, reported, wide, high, evenWidth, evenHeight,
      fits, luma, blue, red, rfl⟩

/-- A normalized image has three half bytes for every two pixels of its crop. -/
theorem normalizeImage_length {image : Image} {capacity : Nat} {pixels : Bytes}
    (normalized : normalizeImage image capacity = .ok pixels) :
    ∃ crop, image.cropRect = some crop ∧ 0 < crop.width ∧ 0 < crop.height ∧
      pixels.length = crop.width.toNat * crop.height.toNat * 3 / 2 ∧ pixels.length ≤ capacity := by
  obtain ⟨crop, lumaBytes, blueBytes, redBytes, reported, wide, high, evenWidth, evenHeight, fits,
    luma, blue, red, rfl⟩ := normalizeImage_planes normalized
  obtain ⟨narrow, low⟩ := copyPlane_zero_small wide high luma
  rw [frameLength_toNat (by omega) (by omega) narrow low] at fits
  refine ⟨crop, reported, wide, high, ?_⟩
  generalize crop.width = width at *
  generalize crop.height = height at *
  obtain ⟨halfWidth, rfl⟩ : ∃ half : Nat, width = 2 * half := ⟨(width / 2).toNat, by omega⟩
  obtain ⟨halfHeight, rfl⟩ : ∃ half : Nat, height = 2 * half := ⟨(height / 2).toNat, by omega⟩
  have lumaLength := copyPlane_ok luma
  have blueLength := copyPlane_ok blue
  have redLength := copyPlane_ok red
  simp only [if_true, pow_zero, Int.ediv_one] at lumaLength
  simp at blueLength redLength
  rw [List.length_append, List.length_append, lumaLength, blueLength, redLength]
  have whole : ((2 * (halfHeight : Int)).toNat * (2 * (halfWidth : Int)).toNat) =
      4 * (halfHeight * halfWidth) := by
    rw [show (2 * (halfHeight : Int)).toNat = 2 * halfHeight by omega,
      show (2 * (halfWidth : Int)).toNat = 2 * halfWidth by omega]
    ring
  rw [Nat.mul_comm (2 * (halfWidth : Int)).toNat, whole] at fits ⊢
  omega

/-- The pixels of an image that is normalized fit into the room that is left for them. -/
theorem length_normalizeImage {image : Image} {capacity : Nat} {pixels : Bytes}
    (normalized : normalizeImage image capacity = .ok pixels) : pixels.length ≤ capacity := by
  obtain ⟨_, _, _, _, _, fits⟩ := normalizeImage_length normalized
  exact fits

theorem normalizeImage_ne_nil {image : Image} {capacity : Nat} {pixels : Bytes}
    (normalized : normalizeImage image capacity = .ok pixels) : pixels ≠ [] := by
  obtain ⟨crop, -, wide, high, length, -⟩ := normalizeImage_length normalized
  have area : 0 < crop.width.toNat * crop.height.toNat := Nat.mul_pos (by omega) (by omega)
  rw [← List.length_pos_iff, length]
  omega

/-- The statuses of a failed normalization are negative, so that a failure is never taken for a length.
-/
theorem copyRows_error {data : Nat → UInt8} {dataLength rowStride pixelStride cropLeft cropTop : Int}
    {planeWidth rows row : Nat} {failure : Failure}
    (failed : copyRows data dataLength rowStride pixelStride cropLeft cropTop planeWidth rows row =
      .error failure) : failure.status < codecOk := by
  induction rows generalizing row with
  | zero => cases failed
  | succ rows ih =>
      rw [copyRows] at failed
      split at failed
      · cases failed
        exact show codecErrorCodec < codecOk by decide
      · cases later : copyRows data dataLength rowStride pixelStride cropLeft cropTop planeWidth rows
            (row + 1) with
        | error other =>
            rw [later] at failed
            cases failed
            exact ih later
        | ok rest =>
            rw [later] at failed
            cases failed

/-- A plane that cannot be copied is refused with a negative status. -/
theorem copyPlane_error {image : Image} {crop : CropRect} {width height : Int} {plane : Fin 3}
    {failure : Failure} (failed : copyPlane image crop width height plane = .error failure) :
    failure.status < codecOk := by
  have unmapped : codecErrorCodec < codecOk := by decide
  rw [copyPlane] at failed
  dsimp only at failed
  split at failed
  · split at failed
    · cases failed
      exact unmapped
    · exact copyRows_error failed
  · cases failed
    exact unmapped

/-- An image that cannot be normalized is refused with a negative status, whichever of its checks has
failed. -/
theorem normalizeImage_error {image : Image} {capacity : Nat} {failure : Failure}
    (failed : normalizeImage image capacity = .error failure) : failure.status < codecOk := by
  have notYuv : codecErrorUnsupported < codecOk := by decide
  rw [normalizeImage] at failed
  dsimp only at failed
  split at failed
  · cases failed
    exact notYuv
  split at failed
  · cases failed
    exact notYuv
  split at failed
  · cases failed
    exact show codecErrorLimit < codecOk by decide
  next crop _ _ =>
    generalize crop.right.toInt - crop.left.toInt = width at *
    generalize crop.bottom.toInt - crop.top.toInt = height at *
    cases luma : copyPlane image crop width height 0 with
    | error other =>
        rw [luma] at failed
        cases failed
        exact copyPlane_error luma
    | ok lumaBytes =>
    cases blue : copyPlane image crop width height 1 with
    | error other =>
        rw [luma, blue] at failed
        cases failed
        exact copyPlane_error blue
    | ok blueBytes =>
    cases red : copyPlane image crop width height 2 with
    | error other =>
        rw [luma, blue, red] at failed
        cases failed
        exact copyPlane_error red
    | ok redBytes =>
        rw [luma, blue, red] at failed
        cases failed

/-! ### Output records -/

theorem length_putU32 {buffer : Bytes} {offset size : Nat} (value : UInt32)
    (length : buffer.length = size) (inside : offset + 4 ≤ size) :
    (putU32 buffer offset value).length = size := by
  simp only [putU32, overwrite, List.length_append, List.length_take, List.length_drop,
    BigEndian.length_encode]
  omega

/-- Writing eight bytes inside a buffer leaves its length as it is. -/
theorem length_putU64 {buffer : Bytes} {offset size : Nat} (value : UInt64)
    (length : buffer.length = size) (inside : offset + 8 ≤ size) :
    (putU64 buffer offset value).length = size :=
  length_putU32 _ (length_putU32 _ length (by omega)) (by omega)

/-- The header of an output record has sixteen bytes. -/
theorem length_recordHeader (presentationTimeUs : UInt64) (flags length : UInt32) :
    (recordHeader presentationTimeUs flags length).length = 16 :=
  length_putU32 _ (length_putU32 _ (length_putU64 _ rfl (by decide)) (by decide)) (by decide)

/-- The output of every run fits the capacity. -/
structure OutputBounded (capacity : Nat) (program : Platform Outcome) : Prop where
  all : program.All fun _ outcome => outcome.output.length ≤ capacity

section Dequeue

variable {capacity : Nat}

/-- An outcome is bounded when its output fits the capacity. -/
theorem outputBounded_pure {outcome : Outcome} (bounded : outcome.output.length ≤ capacity) :
    OutputBounded capacity (pure outcome) :=
  ⟨bounded⟩

/-- Platform calls in front of an outcome put nothing into it. -/
theorem outputBounded_bind {α : Type} {first : Platform α} {rest : α → Platform Outcome}
    (holds : ∀ value, OutputBounded capacity (rest value)) :
    OutputBounded capacity (first >>= rest) :=
  ⟨all_bind_of_forall (fun outcome : Outcome => outcome.output.length ≤ capacity)
    fun value => (holds value).all⟩

theorem outputBounded_empty {session : CodecSession} {status : Int32} {error : Option String} :
    OutputBounded capacity (pure { session, status, error }) :=
  ⟨Nat.zero_le _⟩

/-- The pump of a transcoder returns no output of its own. -/
theorem pumpTranscoder_bounded (session : CodecSession) (timeoutMs : UInt32) :
    OutputBounded capacity (pumpTranscoder session timeoutMs) := by
  refine ⟨(pumpAttempts_run timeoutMs 16 0 session).mono fun _ _ run => ?_⟩
  rw [run.output]
  exact Nat.zero_le capacity

/-- Output of a pending image, with its record header, fits the capacity. -/
theorem outputPendingImage_bounded (session : CodecSession) (timeoutMs : UInt32)
    (large : 20 ≤ capacity) :
    OutputBounded capacity (outputPendingImage session timeoutMs capacity) := by
  rw [outputPendingImage]
  refine outputBounded_bind fun acquired => ?_
  split
  · exact outputBounded_empty
  refine outputBounded_bind fun _ => ?_
  split
  · exact outputBounded_empty
  next pixels normalized =>
    have fits := length_normalizeImage normalized
    refine outputBounded_pure ?_
    rw [List.length_append, length_recordHeader]
    omega

/-- A buffer is copied behind its header only if both fit the capacity. -/
theorem copyOutputBuffer_bounded (session : CodecSession) (codec : Option Handle) (index : Nat)
    (info : BufferInfo) :
    OutputBounded capacity (copyOutputBuffer session codec index info capacity) := by
  rw [copyOutputBuffer]
  split
  · exact outputBounded_bind fun _ => outputBounded_empty
  next checked =>
    refine outputBounded_bind fun source => ?_
    dsimp only
    split
    · exact outputBounded_bind fun _ => outputBounded_empty
    · refine outputBounded_bind fun _ => outputBounded_pure ?_
      rw [not_or, Nat.not_lt] at checked
      exact (List.length_take_le _ _).trans checked.1

theorem formatRecord_length (session : CodecSession) (codec : Option Handle) :
    (formatRecord session codec capacity).All fun _ record =>
      ∀ bytes, record = .ok bytes → bytes.length = 20 := by
  rw [formatRecord]
  split
  · exact fun bytes record => nomatch record
  · rw [all_bind, all_call]
    intro format bytes record
    cases record
    exact length_putU32 _ (length_putU32 _ (length_putU32 _ (length_putU32 _ (length_putU32 _ rfl
      (by decide)) (by decide)) (by decide)) (by decide)) (by decide)

/-- However many turns the output loop takes, what it returns fits the capacity. -/
theorem dequeueAttempts_bounded (codec : Option Handle) (timeoutMs : UInt32) (remaining : Nat)
    (session : CodecSession) (large : 20 ≤ capacity) :
    OutputBounded capacity (dequeueAttempts codec timeoutMs capacity remaining session) := by
  induction remaining generalizing session with
  | zero => exact outputBounded_empty
  | succ remaining ih =>
      rw [dequeueAttempts]
      refine outputBounded_bind fun dequeued => ?_
      dsimp only
      split
      · exact outputBounded_empty
      split
      · refine ⟨all_bind.mpr ((formatRecord_length session codec).mono fun log record length => ?_)⟩
        split
        · exact Nat.zero_le _
        next bytes => exact (length bytes rfl).le.trans large
      split
      · exact ih session
      split
      · refine outputBounded_bind fun released => ?_
        split
        · exact outputBounded_empty
        · exact outputPendingImage_bounded _ timeoutMs large
      · exact copyOutputBuffer_bounded session codec _ _

/-- Output of the codec fits the capacity, which is checked to hold a format record before. -/
theorem dequeueInternal_bounded (session : CodecSession) (timeoutMs : UInt32) :
    OutputBounded capacity (dequeueInternal session timeoutMs capacity) := by
  rw [dequeueInternal]
  split
  · exact outputBounded_empty
  next large =>
  have large : 20 ≤ capacity := Nat.le_of_not_lt large
  split
  · exact outputPendingImage_bounded session timeoutMs large
  split
  · have pump : OutputBounded capacity (pumpTranscoder session timeoutMs) :=
      pumpTranscoder_bounded session timeoutMs
    refine ⟨all_bind.mpr (pump.all.mono fun log pumped bounded => ?_)⟩
    split
    · exact bounded
    · exact (dequeueAttempts_bounded _ timeoutMs 3 _ large).all
  · exact dequeueAttempts_bounded _ timeoutMs 3 session large

/-- A `DEQUEUE` never returns more than the capacity, for any session and any answers of the platform.
-/
theorem dscwCodecDequeue_bounded (session : CodecSession) (timeoutMs : UInt32) :
    OutputBounded capacity (dscwCodecDequeue session timeoutMs capacity) := by
  rw [dscwCodecDequeue]
  refine outputBounded_bind fun started => ⟨all_bind.mpr
    ((dequeueInternal_bounded session timeoutMs).all.mono fun log result bounded => ?_)⟩
  refine all_bind_of_forall (fun outcome : Outcome => outcome.output.length ≤ capacity) fun _ => ?_
  split <;> exact bounded

end Dequeue

/-! ### Replies -/

/-- A text is copied up to the capacity and no further. -/
theorem length_copyText_le (capacity : Nat) (text : String) :
    (copyText capacity text).length ≤ capacity :=
  List.length_take_le _ _

/-- The payload of every reply fits the capacity. -/
structure ReplyBounded (capacity : Nat) (program : Platform (WorkerState × DispatchResult)) :
    Prop where
  all : program.All fun _ outcome => outcome.2.payload.length ≤ capacity

section Dispatch

variable {capacity : Nat}

/-- A reply is bounded when its payload fits the capacity. -/
theorem replyBounded_pure {state : WorkerState} {result : DispatchResult}
    (bounded : result.payload.length ≤ capacity) : ReplyBounded capacity (pure (state, result)) :=
  ⟨bounded⟩

/-- The message of a failure is cut at the capacity. -/
theorem replyBounded_failure {state : WorkerState} {status : Int32} {sessionId : UInt64}
    {message : String} :
    ReplyBounded capacity (pure (state, failure status sessionId capacity message)) :=
  ⟨length_copyText_le capacity message⟩

/-- Platform calls in front of a reply put nothing into it. -/
theorem replyBounded_bind {α : Type} {first : Platform α}
    {rest : α → Platform (WorkerState × DispatchResult)}
    (holds : ∀ value, ReplyBounded capacity (rest value)) : ReplyBounded capacity (first >>= rest) :=
  ⟨all_bind_of_forall (fun outcome : WorkerState × DispatchResult =>
    outcome.2.payload.length ≤ capacity) fun value => (holds value).all⟩

/-- A check that replies with a failure can precede a program. -/
theorem replyBounded_guard {invalid : Prop} [Decidable invalid] {state : WorkerState}
    {status : Int32} {sessionId : UInt64} {message : String}
    {program : Platform (WorkerState × DispatchResult)} (holds : ReplyBounded capacity program) :
    ReplyBounded capacity
      (if invalid then pure (state, failure status sessionId capacity message) else program) := by
  split
  · exact replyBounded_failure
  · exact holds

/-- The description of a new session is cut at the capacity, and so is the message of a failing
creation. -/
theorem dispatchCreateWith_bounded {create : Platform (Except Failure Created)}
    {expectedLength : Nat} {lengthMessage : String} {state : WorkerState} {payload : Bytes} :
    ReplyBounded capacity
      (dispatchCreateWith create expectedLength lengthMessage state payload capacity) := by
  rw [dispatchCreateWith]
  refine replyBounded_guard ?_
  split
  · exact replyBounded_failure
  · refine replyBounded_bind fun created => ?_
    split
    · exact replyBounded_failure
    · exact replyBounded_pure (length_copyText_le capacity _)

/-- The reply of an operation on a session is its output, or its message, cut at the capacity. -/
theorem finishOperation_bounded {state : WorkerState} {index : Fin dscbMaxSessions}
    {live : LiveSession} {outcome : Outcome} :
    ReplyBounded capacity (pure (finishOperation state index live capacity outcome)) := by
  rw [finishOperation]
  split
  · exact replyBounded_failure
  · exact replyBounded_pure (Nat.zero_le _)

/-- A text that is printed whole is shorter than its buffer. -/
theorem length_of_printedText {text bytes : Bytes} (printed : printedText capacity text = some bytes) :
    bytes.length ≤ capacity := by
  unfold printedText at printed
  split at printed
  · cases printed
  · cases printed
    omega

/-- The statistics that are printed fit the capacity. -/
theorem dscwCodecStatistics_bounded (session : CodecSession) (sessionId : UInt64) :
    (dscwCodecStatistics session sessionId capacity).All fun _ text =>
      ∀ bytes, text = some bytes → bytes.length ≤ capacity := by
  rw [dscwCodecStatistics]
  split
  · exact fun bytes text => nomatch text
  · rw [all_bind, all_call]
    intro now
    rw [all_bind, all_call]
    intro cpuMs
    exact fun bytes printed => length_of_printedText printed

/-- Whatever a live session is asked for, its reply fits the capacity, on every platform and for every
payload. -/
theorem dispatchLive_bounded (state : WorkerState) (type : UInt16) (index : Fin dscbMaxSessions)
    (live : LiveSession) (payload : Bytes) :
    ReplyBounded capacity (dispatchLive state type index live payload capacity) := by
  rw [dispatchLive]
  split
  · exact replyBounded_guard (replyBounded_guard
      (replyBounded_bind fun _ => finishOperation_bounded))
  · refine replyBounded_guard ⟨all_bind.mpr ((dscwCodecDequeue_bounded live.codec _).all.mono
      fun log outcome bounded => ?_)⟩
    split
    · exact bounded
    · exact finishOperation_bounded.all
  · exact replyBounded_guard (replyBounded_bind fun _ => finishOperation_bounded)
  · exact replyBounded_guard (replyBounded_bind fun _ => finishOperation_bounded)
  · exact replyBounded_guard (replyBounded_bind fun _ => finishOperation_bounded)
  · refine replyBounded_guard ⟨all_bind.mpr ((dscwCodecStatistics_bounded live.codec live.id).mono
      fun log text bounded => ?_)⟩
    split
    · exact replyBounded_failure.all
    next bytes => exact bounded bytes rfl
  · exact replyBounded_guard (replyBounded_bind fun _ => replyBounded_pure (Nat.zero_le _))
  · exact replyBounded_failure

/-- A `HEALTH` text, or the message in its place, fits the capacity. -/
theorem dispatchHealth_bounded (state : WorkerState) :
    (dispatchHealth state capacity).All fun _ result => result.payload.length ≤ capacity := by
  rw [dispatchHealth, all_bind, all_call]
  intro pid
  rw [all_bind, all_call]
  intro now
  rw [all_pure, healthResult]
  split
  · exact length_copyText_le capacity _
  · exact length_copyText_le capacity _

/-- The reply to every frame, known or not, fits the capacity, so that the worker never writes beyond
the slot. -/
theorem dispatchFramed_bounded (state : WorkerState) (type : UInt16) (sessionId : UInt64)
    (payload : Bytes) :
    ReplyBounded capacity (dispatchFramed state type sessionId payload capacity) := by
  rw [dispatchFramed]
  split
  · refine replyBounded_pure ?_
    split <;> exact length_copyText_le capacity _
  · refine replyBounded_pure ?_
    split <;> exact length_copyText_le capacity _
  · refine replyBounded_guard ⟨?_⟩
    rw [all_bind]
    exact dispatchHealth_bounded state
  · refine replyBounded_guard ?_
    rw [dispatchCreate]
    exact dispatchCreateWith_bounded
  · refine replyBounded_guard ?_
    rw [dispatchCreateTranscoder]
    exact dispatchCreateWith_bounded
  · exact replyBounded_failure
  · exact replyBounded_failure
  · rw [dispatchSession]
    split
    · exact replyBounded_failure
    · exact dispatchLive_bounded state type _ _ payload

/-- The payload of a reply fits the capacity it was dispatched with. -/
theorem dispatched_bounded {state : WorkerState} {request : Bytes} {responseType : UInt16}
    {responseId : UInt32} {log : Platform.Log} {dispatched : Dispatched}
    (run : (dispatchRequest state request capacity responseType responseId).Runs log dispatched) :
    dispatched.result.payload.length ≤ capacity := by
  rw [dispatchRequest] at run
  dsimp only at run
  split at run
  · cases run
    exact length_copyText_le capacity _
  split at run
  · cases run
    exact length_copyText_le capacity _
  · obtain ⟨_, _, _, framed, reply, _⟩ := run.of_bind
    cases reply
    exact framed.of_all (dispatchFramed_bounded _ _ _ _).all

end Dispatch

end DawnShell
