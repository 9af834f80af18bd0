/-
Module: DawnShell.Proofs.RawFrames
Layer: Proofs
Purpose: Raw frames through the framing commands.  `pack-i420` makes one record of each frame, with the
  size that the client computes again and a time behind the one before; `unpack` takes the frames out of
  these records.  The times have 64 bits in a record, which bounds the input.
Trusted boundary: none
Main exports: framePts, frameRecords, RawAccepted, RawFraming, raw_frames_round_trip,
  longFrames_refused
-/
import Mathlib.Algebra.Order.Floor.Ring
import DawnShell.Codec.Pipe
import DawnShell.Proofs.PacketTimes

namespace DawnShell.Adapter

open Wire

/-- The time of a frame in microseconds. -/
def framePts (numerator denominator : ℚ) (index : Nat) : Int :=
  truncate (index * 1000000 * denominator / numerator)

/-- The times and the data of the records of frames, the first of which has a given index. -/
def frameRecords (numerator denominator : ℚ) : Nat → List Bytes → List (Nat × Bytes)
  | _, [] => []
  | index, frame :: frames =>
      ((framePts numerator denominator index).toNat, frame) ::
        frameRecords numerator denominator (index + 1) frames

/-- A record with a time and data. -/
def recordBytes (record : Nat × Bytes) : Bytes := recordHeader record.1 0 record.2.length ++ record.2

/-! ### The times of frames -/

section Times

variable {numerator denominator rate : ℚ} {frameRate : Text} {first : Nat} {frames more : List Bytes}

/-- A rate is a quotient of positive numbers. -/
theorem pos_of_splitRate (split : splitRate frameRate = .ok (numerator, denominator)) :
    0 < numerator ∧ 0 < denominator := by
  rw [splitRate] at split
  split at split
  · split at split
    · split at split
      · cases split
      next positive =>
        cases split
        exact ⟨lt_of_not_ge fun nonpos => positive (.inl nonpos),
          lt_of_not_ge fun nonpos => positive (.inr nonpos)⟩
    · cases split
  · cases split

/-- A frame rate that is accepted lies between 1 and 240, as the quotient of what `split_rate` finds. -/
theorem of_parseRate (parsed : parseRate frameRate = .ok rate)
    (split : splitRate frameRate = .ok (numerator, denominator)) :
    1 ≤ numerator / denominator ∧ numerator / denominator ≤ 240 := by
  obtain ⟨⟨first, second⟩, found, rest⟩ := Except.ok_of_bind parsed
  cases found.symm.trans split
  dsimp only at rest
  split at rest
  · cases rest
  next within =>
    rw [not_or, not_lt, not_lt] at within
    exact within

/-- A frame has its time at least a microsecond behind the one before. -/
theorem framePts_succ (positive : 0 < numerator) (other : 0 < denominator)
    (rated : numerator / denominator ≤ 240) (index : Nat) :
    framePts numerator denominator index < framePts numerator denominator (index + 1) := by
  have period : 1 ≤ 1000000 * denominator / numerator := by
    rw [le_div_iff₀ positive]
    rw [div_le_iff₀ other] at rated
    linarith
  have step : (index : ℚ) * 1000000 * denominator / numerator + 1 ≤
      ((index + 1 : Nat) : ℚ) * 1000000 * denominator / numerator := by
    have next : ((index + 1 : Nat) : ℚ) * 1000000 * denominator / numerator =
        index * 1000000 * denominator / numerator + 1000000 * denominator / numerator := by
      push_cast
      ring
    rw [next]
    linarith
  have nonneg : 0 ≤ (index : ℚ) * 1000000 * denominator / numerator := by positivity
  rw [framePts, framePts, truncate_of_nonneg nonneg, truncate_of_nonneg (by linarith),
    Int.lt_iff_add_one_le, ← Int.floor_add_one]
  exact Int.floor_le_floor step

/-- At rates up to 240 different frames have different times, the later frame the later time. -/
theorem framePts_lt (positive : 0 < numerator) (other : 0 < denominator)
    (rated : numerator / denominator ≤ 240) {first second : Nat} (earlier : first < second) :
    framePts numerator denominator first < framePts numerator denominator second :=
  strictMono_nat_of_lt_succ (framePts_succ positive other rated) earlier

theorem framePts_le (positive : 0 < numerator) (other : 0 < denominator)
    (rated : numerator / denominator ≤ 240) {first second : Nat} (order : first ≤ second) :
    framePts numerator denominator first ≤ framePts numerator denominator second := by
  rcases order.eq_or_lt with rfl | earlier
  · exact le_rfl
  · exact (framePts_lt positive other rated earlier).le

theorem framePts_nonneg (positive : 0 < numerator) (other : 0 < denominator) (index : Nat) :
    0 ≤ framePts numerator denominator index := by
  apply truncate_nonneg
  positivity

end Times

/-! ### The records of frames -/

section Records

variable {numerator denominator : ℚ} {frames more : List Bytes}

theorem frameRecords_length (first : Nat) :
    (frameRecords numerator denominator first frames).length = frames.length := by
  induction frames generalizing first with
  | nil => rfl
  | cons frame frames ih => rw [frameRecords, List.length_cons, List.length_cons, ih]

/-- The data of the records are the frames, in their order. -/
theorem frameRecords_data (first : Nat) :
    (frameRecords numerator denominator first frames).map Prod.snd = frames := by
  induction frames generalizing first with
  | nil => rfl
  | cons frame frames ih => rw [frameRecords, List.map_cons, ih]

/-- Frames that come later are numbered on from those before them. -/
theorem frameRecords_append (first : Nat) :
    frameRecords numerator denominator first (frames ++ more) =
      frameRecords numerator denominator first frames ++
        frameRecords numerator denominator (first + frames.length) more := by
  induction frames generalizing first with
  | nil => rfl
  | cons frame frames ih =>
      rw [List.cons_append, frameRecords, frameRecords, ih, List.cons_append, List.length_cons]
      congr 3
      omega

/-- A record has the time of an index of its list. -/
theorem mem_frameRecords {first : Nat} {record : Nat × Bytes}
    (member : record ∈ frameRecords numerator denominator first frames) :
    ∃ index, first ≤ index ∧ index < first + frames.length ∧
      record.1 = (framePts numerator denominator index).toNat ∧ record.2 ∈ frames := by
  induction frames generalizing first with
  | nil => cases member
  | cons frame frames ih =>
      rw [frameRecords, List.mem_cons] at member
      rw [List.length_cons]
      rcases member with rfl | member
      · exact ⟨first, le_rfl, by omega, rfl, List.mem_cons_self⟩
      · obtain ⟨index, low, high, time, among⟩ := ih member
        exact ⟨index, by omega, by omega, time, List.mem_cons_of_mem _ among⟩

/-- The data of each record have the size of a frame. -/
theorem frameRecords_sized {frameSize : Nat} (sized : ∀ frame ∈ frames, frame.length = frameSize)
    {first : Nat} {record : Nat × Bytes}
    (member : record ∈ frameRecords numerator denominator first frames) :
    record.2.length = frameSize := by
  obtain ⟨-, -, -, -, among⟩ := mem_frameRecords member
  exact sized _ among

theorem frameRecords_fits (positive : 0 < numerator) (other : 0 < denominator)
    (rated : numerator / denominator ≤ 240)
    (lastTime : framePts numerator denominator (frames.length - 1) < 2 ^ 64) {record : Nat × Bytes}
    (member : record ∈ frameRecords numerator denominator 0 frames) : record.1 < 2 ^ 64 := by
  obtain ⟨index, -, below, time, -⟩ := mem_frameRecords member
  have order := framePts_le positive other rated (show index ≤ frames.length - 1 by omega)
  rw [time]
  omega

theorem frameRecords_increasing (positive : 0 < numerator) (other : 0 < denominator)
    (rated : numerator / denominator ≤ 240) (first : Nat) :
    ((frameRecords numerator denominator first frames).map Prod.fst).Pairwise (· < ·) := by
  induction frames generalizing first with
  | nil => exact .nil
  | cons frame frames ih =>
      rw [frameRecords, List.map_cons, List.pairwise_cons]
      refine ⟨fun time member => ?_, ih (first + 1)⟩
      obtain ⟨record, among, rfl⟩ := List.mem_map.mp member
      obtain ⟨index, low, -, time, -⟩ := mem_frameRecords among
      have later := framePts_lt positive other rated (Nat.lt_of_succ_le low)
      have start := framePts_nonneg positive other first
      rw [time]
      dsimp only
      omega

end Records

/-! ### `pack-i420` -/

section Pack

variable {frameSize : Nat} {numerator denominator : ℚ} {frames : List Bytes}

/-- The loop of `command_pack_i420` on whole frames makes their records, one for each, with the times of
their places in the list. -/
theorem packFrames_flatten (positive : 0 < frameSize)
    (sized : ∀ frame ∈ frames, frame.length = frameSize) (state : Unpacked) :
    packFrames frameSize numerator denominator state frames.flatten =
      .ok { frames := state.frames + frames.length
            output := state.output ++
              ((frameRecords numerator denominator state.frames frames).map recordBytes).flatten } := by
  induction frames generalizing state with
  | nil =>
      rw [packFrames]
      simp [frameRecords]
  | cons frame frames ih =>
      have size := sized frame List.mem_cons_self
      have front : (frame ++ frames.flatten).take frameSize = frame := List.take_left' size
      have back : (frame ++ frames.flatten).drop frameSize = frames.flatten := List.drop_left' size
      rw [List.flatten_cons, packFrames]
      simp only [front, back, size, positive.ne', dif_neg, not_false_eq_true, ne_eq, not_true_eq_false,
        if_neg]
      rw [ih fun other member => sized other (List.mem_cons_of_mem _ member)]
      simp only [frameRecords, recordBytes, framePts, size, List.map_cons, List.flatten_cons,
        List.length_cons, List.append_assoc, Nat.add_assoc, Nat.add_comm 1]

/-- A text of whole frames is cut into them. -/
theorem exists_frames {source : Bytes} {count : Nat} (whole : source.length = count * frameSize) :
    ∃ frames : List Bytes, frames.length = count ∧ (∀ frame ∈ frames, frame.length = frameSize) ∧
      frames.flatten = source := by
  induction count generalizing source with
  | zero =>
      rw [Nat.zero_mul, List.length_eq_zero_iff] at whole
      exact ⟨[], rfl, by simp, whole.symm⟩
  | succ count ih =>
      rw [Nat.succ_mul] at whole
      obtain ⟨frames, length, sized, rest⟩ := @ih (source.drop frameSize) (by rw [List.length_drop]; omega)
      refine ⟨source.take frameSize :: frames, by rw [List.length_cons, length], ?_, ?_⟩
      · intro frame member
        rcases List.mem_cons.mp member with rfl | member
        · rw [List.length_take]
          omega
        · exact sized frame member
      · rw [List.flatten_cons, rest, List.take_append_drop]

end Pack

/-! ### `unpack` -/

section Unpack

variable {frameSize : Nat} {records : List (Nat × Bytes)}

/-- The variables of `unpack` behind the frame of a record. -/
def Unpacking.behind (state : Unpacking) (record : Nat × Bytes) : Unpacking :=
  { state with
    frames := state.frames + 1, previousPts := record.1, printed := state.printed ++ record.2 }

/-- Unpacking counts one frame for each record. -/
theorem behind_frames (state : Unpacking) :
    (records.foldl Unpacking.behind state).frames = state.frames + records.length := by
  induction records generalizing state with
  | nil => rfl
  | cons record records ih =>
      rw [List.foldl_cons, ih, List.length_cons, Unpacking.behind]
      dsimp only
      omega

/-- Unpacking prints the data of the records one behind another. -/
theorem behind_printed (state : Unpacking) :
    (records.foldl Unpacking.behind state).printed = state.printed ++ (records.map Prod.snd).flatten := by
  induction records generalizing state with
  | nil => simp
  | cons record records ih =>
      rw [List.foldl_cons, ih, List.map_cons, List.flatten_cons, Unpacking.behind, List.append_assoc]

/-- At the end of the input unpacking is done. -/
theorem unpackFrames_nil {state : Unpacking} : unpackFrames frameSize state [] = .ok state := by
  rw [unpackFrames]
  simp

/-- A record in front of the input, whatever its time is: `unpack` refuses one that comes too early, and
otherwise goes on behind it. -/
theorem unpackFrames_cons {state : Unpacking} {record : Nat × Bytes} {time : Nat} {rest : Bytes}
    (positive : 0 < frameSize) (limit : frameSize ≤ maxMediaPayload - recordSize)
    (sized : record.2.length = frameSize)
    (read : parseRecordHeader ((recordBytes record ++ rest).take recordSize) = (time, 0, frameSize)) :
    unpackFrames frameSize state (recordBytes record ++ rest) =
      if (time : Int) < state.previousPts then .error "decoded PTS is not monotonic"
      else unpackFrames frameSize (state.behind (time, record.2)) rest := by
  have front : ((recordBytes record ++ rest).take recordSize).length = recordSize := by
    rw [recordBytes, List.append_assoc, List.length_take, List.length_append, length_recordHeader]
    omega
  have behind : (recordBytes record ++ rest).drop recordSize = record.2 ++ rest := by
    rw [recordBytes, List.append_assoc]
    exact List.drop_left' length_recordHeader
  have filled : record.2 ≠ [] := List.ne_nil_of_length_pos (by omega)
  have within : ¬maxMediaPayload - recordSize < frameSize := by omega
  rw [unpackFrames, if_neg (by rw [front]; decide), dif_neg (by rw [front]; simp), read]
  dsimp only
  rw [if_neg within, behind, List.take_left' sized, List.drop_left' sized, if_neg (by rw [sized]; simp),
    unpackFrame, if_neg filled, if_neg (by rw [sized]; simp)]
  by_cases early : (time : Int) < state.previousPts
  · rw [if_pos early, if_pos early]
  · rw [if_neg early, if_neg early]
    dsimp only [Unpacking.behind]
    rw [if_neg (by decide)]

/-- The header of a record whose time fits is read back in front of the input. -/
theorem parseRecordHeader_recordBytes {record : Nat × Bytes} {rest : Bytes} (time : record.1 < 2 ^ 64)
    (limit : record.2.length ≤ maxMediaPayload) :
    parseRecordHeader ((recordBytes record ++ rest).take recordSize) = (record.1, 0, record.2.length) := by
  rw [recordBytes, List.append_assoc]
  exact parseRecordHeader_record time limit

/-- `unpack` takes the frames out of records whose times fit and increase, and goes on with what follows
them. -/
theorem unpackFrames_records {state : Unpacking} {rest : Bytes} (positive : 0 < frameSize)
    (limit : frameSize ≤ maxMediaPayload - recordSize)
    (sized : ∀ record ∈ records, record.2.length = frameSize)
    (fits : ∀ record ∈ records, record.1 < 2 ^ 64)
    (increasing : (records.map Prod.fst).Pairwise (· < ·))
    (later : ∀ record ∈ records, state.previousPts ≤ record.1) :
    unpackFrames frameSize state ((records.map recordBytes).flatten ++ rest) =
      unpackFrames frameSize (records.foldl Unpacking.behind state) rest := by
  induction records generalizing state with
  | nil => rfl
  | cons record records ih =>
      rw [List.map_cons, List.pairwise_cons] at increasing
      have size := sized record List.mem_cons_self
      have read := @parseRecordHeader_recordBytes record ((records.map recordBytes).flatten ++ rest)
        (fits record List.mem_cons_self) (by omega)
      rw [size] at read
      rw [List.map_cons, List.flatten_cons, List.append_assoc, unpackFrames_cons positive limit size read,
        if_neg (not_lt.mpr (later record List.mem_cons_self)), List.foldl_cons]
      apply ih
      · exact fun other member => sized other (List.mem_cons_of_mem _ member)
      · exact fun other member => fits other (List.mem_cons_of_mem _ member)
      · exact increasing.2
      · intro other member
        have above := increasing.1 other.1 (List.mem_map_of_mem member)
        rw [Unpacking.behind]
        dsimp only
        omega

/-- `unpack` takes the frames out of their records, when the last time fits. -/
theorem unpackFrames_frameRecords {numerator denominator : ℚ} {frames : List Bytes} {rest : Bytes}
    (positive : 0 < numerator) (other : 0 < denominator) (rated : numerator / denominator ≤ 240)
    (solid : 0 < frameSize) (limit : frameSize ≤ maxMediaPayload - recordSize)
    (sized : ∀ frame ∈ frames, frame.length = frameSize)
    (lastTime : framePts numerator denominator (frames.length - 1) < 2 ^ 64) :
    unpackFrames frameSize {}
        (((frameRecords numerator denominator 0 frames).map recordBytes).flatten ++ rest) =
      unpackFrames frameSize ((frameRecords numerator denominator 0 frames).foldl Unpacking.behind {})
        rest := by
  apply unpackFrames_records solid limit
  · exact fun record => frameRecords_sized sized
  · exact fun record => frameRecords_fits positive other rated lastTime
  · exact frameRecords_increasing positive other rated 0
  · intro record _
    dsimp only
    omega

end Unpack

/-! ### The size of a frame -/

section Size

variable {width height frameSize : Nat} {failure : String}

/-- A frame size that is accepted is half again as many bytes as there are pixels, and fits a record. -/
theorem of_i420FrameSize (sized : i420FrameSize width height failure = .ok frameSize) :
    frameSize = width * height * 3 / 2 ∧ 0 < frameSize ∧ frameSize ≤ maxMediaPayload - recordSize := by
  have cut : truncate ((width : ℚ) * height * 3 / 2) = (width * height * 3 / 2 : Nat) := by
    rw [← truncate_natCast_div]
    push_cast
    rfl
  rw [i420FrameSize, cut] at sized
  split at sized
  · cases sized
  next within =>
    cases sized
    rw [not_or] at within
    rw [Int.toNat_natCast]
    exact ⟨rfl, by omega, by omega⟩

/-- The text of the failure decides nothing. -/
theorem i420FrameSize_failure (other : String)
    (sized : i420FrameSize width height failure = .ok frameSize) :
    i420FrameSize width height other = .ok frameSize := by
  rw [i420FrameSize] at sized ⊢
  split at sized
  · cases sized
  next within =>
    rw [if_neg within]
    exact sized

/-- The client computes the size with 64 bits and without a fraction, to the same value. -/
theorem clientFrameSize {clientWidth clientHeight : UInt32} (wide : clientWidth.toNat = width)
    (high : clientHeight.toNat = height) (sized : i420FrameSize width height failure = .ok frameSize) :
    UInt64.ofNat frameSize = clientWidth.toUInt64 * clientHeight.toUInt64 * 3 / 2 := by
  obtain ⟨same, -, limit⟩ := of_i420FrameSize sized
  have bound : width * height * 3 / 2 ≤ 8388592 := same ▸ limit
  have three : (3 : UInt64).toNat = 3 := rfl
  have two : (2 : UInt64).toNat = 2 := rfl
  rw [← UInt64.toNat_inj, UInt64.toNat_div, UInt64.toNat_mul, UInt64.toNat_mul, UInt32.toNat_toUInt64,
    UInt32.toNat_toUInt64, wide, high, three, two, UInt64.toNat_ofNat', same]
  have area : width * height < 2 ^ 64 := by omega
  rw [Nat.mod_eq_of_lt area, Nat.mod_eq_of_lt (by omega), Nat.mod_eq_of_lt (by omega)]

end Size

/-! ### The check of the worker -/

/-- How the worker refuses a packet for an encoder whose time is not behind the time before. -/
def refusedTime (session : CodecSession) : Outcome :=
  { session, status := codecErrorProtocol, error := some "encoder frame PTS must increase monotonically" }

/-- A packet with a later time is not refused for it. -/
theorem queueInternal_ne_refusedTime {session : CodecSession} {data : Bytes} {time : UInt64}
    {flags : UInt32} (encoder : session.transcoder = false)
    (later : session.haveEncoderPts = true → session.lastEncoderPts < time) :
    queueInternal session data time flags ≠ pure (refusedTime session) := by
  have kept : ¬(session.encoder && !session.transcoder && flags &&& bufferFlagCodecConfig == 0 &&
      session.haveEncoderPts && decide (time ≤ session.lastEncoderPts)) = true := by
    rw [Bool.and_eq_true, Bool.and_eq_true, decide_eq_true_eq]
    rintro ⟨⟨-, before⟩, early⟩
    exact absurd (later before) (UInt64.not_lt.mpr early)
  rw [queueInternal, if_neg kept, pumpIfTranscoder, encoder]
  split
  · simp [refusedTime, pure]
  · split
    · simp [refusedTime, pure]
    · simp [pure, bind, Interaction.bind, Platform.call, Interaction.call]

/-! ### Result -/

section Result

variable {width height frameRate inputPath outputPath : Text} {columns rows frameSize count : Nat}
variable {numerator denominator : ℚ} {source : Bytes} {inputs : Inputs}

/-- The dimensions and the rate are accepted by `pack-i420`, with what it makes of them. -/
structure RawAccepted (width height frameRate : Text) (columns rows frameSize : Nat)
    (numerator denominator : ℚ) : Prop where
  wide : positiveInt width "width" = .ok columns
  high : positiveInt height "height" = .ok rows
  sized : i420FrameSize columns rows "invalid I420 frame size" = .ok frameSize
  rated : ∃ rate, parseRate frameRate = .ok rate
  split : splitRate frameRate = .ok (numerator, denominator)

/-- Records whose data are the frames of an input, with the times in their headers, the size that the
client requires of an encoder and no time that the worker refuses. -/
structure RawFraming (columns rows : Nat) (source : Bytes) (records : List (Nat × Bytes)) : Prop where
  data : (records.map Prod.snd).flatten = source
  headers : ∀ record ∈ records,
    parseRecordHeader ((recordBytes record).take recordSize) = (record.1, 0, record.2.length)
  required : ∀ record ∈ records, ∀ clientWidth clientHeight : UInt32,
    clientWidth.toNat = columns → clientHeight.toNat = rows →
      UInt64.ofNat record.2.length = clientWidth.toUInt64 * clientHeight.toUInt64 * 3 / 2
  increasing : (records.map Prod.fst).Pairwise (· < ·)
  queued : ∀ before record after, records = before ++ record :: after → ∀ session : CodecSession,
    session.transcoder = false →
      (session.haveEncoderPts = true →
        ∃ earlier ∈ before, session.lastEncoderPts = UInt64.ofNat earlier.1) →
        queueInternal session record.2 (UInt64.ofNat record.1) 0 ≠ pure (refusedTime session)

/-- `pack-i420` on accepted arguments and whole frames. -/
theorem commandPackI420_of_frames {frames : List Bytes}
    (accepted : RawAccepted width height frameRate columns rows frameSize numerator denominator)
    (filled : frames ≠ []) (sized : ∀ frame ∈ frames, frame.length = frameSize)
    (read : inputs.contents inputPath = some frames.flatten) :
    commandPackI420 inputs [inputPath, width, height, frameRate, outputPath] =
      .ok (reportCount "packed_i420_frames" frames.length outputPath (binaryOutput outputPath
        ((frameRecords numerator denominator 0 frames).map recordBytes).flatten)) := by
  obtain ⟨rate, rated⟩ := accepted.rated
  have nonzero : ¬0 + frames.length = 0 := by
    rw [Nat.zero_add, List.length_eq_zero_iff]
    exact filled
  rw [commandPackI420, packI420, accepted.wide, accepted.high]
  simp only [bind, Except.bind, accepted.sized, rated, accepted.split, binaryInput, read]
  rw [packFrames_flatten (of_i420FrameSize accepted.sized).2.1 sized]
  dsimp only
  rw [if_neg nonzero]
  simp only [Nat.zero_add, List.nil_append]

/-- `unpack` on accepted dimensions, from what its loop returns. -/
theorem commandUnpack_of_loop {packed : Bytes} {state : Unpacking}
    (accepted : RawAccepted width height frameRate columns rows frameSize numerator denominator)
    (read : inputs.contents inputPath = some packed) (filled : state.frames ≠ 0)
    (loop : unpackFrames frameSize {} packed = .ok state) :
    commandUnpack inputs [inputPath, outputPath, width, height] =
      .ok (reportCount "unpacked_i420_frames" state.frames outputPath
        (binaryOutput outputPath state.printed)) := by
  rw [commandUnpack, unpackI420, accepted.wide, accepted.high]
  simp only [bind, Except.bind, i420FrameSize_failure _ accepted.sized, binaryInput, read, loop]
  rw [if_neg filled]

/-- Input that is cut into whole frames is framed by their records when the last time fits its field. -/
theorem rawFraming_of_frames {frames : List Bytes}
    (accepted : RawAccepted width height frameRate columns rows frameSize numerator denominator)
    (sized : ∀ frame ∈ frames, frame.length = frameSize)
    (lastTime : framePts numerator denominator (frames.length - 1) < 2 ^ 64) :
    RawFraming columns rows frames.flatten (frameRecords numerator denominator 0 frames) := by
  obtain ⟨positive, other⟩ := pos_of_splitRate accepted.split
  obtain ⟨rate, rated⟩ := accepted.rated
  have within := (of_parseRate rated accepted.split).2
  obtain ⟨-, -, limit⟩ := of_i420FrameSize accepted.sized
  have fits : ∀ record ∈ frameRecords numerator denominator 0 frames, record.1 < 2 ^ 64 :=
    fun record => frameRecords_fits positive other within lastTime
  have increasing := @frameRecords_increasing _ _ frames positive other within 0
  refine ⟨by rw [frameRecords_data], ?_, ?_, increasing, ?_⟩
  · intro record member
    have read := @parseRecordHeader_recordBytes record [] (fits record member)
      (by rw [frameRecords_sized sized member]; omega)
    rwa [List.append_nil] at read
  · intro record member clientWidth clientHeight wide high
    rw [frameRecords_sized sized member]
    exact clientFrameSize wide high accepted.sized
  · intro before record after parts session encoder last
    apply queueInternal_ne_refusedTime encoder
    intro known
    obtain ⟨earlier, among, same⟩ := last known
    rw [parts] at increasing fits
    rw [List.map_append, List.pairwise_append] at increasing
    have above := increasing.2.2 earlier.1 (List.mem_map_of_mem among) record.1 (by simp)
    have first := fits earlier (List.mem_append_left _ among)
    have second := fits record (by simp)
    rw [same, UInt64.lt_iff_toNat_lt, UInt64.toNat_ofNat', UInt64.toNat_ofNat', Nat.mod_eq_of_lt first,
      Nat.mod_eq_of_lt second]
    exact above

/-- Whole frames whose last time has 64 bits: `pack-i420` makes a record of each of them, and `unpack`
takes the same bytes and the same count out of the records. -/
theorem raw_frames_round_trip
    (accepted : RawAccepted width height frameRate columns rows frameSize numerator denominator)
    (filled : 1 ≤ count) (whole : source.length = count * frameSize)
    (lastTime : framePts numerator denominator (count - 1) < 2 ^ 64)
    (read : inputs.contents inputPath = some source) :
    ∃ records : List (Nat × Bytes), records.length = count ∧ RawFraming columns rows source records ∧
      commandPackI420 inputs [inputPath, width, height, frameRate, outputPath] =
        .ok (reportCount "packed_i420_frames" count outputPath
          (binaryOutput outputPath (records.map recordBytes).flatten)) ∧
      ∀ (later : Inputs) (packedPath rawPath : Text),
        later.contents packedPath = some (records.map recordBytes).flatten →
          commandUnpack later [packedPath, rawPath, width, height] =
            .ok (reportCount "unpacked_i420_frames" count rawPath (binaryOutput rawPath source)) := by
  obtain ⟨positive, other⟩ := pos_of_splitRate accepted.split
  obtain ⟨rate, rated⟩ := accepted.rated
  have within := (of_parseRate rated accepted.split).2
  obtain ⟨-, solid, limit⟩ := of_i420FrameSize accepted.sized
  obtain ⟨frames, length, sized, rfl⟩ := exists_frames whole
  rw [← length] at lastTime
  refine ⟨frameRecords numerator denominator 0 frames, by rw [frameRecords_length, length],
    rawFraming_of_frames accepted sized lastTime, ?_, ?_⟩
  · rw [← length]
    exact commandPackI420_of_frames accepted (List.ne_nil_of_length_pos (by omega)) sized read
  · intro later packedPath rawPath stored
    have loop := @unpackFrames_frameRecords frameSize _ _ frames [] positive other within solid limit
      sized lastTime
    rw [List.append_nil, unpackFrames_nil] at loop
    have counted :
        ((frameRecords numerator denominator 0 frames).foldl Unpacking.behind {}).frames = count := by
      rw [behind_frames, frameRecords_length, length]
      dsimp only
      omega
    have printed : ((frameRecords numerator denominator 0 frames).foldl Unpacking.behind {}).printed =
        frames.flatten := by
      rw [behind_printed, frameRecords_data]
      rfl
    have unpacked := @commandUnpack_of_loop width height frameRate packedPath rawPath columns rows
      frameSize numerator denominator later _ _ accepted stored (by omega) loop
    rwa [counted, printed] at unpacked

/-- Two frames of two columns and two rows. -/
def twoFrames : Bytes := [1, 2, 3, 4, 5, 6, 7, 8, 9, 10, 11, 12]

theorem raw_frames_round_trip_two :
    ∃ records : List (Nat × Bytes), records.length = 2 ∧ RawFraming 2 2 twoFrames records ∧
      commandPackI420 { json := fun _ => .error "", contents := fun _ => some twoFrames }
          ["in".toList, ['2'], ['2'], "30/1".toList, "out".toList] =
        .ok (reportCount "packed_i420_frames" 2 "out".toList
          (binaryOutput "out".toList (records.map recordBytes).flatten)) ∧
      ∀ (later : Inputs) (packedPath rawPath : Text),
        later.contents packedPath = some (records.map recordBytes).flatten →
          commandUnpack later [packedPath, rawPath, ['2'], ['2']] =
            .ok (reportCount "unpacked_i420_frames" 2 rawPath (binaryOutput rawPath twoFrames)) := by
  have accepted : RawAccepted ['2'] ['2'] "30/1".toList 2 2 6 30 1 :=
    ⟨rfl, rfl, by decide +kernel, ⟨30, by decide +kernel⟩, by decide +kernel⟩
  exact raw_frames_round_trip accepted (by decide) rfl (by decide +kernel) rfl

end Result

/-! ### Times beyond the header -/

section Wrapped

variable {numerator denominator : ℚ} {frameSize : Nat} {frames : List Bytes} {before last : Bytes}

/-- A frame whose time wraps to one before the last is refused by `unpack`, for any frames in front of
it whose times fit. -/
theorem unpackFrames_wrapped (positive : 0 < numerator) (other : 0 < denominator)
    (rated : numerator / denominator ≤ 240) (solid : 0 < frameSize)
    (limit : frameSize ≤ maxMediaPayload - recordSize)
    (sized : ∀ frame ∈ frames ++ [before, last], frame.length = frameSize)
    (fits : framePts numerator denominator frames.length < 2 ^ 64)
    (wraps : (framePts numerator denominator (frames.length + 1)).toNat % 2 ^ 64 <
      (framePts numerator denominator frames.length).toNat) :
    unpackFrames frameSize {}
        ((frameRecords numerator denominator 0 (frames ++ [before, last])).map recordBytes).flatten =
      .error "decoded PTS is not monotonic" := by
  have kept : ∀ frame ∈ frames ++ [before], frame.length = frameSize := by
    intro frame member
    apply sized
    rw [← List.singleton_append, ← List.append_assoc]
    exact List.mem_append_left _ member
  have lastSize : last.length = frameSize := sized last (by simp)
  have lastTime : framePts numerator denominator ((frames ++ [before]).length - 1) < 2 ^ 64 := by
    rwa [List.length_append, List.length_singleton, Nat.add_sub_cancel]
  have previous : ((frameRecords numerator denominator 0 (frames ++ [before])).foldl
      Unpacking.behind {}).previousPts = (framePts numerator denominator frames.length).toNat := by
    rw [frameRecords_append, List.foldl_append, Nat.zero_add]
    rfl
  have read : parseRecordHeader
      ((recordBytes ((framePts numerator denominator (frames.length + 1)).toNat, last) ++ []).take
        recordSize) =
        ((framePts numerator denominator (frames.length + 1)).toNat % 2 ^ 64, 0, frameSize) := by
    rw [List.append_nil, recordBytes, recordHeader_mod, lastSize]
    exact parseRecordHeader_record (Nat.mod_lt _ (by decide)) (by omega)
  have parts : frames ++ [before, last] = (frames ++ [before]) ++ [last] := by simp
  rw [parts, frameRecords_append, List.map_append, List.flatten_append,
    unpackFrames_frameRecords positive other rated solid limit kept lastTime, Nat.zero_add,
    List.length_append, List.length_singleton]
  have refused := @unpackFrames_cons _ ((frameRecords numerator denominator 0 (frames ++ [before])).foldl
    Unpacking.behind {}) _ _ [] solid limit lastSize read
  rw [previous, if_pos (by omega)] at refused
  simpa [frameRecords] using refused

/-- Frames of one byte. -/
def byteFrames (count : Nat) : List Bytes := List.replicate count [0] ++ [[0], [0]]

def inputsOf (contents : Bytes) : Inputs where
  json := fun _ => .error "malformed JSON string"
  contents := fun _ => some contents

/-- At one frame a second the times are whole seconds. -/
theorem framePts_one (index : Nat) : framePts 1 1 index = (index * 1000000 : Nat) := by
  have plain : (index : ℚ) * 1000000 * 1 / 1 = ((index * 1000000 : Nat) : ℚ) / (1 : Nat) := by
    push_cast
    ring
  rw [framePts, plain, truncate_natCast_div, Nat.div_one]

/-- With one frame a second, the time of the last of enough frames wraps; `pack-i420` makes the record
all the same, and `unpack` refuses it. -/
theorem byteFrames_refused {count : Nat} (fits : count * 1000000 < 2 ^ 64)
    (wraps : (count + 1) * 1000000 % 2 ^ 64 < count * 1000000) :
    ∃ packed, commandPackI420 (inputsOf (byteFrames count).flatten)
        ["in".toList, ['1'], ['1'], "1/1".toList, "out".toList] =
      .ok (reportCount "packed_i420_frames" (count + 2) "out".toList (binaryOutput "out".toList packed)) ∧
        commandUnpack (inputsOf packed) ["out".toList, "raw".toList, ['1'], ['1']] =
          .error "decoded PTS is not monotonic" := by
  have accepted : RawAccepted ['1'] ['1'] "1/1".toList 1 1 1 1 1 :=
    ⟨rfl, rfl, by decide +kernel, ⟨1, by decide +kernel⟩, by decide +kernel⟩
  have sized : ∀ frame ∈ byteFrames count, frame.length = 1 := by
    intro frame member
    rcases List.mem_append.mp member with early | late
    · rw [(List.mem_replicate.mp early).2]
      rfl
    · have same : frame = [0] := by simpa using late
      rw [same]
      rfl
  have counted : (List.replicate count ([0] : Bytes)).length = count := List.length_replicate
  have length : (byteFrames count).length = count + 2 := by
    rw [byteFrames, List.length_append, counted]
    rfl
  have packed := @commandPackI420_of_frames _ _ _ "in".toList "out".toList _ _ _ _ _
    (inputsOf (byteFrames count).flatten) _ accepted (List.ne_nil_of_length_pos (by omega)) sized rfl
  have refused := @unpackFrames_wrapped 1 1 1 (List.replicate count [0]) [0] [0] (by norm_num) (by norm_num)
    (by norm_num) (by decide) (by decide) sized (by rw [counted, framePts_one]; exact_mod_cast fits)
    (by rw [counted, framePts_one, framePts_one]; exact wraps)
  rw [length] at packed
  refine ⟨_, packed, ?_⟩
  rw [commandUnpack, unpackI420, accepted.wide, accepted.high]
  simp only [bind, Except.bind, i420FrameSize_failure _ accepted.sized, binaryInput, inputsOf]
  rw [byteFrames, refused]

/-- `pack-i420` makes records of 18446744073711 frames of one byte that `unpack` refuses: at one frame a
second the last time no longer fits. -/
theorem longFrames_refused :
    ∃ packed, commandPackI420 (inputsOf (byteFrames 18446744073709).flatten)
        ["in".toList, ['1'], ['1'], "1/1".toList, "out".toList] =
      .ok (reportCount "packed_i420_frames" 18446744073711 "out".toList
        (binaryOutput "out".toList packed)) ∧
        commandUnpack (inputsOf packed) ["out".toList, "raw".toList, ['1'], ['1']] =
          .error "decoded PTS is not monotonic" :=
  byteFrames_refused (by norm_num) (by norm_num)

end Wrapped

end DawnShell.Adapter
