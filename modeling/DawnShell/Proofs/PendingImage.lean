/-
Module: DawnShell.Proofs.PendingImage
Layer: Proofs
Purpose: The pending image of a decoder session.  The image reader is a queue that the log of the
  platform is replayed on: a rendered buffer joins it with its timestamp and flags, an acquired image
  leaves it.  Over runs in which no acquired image is rejected and every flush drains the queue,
  `pending_image` says exactly whether one rendered image is still to be acquired, and a delivered
  image carries the timestamp and the flags of its own buffer.  A rejected image breaks both.
Trusted boundary: none
Main exports: ImageTag, Reader, Reader.observe, ImageStep, PendingAgrees, Regular,
  pending_image_agrees, rejected_image_stays_pending
-/
import DawnShell.Lib.Observer
import DawnShell.Lib.Transition
import DawnShell.Proofs.ReplyBounds

namespace DawnShell

open Wire Interaction Transition

/-! ### The image reader -/

/-- What a decoder buffer says about its image. -/
structure ImageTag where
  presentationTimeUs : UInt64
  flags : UInt32
deriving DecidableEq, Repr

def BufferInfo.tag (info : BufferInfo) : ImageTag :=
  ⟨info.presentationTimeUs.toUInt64, info.flags⟩

/-- The reader: the buffer the codec delivered last, the rendered images nobody has acquired, oldest
first, and the images that were acquired for delivery. -/
structure Reader where
  dequeued : BufferInfo := ⟨0, 0, 0, 0⟩
  waiting : List ImageTag := []
  acquired : List ImageTag := []

/-- The oldest rendered image leaves the reader. -/
def Reader.acquire (reader : Reader) : Option Reader :=
  match reader.waiting with
  | [] => none
  | tag :: waiting => some { reader with waiting, acquired := reader.acquired ++ [tag] }

/-- What an exchange does to the reader.  An image can be acquired only when one was rendered; it need
not have arrived by then.  Images that `accepts` does not accept are ruled out. -/
def Reader.observe (accepts : Image → Bool) (reader : Reader) :
    Exchange Platform.Call Platform.Answer → Option Reader
  | ⟨.dequeueOutputBuffer _ _, answer⟩ => some { reader with dequeued := answer.2 }
  | ⟨.releaseOutputBuffer _ _ true, status⟩ =>
      some (if status = amediaOk then
        { reader with waiting := reader.waiting ++ [reader.dequeued.tag] } else reader)
  | ⟨.acquireNextImage _, answer⟩ =>
      match if answer.1 = amediaOk then answer.2 else none with
      | none => some reader
      | some image => if accepts image then reader.acquire else none
  | ⟨.drainImages _, count⟩ =>
      if count ≤ reader.waiting.length then
        some { reader with waiting := reader.waiting.drop count }
      else none
  | _ => some reader

/-- Any image at all. -/
def anyImage (_ : Image) : Bool := true

/-- An image that `normalize_image` takes, for an output buffer of the given capacity. -/
def normalizes (capacity : Nat) (image : Image) : Bool :=
  (normalizeImage image (capacity - 16)).isOk

/-! ### Runs -/

/-- The calls on a decoder session that the pending image depends on. -/
inductive ImageOp where
  | dequeue (timeoutMs : UInt32) (capacity : Nat)
  | flush

def ImageOp.perform : ImageOp → CodecSession → Platform Outcome
  | .dequeue timeoutMs capacity, session => dscwCodecDequeue session timeoutMs capacity
  | .flush, session => dscwCodecFlush session

/-- One call: what was called, what it exchanged with the platform, what it returned, and the images
it acquired for delivery. -/
structure ImageCall where
  op : ImageOp
  log : Platform.Log
  outcome : Outcome
  acquired : List ImageTag

/-- A session and its reader after one more call. -/
structure ImageStep (before : CodecSession × Reader) (call : ImageCall)
    (after : CodecSession × Reader) : Prop where
  run : (call.op.perform before.1).Runs call.log call.outcome
  follows : observed (Reader.observe anyImage) before.2 call.log = some after.2
  acquired : after.2.acquired = before.2.acquired ++ call.acquired
  session : after.1 = call.outcome.session

/-- The images a call acquires are normalized, and a flush drains everything that was rendered. -/
def Regular (before : CodecSession × Reader) (call : ImageCall) : Prop :=
  match call.op with
  | .dequeue _ capacity => ∀ reader image,
      ⟨.acquireNextImage reader, (amediaOk, some image)⟩ ∈ call.log → normalizes capacity image = true
  | .flush => ∀ reader count,
      ⟨.drainImages reader, count⟩ ∈ call.log → count = before.2.waiting.length

/-- A decoder session as it is created. -/
structure FreshDecoder (session : CodecSession) : Prop where
  encoder : session.encoder = false
  transcoder : session.transcoder = false
  reader : session.imageReader ≠ none
  pending : session.pendingImage = false

/-! ### One call -/

/-- `pending_image` and its tag agree with the reader. -/
def PendingAgrees (session : CodecSession) (reader : Reader) : Prop :=
  reader.waiting = if session.pendingImage then
    [⟨session.pendingImagePts, session.pendingImageFlags⟩] else []

/-- What a call has delivered, by the images it acquired: no image, or one image under its own tag. -/
def Delivers (acquired : List ImageTag) (outcome : Outcome) : Prop :=
  (acquired = [] ∧ (outcome.status = codecOk → outcome.output.length ≤ 16)) ∨
    ∃ tag pixels, acquired = [tag] ∧ outcome.status = codecOk ∧
      outcome.output =
        recordHeader tag.presentationTimeUs tag.flags (UInt32.ofNat pixels.length) ++ pixels

/-- The kind of a session and its image reader are as before. -/
structure SameDecoder (before after : CodecSession) : Prop where
  encoder : after.encoder = before.encoder
  transcoder : after.transcoder = before.transcoder
  reader : after.imageReader = before.imageReader

/-- A session is the same decoder as itself. -/
theorem SameDecoder.refl (session : CodecSession) : SameDecoder session session := ⟨rfl, rfl, rfl⟩

/-- Sessions that are the same decoder as a third are so among themselves. -/
theorem SameDecoder.trans {first second third : CodecSession} (one : SameDecoder first second)
    (two : SameDecoder second third) : SameDecoder first third :=
  ⟨two.encoder.trans one.encoder, two.transcoder.trans one.transcoder,
    two.reader.trans one.reader⟩

/-- What a dequeue leaves: the session and its reader agree, and what was delivered is tagged right. -/
structure Kept (session : CodecSession) (reader : Reader) (last : Reader) (outcome : Outcome) :
    Prop where
  same : SameDecoder session outcome.session
  agrees : PendingAgrees outcome.session last
  delivers : ∃ acquired, last.acquired = reader.acquired ++ acquired ∧ Delivers acquired outcome

section Calls

variable {accepts : Image → Bool} {session : CodecSession} {reader : Reader} {timeoutMs : UInt32}
  {capacity : Nat}

/-- An outcome that is not OK, or has no data behind a header, delivers no image. -/
theorem delivers_nothing {outcome : Outcome}
    (short : outcome.status = codecOk → outcome.output.length ≤ 16) (last : Reader)
    (same : last.acquired = reader.acquired) :
    ∃ acquired, last.acquired = reader.acquired ++ acquired ∧ Delivers acquired outcome :=
  ⟨[], by rw [same, List.append_nil], .inl ⟨rfl, short⟩⟩

/-- A call that acquires nothing and returns no record. -/
theorem kept_failed {outcome : Outcome} {last : Reader} (same : SameDecoder session outcome.session)
    (agrees : PendingAgrees outcome.session last) (unread : last.acquired = reader.acquired)
    (failed : outcome.status ≠ codecOk) : Kept session reader last outcome :=
  ⟨same, agrees, delivers_nothing (fun ok => absurd ok failed) last unread⟩

/-- The buffer that was dequeued last does not matter. -/
theorem Kept.of_dequeued {last : Reader} {outcome : Outcome} {info : BufferInfo}
    (kept : Kept session { reader with dequeued := info } last outcome) :
    Kept session reader last outcome :=
  ⟨kept.same, kept.agrees, kept.delivers⟩

/-- Acquiring either takes the oldest image that the reader holds, which is one that is accepted, or
ends with a failure and leaves the reader as it was. -/
theorem acquireAttempts_tracks (handle : Option Handle) (deadline : UInt64) (polls : Nat) :
    Tracks (Reader.observe accepts) reader (acquireAttempts handle deadline polls)
      fun last result => match result with
        | .error status => last = reader ∧ status ≠ codecOk
        | .ok image => accepts image = true ∧ reader.acquire = some last := by
  induction polls with
  | zero => exact tracks_pure ⟨rfl, show codecAgain ≠ codecOk by decide⟩
  | succ polls ih =>
      rw [acquireAttempts]
      apply tracks_call
      intro answer next moved
      rw [Reader.observe] at moved
      split
      next image taken =>
        simp only [taken] at moved
        split at moved
        next accepted => exact tracks_pure ⟨accepted, moved⟩
        next => cases moved
      next missing =>
        simp only [missing] at moved
        cases moved
        split
        · exact tracks_pure ⟨rfl, show codecErrorCodec ≠ codecOk by decide⟩
        refine tracks_quiet (fun _ => rfl) fun slept => ?_
        refine tracks_quiet (fun _ => rfl) fun now => ?_
        split
        · exact ih
        · exact tracks_pure ⟨rfl, show codecAgain ≠ codecOk by decide⟩

/-- An image that is acquired was waiting and is accepted; a failure takes none. -/
theorem acquireImage_tracks :
    Tracks (Reader.observe accepts) reader (acquireImage session timeoutMs)
      fun last result => match result with
        | .error status => last = reader ∧ status ≠ codecOk
        | .ok image => accepts image = true ∧ reader.acquire = some last := by
  rw [acquireImage]
  exact tracks_quiet (fun _ => rfl) fun now => acquireAttempts_tracks _ _ _

/-- The pending image is delivered under its tag, or stays pending when the reader has none to give yet.
-/
theorem outputPendingImage_tracks (pending : session.pendingImage = true)
    (agrees : PendingAgrees session reader) :
    Tracks (Reader.observe (normalizes capacity)) reader
      (outputPendingImage session timeoutMs capacity) (Kept session reader) := by
  rw [outputPendingImage]
  apply tracks_bind
  refine acquireImage_tracks.mono fun last acquired result => ?_
  cases acquired with
  | error status =>
      obtain ⟨rfl, failed⟩ := result
      exact tracks_pure (kept_failed (.refl session) agrees rfl failed)
  | ok image =>
      obtain ⟨accepted, taken⟩ := result
      rw [PendingAgrees, pending, if_pos rfl] at agrees
      rw [Reader.acquire, agrees] at taken
      cases taken
      refine tracks_quiet (fun _ => rfl) fun deleted => ?_
      cases normalized : normalizeImage image (capacity - 16) with
      | error failure =>
          rw [normalizes, normalized] at accepted
          cases accepted
      | ok pixels =>
          refine tracks_pure ⟨⟨rfl, rfl, rfl⟩, rfl, _, rfl, .inr ⟨_, pixels, rfl, rfl, rfl⟩⟩

/-- A decoder buffer without data is delivered as a header alone, and no image is rendered for it. -/
theorem copyOutputBuffer_tracks {handle : Option Handle} {index : Nat} {info : BufferInfo}
    (empty : ¬0 < info.size) (agrees : PendingAgrees session reader) :
    Tracks (Reader.observe accepts) reader (copyOutputBuffer session handle index info capacity)
      (Kept session reader) := by
  rw [copyOutputBuffer]
  split
  · refine tracks_quiet (fun _ => rfl) fun released => ?_
    exact tracks_pure (kept_failed (.refl session) agrees rfl (show codecErrorLimit ≠ codecOk by decide))
  refine tracks_quiet (fun _ => rfl) fun source => ?_
  dsimp only
  split
  next invalid => exact absurd invalid.1 empty
  rw [List.append_nil]
  refine tracks_quiet (fun _ => rfl) fun released => ?_
  have delivered : SameDecoder session (session.deliverOutput info) ∧
      PendingAgrees (session.deliverOutput info) reader := by
    rw [CodecSession.deliverOutput, if_neg empty]
    split
    · exact ⟨⟨rfl, rfl, rfl⟩, agrees⟩
    · exact ⟨.refl session, agrees⟩
  refine tracks_pure ⟨delivered.1, delivered.2, delivers_nothing (fun _ => ?_) reader rfl⟩
  rw [List.length_take, length_recordHeader]
  exact Nat.min_le_right _ _

theorem formatRecord_tracks {handle : Option Handle} :
    Tracks (Reader.observe accepts) reader (formatRecord session handle capacity)
      fun last result => last = reader ∧ ∀ failure, result = .error failure →
        failure.status ≠ codecOk := by
  rw [formatRecord]
  split
  · refine tracks_pure ⟨rfl, fun failure same => ?_⟩
    cases same
    exact show codecErrorLimit ≠ codecOk by decide
  · exact tracks_quiet (fun _ => rfl) fun format => tracks_pure ⟨rfl, fun _ same => by cases same⟩

/-- In all its turns the output loop keeps the pending flag in agreement with the images that wait. -/
theorem dequeueAttempts_tracks (handle : Option Handle) (remaining : Nat)
    (idle : session.pendingImage = false) (agrees : PendingAgrees session reader)
    (image : session.encoder = false) (direct : session.transcoder = false) :
    Tracks (Reader.observe (normalizes capacity)) reader
      (dequeueAttempts handle timeoutMs capacity remaining session) (Kept session reader) := by
  induction remaining generalizing reader with
  | zero =>
      exact tracks_pure (kept_failed (.refl session) agrees rfl
        (show codecAgain ≠ codecOk by decide))
  | succ remaining ih =>
      rw [dequeueAttempts]
      apply tracks_call
      rintro dequeued next ⟨⟩
      -- The reader has seen the buffer; nothing else has happened to it.
      generalize seen : { reader with dequeued := dequeued.2 } = next
      replace agrees : PendingAgrees session next := seen ▸ agrees
      suffices kept : Tracks _ next _ (Kept session next) from
        kept.mono fun last outcome kept => (seen ▸ kept).of_dequeued
      dsimp only
      split
      · exact tracks_pure (kept_failed (.refl session) agrees rfl
          (show codecAgain ≠ codecOk by decide))
      split
      · apply tracks_bind
        refine formatRecord_tracks.mono fun last record result => ?_
        obtain ⟨rfl, negative⟩ := result
        cases record with
        | error failure =>
            exact tracks_pure (kept_failed (.refl session) agrees rfl (negative failure rfl))
        | ok bytes =>
            exact tracks_pure (kept_failed ⟨rfl, rfl, rfl⟩ agrees rfl
              (show codecFormatChanged ≠ codecOk by decide))
      split
      · exact ih agrees
      split
      next rendered =>
        rw [PendingAgrees, idle, if_neg Bool.false_ne_true] at agrees
        apply tracks_call
        intro released next moved
        rw [Reader.observe] at moved
        split
        next failed =>
          rw [if_neg failed] at moved
          cases moved
          exact tracks_pure (kept_failed ⟨rfl, rfl, rfl⟩ agrees rfl
            (show codecErrorCodec ≠ codecOk by decide))
        next succeeded =>
          rw [if_pos (not_not.mp succeeded)] at moved
          cases moved
          -- The image of this buffer is the only one the reader has to wait for.
          refine (outputPendingImage_tracks rfl ?_).mono fun last outcome kept => ?_
          · rw [PendingAgrees, agrees, ← seen]
            rfl
          · exact ⟨⟨kept.same.encoder, kept.same.transcoder, kept.same.reader⟩, kept.agrees,
              kept.delivers⟩
      next plain =>
        have empty : ¬0 < dequeued.2.size := by
          simpa [image, direct] using plain
        exact copyOutputBuffer_tracks empty agrees

/-- Asking a decoder for output keeps the pending flag in agreement with the images that wait. -/
theorem dequeueInternal_tracks (agrees : PendingAgrees session reader)
    (image : session.encoder = false) (direct : session.transcoder = false) :
    Tracks (Reader.observe (normalizes capacity)) reader
      (dequeueInternal session timeoutMs capacity) (Kept session reader) := by
  rw [dequeueInternal]
  split
  · exact tracks_pure (kept_failed (.refl session) agrees rfl
      (show codecErrorProtocol ≠ codecOk by decide))
  split
  next pending => exact outputPendingImage_tracks pending agrees
  next idle =>
    rw [if_neg (by rw [direct]; exact Bool.false_ne_true)]
    exact dequeueAttempts_tracks _ _ (Bool.eq_false_iff.mpr idle) agrees image direct

theorem recordLatency_tracks {counters : LatencyCounters} {started : UInt64} :
    Tracks (Reader.observe accepts) reader (recordLatency counters started)
      fun last _ => last = reader :=
  tracks_quiet (fun _ => rfl) fun _ => tracks_pure rfl

/-- Counting a call changes nothing that the pending image depends on. -/
theorem Kept.counted {last : Reader} {outcome : Outcome} {after : CodecSession}
    (kept : Kept session reader last outcome) (same : SameDecoder outcome.session after)
    (pending : after.pendingImage = outcome.session.pendingImage)
    (pts : after.pendingImagePts = outcome.session.pendingImagePts)
    (flags : after.pendingImageFlags = outcome.session.pendingImageFlags) :
    Kept session reader last { outcome with session := after } := by
  refine ⟨kept.same.trans same, ?_, kept.delivers⟩
  rw [PendingAgrees, pending, pts, flags]
  exact kept.agrees

/-- A `DEQUEUE` keeps the pending flag in agreement with the images that wait, and delivers each at most
once. -/
theorem dscwCodecDequeue_tracks (timeoutMs : UInt32) (capacity : Nat)
    (agrees : PendingAgrees session reader)
    (image : session.encoder = false) (direct : session.transcoder = false) :
    Tracks (Reader.observe (normalizes capacity)) reader
      (dscwCodecDequeue session timeoutMs capacity) (Kept session reader) := by
  rw [dscwCodecDequeue]
  refine tracks_quiet (fun _ => rfl) fun started => ?_
  apply tracks_bind
  refine (dequeueInternal_tracks agrees image direct).mono fun last result kept => ?_
  apply tracks_bind
  refine recordLatency_tracks.mono fun _ latency same => ?_
  subst same
  split
  · exact tracks_pure (kept.counted ⟨rfl, rfl, rfl⟩ rfl rfl rfl)
  · unfold CodecSession.countError
    split
    · exact tracks_pure (kept.counted ⟨rfl, rfl, rfl⟩ rfl rfl rfl)
    · exact tracks_pure (kept.counted ⟨rfl, rfl, rfl⟩ rfl rfl rfl)

/-- A flush either fails and keeps the pending image, or drains the reader and leaves nothing pending.
-/
theorem dscwCodecFlush_runs {log : Platform.Log} {outcome : Outcome} {handle : Handle}
    (direct : session.transcoder = false) (read : session.imageReader = some handle)
    (run : (dscwCodecFlush session).Runs log outcome) :
    SameDecoder session outcome.session ∧ outcome.output = [] ∧
      ((∃ status, log = [⟨.flush session.codec, status⟩] ∧
          ∀ reader, PendingAgrees session reader → PendingAgrees outcome.session reader) ∨
        ∃ status count, log = [⟨.flush session.codec, status⟩, ⟨.drainImages handle, count⟩] ∧
          outcome.session.pendingImage = false) := by
  have codecs : flushCodecs session = Platform.call (.flush session.codec) := by
    rw [flushCodecs, direct]
    rfl
  have drains : drainImages session.imageReader = drainImages (some handle) := by rw [read]
  rw [dscwCodecFlush, codecs] at run
  obtain ⟨first, status, rest, flushed, after, rfl⟩ := run.of_bind
  rw [flushed.of_call]
  split at after
  · obtain ⟨rfl, rfl⟩ := after.of_pure
    exact ⟨⟨rfl, rfl, rfl⟩, rfl, .inl ⟨status, rfl, fun _ agrees => agrees⟩⟩
  · rw [drains] at after
    obtain ⟨second, _, last, drained, done, rfl⟩ := after.of_bind
    obtain ⟨taken, count, nothing, asked, finished, rfl⟩ := drained.of_bind
    obtain ⟨rfl, rfl⟩ := done.of_pure
    obtain ⟨rfl, -⟩ := finished.of_pure
    rw [asked.of_call]
    exact ⟨⟨rfl, rfl, rfl⟩, rfl, .inr ⟨status, count, rfl, rfl⟩⟩

end Calls

/-! ### Runs of calls -/

section Runs

variable {before after : CodecSession × Reader} {call : ImageCall}

/-- An observer that accepts every image follows the log of regular images like one that accepts
normalized images only. -/
theorem observed_of_regular {capacity : Nat} {reader last : Reader} {log : Platform.Log}
    (regular : ∀ handle image, ⟨.acquireNextImage handle, (amediaOk, some image)⟩ ∈ log →
      normalizes capacity image = true)
    (follows : observed (Reader.observe anyImage) reader log = some last) :
    observed (Reader.observe (normalizes capacity)) reader log = some last := by
  induction log generalizing reader with
  | nil => exact follows
  | cons exchange log ih =>
      obtain ⟨next, moved, rest⟩ := Option.bind_eq_some_iff.mp follows
      have same : Reader.observe (normalizes capacity) reader exchange = some next := by
        rw [← moved]
        obtain ⟨request, answer⟩ := exchange
        cases request with
        | acquireNextImage handle =>
            obtain ⟨status, image⟩ := answer
            simp only [Reader.observe]
            split
            next => rfl
            next found taken =>
              split at taken
              next ok =>
                subst ok taken
                rw [regular handle found (.head _)]
                rfl
              next => cases taken
        | releaseOutputBuffer codec index render => cases render <;> rfl
        | _ => rfl
      rw [observed, same]
      exact ih (fun handle image member => regular handle image (.tail _ member)) rest

/-- What holds of a decoder session and its reader between two calls. -/
structure ImageInvariant (state : CodecSession × Reader) : Prop where
  encoder : state.1.encoder = false
  transcoder : state.1.transcoder = false
  reader : state.1.imageReader ≠ none
  agrees : PendingAgrees state.1 state.2

/-- A step that leaves the decoder the same keeps its invariant if the flag still agrees. -/
theorem ImageInvariant.of_same {state next : CodecSession × Reader} (invariant : ImageInvariant state)
    (same : SameDecoder state.1 next.1) (agrees : PendingAgrees next.1 next.2) :
    ImageInvariant next :=
  ⟨same.encoder.trans invariant.encoder, same.transcoder.trans invariant.transcoder,
    fun none => invariant.reader (same.reader.symm.trans none), agrees⟩

/-- One call keeps the invariant and delivers what it acquired. The calls are dequeues and flushes, each
regular in the sense above. -/
theorem imageInvariant_step (invariant : ImageInvariant before) (regular : Regular before call)
    (step : ImageStep before call after) :
    ImageInvariant after ∧ Delivers call.acquired call.outcome := by
  obtain ⟨op, log, outcome, acquired⟩ := call
  obtain ⟨run, follows, grown, session⟩ := step
  cases op with
  | dequeue timeoutMs capacity =>
      have tracks := dscwCodecDequeue_tracks timeoutMs capacity invariant.agrees invariant.encoder
        invariant.transcoder
      obtain ⟨same, agrees, taken, more, delivers⟩ :=
        run.of_tracks tracks (observed_of_regular regular follows)
      rw [← session] at same agrees
      have exactly : taken = acquired := List.append_cancel_left (more.symm.trans grown)
      exact ⟨invariant.of_same same agrees, exactly ▸ delivers⟩
  | flush =>
      obtain ⟨handle, read⟩ := Option.ne_none_iff_exists'.mp invariant.reader
      obtain ⟨same, silent, failed | drained⟩ := dscwCodecFlush_runs invariant.transcoder read run
      · obtain ⟨status, rfl, unchanged⟩ := failed
        have still : before.2 = after.2 := Option.some.inj follows
        rw [← session] at same unchanged
        rw [← still] at grown
        refine ⟨invariant.of_same same ?_, .inl ⟨?_, fun _ => ?_⟩⟩
        · exact still ▸ unchanged _ invariant.agrees
        · exact List.self_eq_append_right.mp grown
        · rw [silent]
          exact Nat.zero_le _
      · obtain ⟨status, count, rfl, cleared⟩ := drained
        have whole : count = before.2.waiting.length := regular handle count (by simp)
        subst whole
        simp only [observed, Reader.observe, Option.bind_some, Nat.le_refl, if_pos, List.drop_length,
          Option.some_inj] at follows
        rw [← session] at same cleared
        rw [← follows] at grown
        refine ⟨invariant.of_same same ?_, .inl ⟨?_, fun _ => ?_⟩⟩
        · rw [PendingAgrees, cleared, ← follows]
          rfl
        · exact List.self_eq_append_right.mp grown
        · rw [silent]
          exact Nat.zero_le _

/-- In every run of dequeues and flushes of a decoder session in which each image acquired is one that
`normalize_image` takes and each flush that succeeds drains every image rendered before it,
`pending_image` is set exactly when one rendered image is still to be acquired, and every image that
is delivered carries the timestamp and the flags of the buffer it was rendered from. -/
theorem pending_image_agrees {session : CodecSession} {trace : List ((CodecSession × Reader) × ImageCall)}
    {state : CodecSession × Reader} (fresh : FreshDecoder session)
    (run : Run ImageStep (session, {}) trace state) (regular : Meets Regular trace) :
    (state.1.pendingImage = true ↔ state.2.waiting.length = 1) ∧
      ∀ entry ∈ trace, Delivers entry.2.acquired entry.2.outcome := by
  have initial : ImageInvariant (session, {}) := by
    refine ⟨fresh.encoder, fresh.transcoder, fresh.reader, ?_⟩
    rw [PendingAgrees, fresh.pending]
    rfl
  have kept : ∀ before call after, ImageInvariant before → Regular before call →
      ImageStep before call after → ImageInvariant after :=
    fun _ _ _ invariant regular step => (imageInvariant_step invariant regular step).1
  constructor
  · have agrees := (run.invariant regular initial kept).agrees
    rw [agrees]
    cases state.1.pendingImage <;> simp
  · intro entry member
    obtain ⟨invariant, after, step⟩ := run.meets_invariant regular initial kept entry member
    exact (imageInvariant_step invariant (regular entry member) step).2

end Runs

/-! ### Images that are rejected -/

/-- A decoder with its image reader. -/
def imageDecoder : CodecSession := { codec := some 1, imageReader := some 3 }

/-- The sample decoder has neither a pending image nor an end behind it. -/
theorem freshDecoder_imageDecoder : FreshDecoder imageDecoder :=
  ⟨rfl, rfl, by simp [imageDecoder], rfl⟩

/-- A plane of a picture of two by two pixels. -/
def flatPlane : ImagePlane where
  data := some (some fun _ => 7, 4)
  rowStride := some 2
  pixelStride := some 1

/-- A picture of two by two pixels, in the given format. -/
def smallImage (format : Int32) : Image where
  format := some format
  numberOfPlanes := some 3
  cropRect := some ⟨0, 0, 2, 2⟩
  plane _ := flatPlane

/-- A decoder buffer with the given flags is rendered, and its image is acquired at once. -/
def renderedAndAcquired (flags : UInt32) (image : Image) : Platform.Log :=
  [ ⟨.monotonicNs, (0 : UInt64)⟩,
    ⟨.dequeueOutputBuffer (some 1) 0, ((0 : Int), (⟨0, 1, 5, flags⟩ : BufferInfo))⟩,
    ⟨.releaseOutputBuffer (some 1) 0 true, amediaOk⟩,
    ⟨.monotonicNs, (0 : UInt64)⟩,
    ⟨.acquireNextImage (some 3), (amediaOk, some image)⟩,
    ⟨.deleteImage, ()⟩,
    ⟨.monotonicNs, (0 : UInt64)⟩ ]

/-- Along this log the sample decoder delivers one image of six bytes. -/
theorem delivered_small_image : ∃ outcome,
    (dscwCodecDequeue imageDecoder 0 64).replay
      (renderedAndAcquired 0 (smallImage aimageFormatYuv420888)) = some outcome ∧
    outcome.output = recordHeader 5 0 6 ++ List.replicate 6 7 :=
  ⟨_, rfl, rfl⟩

/-- The reader after an image was rendered and acquired. -/
def emptiedReader : Reader := ⟨⟨0, 1, 5, 0⟩, [], [⟨5, 0⟩]⟩

theorem pending_image_agrees_small_image :
    ∃ trace state, Run ImageStep (imageDecoder, {}) trace state ∧ Meets Regular trace ∧
      trace.length = 1 ∧ (state.1.pendingImage = true ↔ state.2.waiting.length = 1) ∧
      ∀ entry ∈ trace, Delivers entry.2.acquired entry.2.outcome := by
  obtain ⟨outcome, replayed, output⟩ := delivered_small_image
  have step : ImageStep (imageDecoder, {})
      ⟨.dequeue 0 64, renderedAndAcquired 0 (smallImage aimageFormatYuv420888), outcome, [⟨5, 0⟩]⟩
      (outcome.session, emptiedReader) :=
    ⟨runs_of_replay replayed, rfl, rfl, rfl⟩
  have regular : Regular (imageDecoder, {})
      ⟨.dequeue 0 64, renderedAndAcquired 0 (smallImage aimageFormatYuv420888), outcome,
        [⟨5, 0⟩]⟩ := by
    intro reader image member
    have same : reader = some 3 ∧ image = smallImage aimageFormatYuv420888 := by
      simpa [renderedAndAcquired] using member
    rw [same.2]
    rfl
  obtain ⟨run, meets⟩ := step_meeting ⟨Run.start, meets_nil⟩ step regular
  exact ⟨_, _, run, meets, rfl, pending_image_agrees freshDecoder_imageDecoder run meets⟩

/-- An image in an unknown format is refused with the pending flag still set. -/
theorem rejected_small_image : ∃ outcome,
    (dscwCodecDequeue imageDecoder 0 64).replay (renderedAndAcquired 0 (smallImage 0)) =
      some outcome ∧ outcome.session.pendingImage = true :=
  ⟨_, rfl, rfl⟩

/-- An image that `normalize_image` rejects is acquired and deleted, and stays pending: the next dequeue
waits for an image that will not come. -/
theorem rejected_image_stays_pending :
    ¬∀ session trace state, FreshDecoder session → Run ImageStep (session, {}) trace state →
      (state.1.pendingImage = true ↔ state.2.waiting.length = 1) := by
  intro agree
  obtain ⟨outcome, replayed, pending⟩ := rejected_small_image
  have step : ImageStep (imageDecoder, {})
      ⟨.dequeue 0 64, renderedAndAcquired 0 (smallImage 0), outcome, [⟨5, 0⟩]⟩
      (outcome.session, emptiedReader) :=
    ⟨runs_of_replay replayed, rfl, rfl, rfl⟩
  have one : emptiedReader.waiting.length = 1 :=
    (agree imageDecoder _ _ freshDecoder_imageDecoder (Run.start.step step)).mp pending
  exact absurd one (by decide)

end DawnShell
