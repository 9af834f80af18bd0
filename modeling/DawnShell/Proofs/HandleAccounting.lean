/-
Module: DawnShell.Proofs.HandleAccounting
Layer: Proofs
Purpose: The codecs, image readers and input surfaces that the creation of a session opens.  Whatever
  fails on the way, a creation that returns an error has closed each of them once; one that succeeds has
  left open those the session holds, and `dscw_codec_destroy` closes each of these once.
Trusted boundary: the window of an image reader belongs to the reader; a call that creates an image
  reader and reports a failure has created none
Main exports: Resource, handleMoves, CodecSession.handles, Accounted, handle_accounting
-/
import DawnShell.Codec.Create
import DawnShell.Lib.Ledger

namespace DawnShell

open Wire Interaction

/-! ### Handles -/

/-- What the worker has to give back to the platform. -/
inductive Resource where
  | codec (handle : Handle)
  | imageReader (handle : Handle)
  | window (handle : Handle)
deriving DecidableEq, Repr

/-- What an exchange opens or closes.  An input surface is made even by a call that reports a failure,
when it leaves one behind. -/
def handleMoves : Exchange Platform.Call Platform.Answer → Movement Resource
  | ⟨.createCodec _, some codec⟩ => .opens (.codec codec)
  | ⟨.newImageReader .., answer⟩ =>
      match if answer.1 = amediaOk then answer.2 else none with
      | some reader => .opens (.imageReader reader)
      | none => .keeps
  | ⟨.createInputSurface _, (_, some window)⟩ => .opens (.window window)
  | ⟨.deleteCodec codec, _⟩ => .closes (.codec codec)
  | ⟨.deleteImageReader reader, _⟩ => .closes (.imageReader reader)
  | ⟨.releaseWindow window, _⟩ => .closes (.window window)
  | _ => .keeps

/-- A handle that may be missing. -/
def held (resource : Handle → Resource) : Option Handle → Multiset Resource
  | none => 0
  | some handle => {resource handle}

/-- The handles stored in a session. -/
def CodecSession.handles (session : CodecSession) : Multiset Resource :=
  held .codec session.decoder + (held .codec session.transcodeEncoder +
    (held .window session.encoderInputSurface + (held .codec session.codec +
      held .imageReader session.imageReader)))

/-! ### Components -/

section Components

variable {books : Multiset Resource} {candidate : CodecCandidate} {encoder : Bool} {mime : String}

/-- The name that is asked for is given back, so that the books are as before. -/
theorem runtimeName_accounts (codec : Handle) :
    Passes (ledger handleMoves) books (runtimeName codec) fun after _ => after = books := by
  rw [runtimeName]
  refine passes_quiet (fun _ => rfl) fun getName => ?_
  refine passes_quiet (fun _ => rfl) fun releaseName => ?_
  split
  · exact fun _ => ⟨books, rfl, rfl⟩
  · exact passes_pure rfl

/-- A new codec is entered into the books when it is kept, and deleted when it is not proven. -/
theorem newCodec_accounts :
    Passes (ledger handleMoves) books (newCodec candidate encoder mime) fun after selected =>
      after = held .codec (selected.map Prod.fst) + books := by
  rw [newCodec]
  apply passes_call
  intro created
  cases created with
  | none => exact ⟨books, rfl, passes_pure (zero_add books).symm⟩
  | some codec =>
      refine ⟨_, rfl, ?_⟩
      apply passes_bind
      refine (runtimeName_accounts codec).mono fun _ reported same => ?_
      subst same
      dsimp only
      split
      · exact passes_pure rfl
      · refine passes_close (fun _ => rfl) rfl fun deleted => ?_
        exact passes_pure (zero_add books).symm

theorem configureStart_accounts {codec : Handle} {format : VideoFormat} {surface : Option Handle}
    {encode : Bool} :
    Passes (ledger handleMoves) books (configureStart codec format surface encode)
      fun after _ => after = books := by
  rw [configureStart]
  refine passes_quiet (fun _ => rfl) fun configured => ?_
  split
  · exact passes_quiet (fun _ => rfl) fun started => passes_pure rfl
  · exact passes_pure rfl

/-- Stopping and deleting a codec strikes it from the books, and does nothing without one. -/
theorem stopDeleteCodec_accounts (codec : Option Handle) :
    Passes (ledger handleMoves) (held .codec codec + books) (stopDeleteCodec codec)
      fun after _ => after = books := by
  cases codec with
  | none => exact passes_pure (zero_add books)
  | some codec =>
      refine passes_quiet (fun _ => rfl) fun stopped => ?_
      exact passes_close (fun _ => rfl) rfl fun deleted => passes_pure rfl

/-- Destroying a session closes the handles stored in it, each once and no others, in whatever state the
session is. -/
theorem dscwCodecDestroy_accounts (session : CodecSession) :
    Passes (ledger handleMoves) (session.handles + books) (dscwCodecDestroy session)
      fun after _ => after = books := by
  rw [dscwCodecDestroy, CodecSession.handles]
  simp only [add_assoc]
  apply passes_bind
  refine (stopDeleteCodec_accounts session.decoder).mono fun _ _ same => ?_
  subst same
  apply passes_bind
  refine (stopDeleteCodec_accounts session.transcodeEncoder).mono fun _ _ same => ?_
  subst same
  -- The rest is the same program behind either kind of surface.
  have last : Passes (ledger handleMoves)
      (held .codec session.codec + (held .imageReader session.imageReader + books))
      (do
        stopDeleteCodec session.codec
        match session.imageReader with
        | none => pure ()
        | some reader =>
            let _ : Unit ← Platform.call (.deleteImageReader reader)
            pure ()) fun after _ => after = books := by
    apply passes_bind
    refine (stopDeleteCodec_accounts session.codec).mono fun _ _ same => ?_
    subst same
    cases session.imageReader with
    | none => exact passes_pure (zero_add books)
    | some reader => exact passes_close (fun _ => rfl) rfl fun deleted => passes_pure rfl
  cases session.encoderInputSurface with
  | none =>
      rw [held, zero_add]
      exact last
  | some surface => exact passes_close (fun _ => rfl) rfl fun released => last

/-- Destroying a session strikes all its handles from the books and no others. -/
theorem dscwCodecDestroy_closes {session : CodecSession} {before : Multiset Resource}
    (same : before = session.handles + books) :
    Passes (ledger handleMoves) before (dscwCodecDestroy session) fun after _ => after = books :=
  same ▸ dscwCodecDestroy_accounts session

end Components

/-! ### Byte-buffer sessions -/

section ByteBuffers

variable {books : Multiset Resource} {candidate : CodecCandidate} {mime : String}
  {width height frameRate : UInt32}

/-- The handles of a round that has built something. -/
def Attempt.handles {α : Type} (handles : α → Multiset Resource) : Attempt α → Multiset Resource
  | .built value => handles value
  | .next | .failed _ => 0

def StartedEncoder.handles (encoder : StartedEncoder) : Multiset Resource := {.codec encoder.codec}

def StartedDecoder.handles (decoder : StartedDecoder) : Multiset Resource :=
  {.codec decoder.codec} + {.imageReader decoder.reader}

/-- The handles of a result; an error holds none. -/
def resultHandles {α : Type} (handles : α → Multiset Resource) :
    Except Failure α → Multiset Resource
  | .error _ => 0
  | .ok value => handles value

/-- Over all its color formats one candidate leaves its codec in the books only when it is started. -/
theorem tryEncoderColors_accounts (parameters : EncoderParameters) (colors : List UInt32) :
    Passes (ledger handleMoves) books (tryEncoderColors parameters candidate colors)
      fun after attempt => after = attempt.handles StartedEncoder.handles + books := by
  induction colors with
  | nil => exact passes_pure (zero_add books).symm
  | cons listed colors ih =>
      rw [tryEncoderColors]
      apply passes_bind
      refine newCodec_accounts.mono fun _ selected same => ?_
      subst same
      cases selected with
      | none =>
          rw [Option.map_none, held, zero_add]
          dsimp only
          split
          · exact passes_pure (zero_add books).symm
          · exact ih
      | some selected =>
          refine passes_quiet (fun _ => rfl) fun format => ?_
          split
          · refine passes_close (fun _ => rfl) rfl fun deleted => ?_
            exact passes_pure (zero_add books).symm
          apply passes_bind
          refine configureStart_accounts.mono fun _ running same => ?_
          subst same
          split
          · exact passes_pure rfl
          refine passes_close (fun _ => rfl) rfl fun deleted => ?_
          split
          · exact passes_pure (zero_add books).symm
          · exact ih

/-- Over all candidates of an encoder only the one that is started is left in the books. -/
theorem tryEncoders_accounts (parameters : EncoderParameters) (candidates : List CodecCandidate) :
    Passes (ledger handleMoves) books (tryEncoders parameters candidates)
      fun after found => after = resultHandles StartedEncoder.handles found + books := by
  induction candidates with
  | nil => exact passes_pure (zero_add books).symm
  | cons candidate candidates ih =>
      rw [tryEncoders]
      apply passes_bind
      refine (tryEncoderColors_accounts parameters _).mono fun _ attempt same => ?_
      subst same
      cases attempt with
      | next => exact (zero_add books).symm ▸ ih
      | failed error => exact passes_pure rfl
      | built encoder => exact passes_pure rfl

/-- A decoder that is tried leaves its codec, its reader and its window in the books only when it is
started. -/
theorem tryDecoder_accounts :
    Passes (ledger handleMoves) books (tryDecoder mime width height frameRate candidate)
      fun after attempt => after = attempt.handles StartedDecoder.handles + books := by
  rw [tryDecoder]
  apply passes_call
  intro opened
  rw [ledger, handleMoves]
  generalize (if opened.1 = amediaOk then opened.2 else none) = reader
  cases reader with
  | none => exact ⟨books, rfl, passes_pure (zero_add books).symm⟩
  | some reader =>
      refine ⟨_, rfl, ?_⟩
      refine passes_quiet (fun _ => rfl) fun shown => ?_
      split
      · refine passes_close (fun _ => rfl) rfl fun deleted => ?_
        exact passes_pure (zero_add books).symm
      apply passes_bind
      refine newCodec_accounts.mono fun _ selected same => ?_
      subst same
      cases selected with
      | none =>
          refine passes_close (fun _ => rfl) (zero_add _) fun deleted => ?_
          exact passes_pure (zero_add books).symm
      | some selected =>
          refine passes_quiet (fun _ => rfl) fun format => ?_
          split
          · refine passes_close (fun _ => rfl) rfl fun deleted => ?_
            refine passes_close (fun _ => rfl) rfl fun deleted => ?_
            exact passes_pure (zero_add books).symm
          apply passes_bind
          refine configureStart_accounts.mono fun _ running same => ?_
          subst same
          split
          · refine passes_pure ?_
            rw [Attempt.handles, StartedDecoder.handles, add_assoc, Multiset.singleton_add
              (Resource.imageReader reader)]
            rfl
          · refine passes_close (fun _ => rfl) rfl fun deleted => ?_
            refine passes_close (fun _ => rfl) rfl fun deleted => ?_
            exact passes_pure (zero_add books).symm

/-- Over all candidates of a decoder only the one that is started is left in the books. -/
theorem tryDecoders_accounts (candidates : List CodecCandidate) :
    Passes (ledger handleMoves) books (tryDecoders mime width height frameRate candidates)
      fun after found => after = resultHandles StartedDecoder.handles found + books := by
  induction candidates with
  | nil => exact passes_pure (zero_add books).symm
  | cons candidate candidates ih =>
      rw [tryDecoders]
      apply passes_bind
      refine tryDecoder_accounts.mono fun _ attempt same => ?_
      subst same
      cases attempt with
      | next => exact (zero_add books).symm ▸ ih
      | failed error => exact passes_pure rfl
      | built decoder => exact passes_pure rfl

/-- Looking for candidates opens nothing: the names of components are read from the store and no
component is made. -/
theorem collectCandidates_accounts (codec : UInt32) (encoder : Bool) :
    Passes (ledger handleMoves) books (collectCandidates codec encoder)
      fun after _ => after = books := by
  rw [collectCandidates]
  refine passes_quiet (fun _ => rfl) fun find => ?_
  refine passes_quiet (fun _ => rfl) fun infoName => ?_
  refine passes_quiet (fun _ => rfl) fun infoType => ?_
  apply passes_bind
  have store : Passes (ledger handleMoves) books
      (storeCandidates codec encoder (find && infoName && infoType)) fun after _ => after = books := by
    rw [storeCandidates]
    split
    · exact passes_pure rfl
    split
    · refine passes_quiet (fun _ => rfl) fun format => ?_
      split
      · exact passes_quiet (fun _ => rfl) fun listed => passes_pure rfl
      · exact passes_pure rfl
    · exact passes_pure rfl
  exact store.mono fun _ _ same => passes_pure same

/-- A session as it is allocated: no handle is stored in it. -/
structure CodecSession.HoldsNothing (session : CodecSession) : Prop where
  decoder : session.decoder = none
  transcodeEncoder : session.transcodeEncoder = none
  encoderInputSurface : session.encoderInputSurface = none
  codec : session.codec = none
  imageReader : session.imageReader = none

/-- A session that holds nothing has no handle. -/
theorem CodecSession.HoldsNothing.handles {session : CodecSession}
    (nothing : session.HoldsNothing) : session.handles = 0 := by
  rw [CodecSession.handles, nothing.decoder, nothing.transcodeEncoder, nothing.encoderInputSurface,
    nothing.codec, nothing.imageReader]
  rfl

/-- A byte-buffer session has exactly the handles that are left in the books, in both modes. -/
theorem createByMode_accounts {mode codec : UInt32} {parameters : EncoderParameters}
    {session : CodecSession} (nothing : session.HoldsNothing) :
    Passes (ledger handleMoves) books (createByMode mode codec parameters session)
      fun after built => after = resultHandles CodecSession.handles built + books := by
  rw [createByMode]
  split
  · rw [createEncoder]
    apply passes_bind
    refine (collectCandidates_accounts codec true).mono fun _ candidates same => ?_
    subst same
    apply passes_bind
    refine (tryEncoders_accounts parameters candidates).mono fun _ found same => ?_
    subst same
    cases found with
    | error failure => exact passes_pure rfl
    | ok encoder =>
        refine passes_pure ?_
        simp [resultHandles, CodecSession.handles, StartedEncoder.handles, held, nothing.decoder,
          nothing.transcodeEncoder, nothing.encoderInputSurface, nothing.imageReader]
  · rw [createDecoder]
    apply passes_bind
    refine (collectCandidates_accounts codec false).mono fun _ candidates same => ?_
    subst same
    apply passes_bind
    refine (tryDecoders_accounts candidates).mono fun _ found same => ?_
    subst same
    cases found with
    | error failure => exact passes_pure rfl
    | ok decoder =>
        refine passes_pure ?_
        simp [resultHandles, CodecSession.handles, StartedDecoder.handles, held, nothing.decoder,
          nothing.transcodeEncoder, nothing.encoderInputSurface]

/-- When `dscw_codec_create` succeeds the books have grown by the handles of its session, and otherwise
not at all. -/
theorem dscwCodecCreate_accounts (mode codec width height frameRate bitrate color : UInt32)
    (descriptionSize : Nat) :
    Passes (ledger handleMoves) books
      (dscwCodecCreate mode codec width height frameRate bitrate color descriptionSize)
      fun after result => after = resultHandles (fun created => created.session.handles) result +
        books := by
  rw [dscwCodecCreate]
  split
  · exact passes_pure (zero_add books).symm
  split
  · exact passes_pure (zero_add books).symm
  split
  · exact passes_pure (zero_add books).symm
  refine passes_quiet (fun _ => rfl) fun allocated => ?_
  split
  · exact passes_pure (zero_add books).symm
  refine passes_quiet (fun _ => rfl) fun startedNs => ?_
  have nothing : CodecSession.HoldsNothing { width, height, frameRate, startedNs } :=
    ⟨rfl, rfl, rfl, rfl, rfl⟩
  apply passes_bind
  refine (createByMode_accounts nothing).mono fun _ built same => ?_
  subst same
  cases built with
  | error failure =>
      apply passes_bind
      refine (dscwCodecDestroy_accounts { width, height, frameRate, startedNs }).mono
        fun _ _ same => ?_
      subst same
      exact passes_pure (zero_add _).symm
  | ok session =>
      dsimp only
      split
      · apply passes_bind
        refine (dscwCodecDestroy_accounts session).mono fun _ _ same => ?_
        subst same
        exact passes_pure (zero_add _).symm
      · exact passes_pure rfl

end ByteBuffers

/-! ### Surface transcoders -/

section Transcoders

variable {books : Multiset Resource} {candidate : CodecCandidate} {inputMime outputMime : String}
  {width height frameRate bitrate : UInt32}

def SurfaceEncoder.handles (encoder : SurfaceEncoder) : Multiset Resource :=
  {.window encoder.surface} + {.codec encoder.codec}

def SurfacePair.handles (pair : SurfacePair) : Multiset Resource :=
  {.codec pair.decoder} + pair.encoder.handles

/-- The handles of something that may be missing. -/
def optionHandles {α : Type} (handles : α → Multiset Resource) : Option α → Multiset Resource
  | none => 0
  | some value => handles value

/-- Starting an encoder on its surface opens nothing. -/
theorem startSurfaceEncoder_accounts {codec : Handle} {made : MediaStatus} :
    Passes (ledger handleMoves) books (startSurfaceEncoder codec made)
      fun after _ => after = books := by
  rw [startSurfaceEncoder]
  split
  · exact passes_quiet (fun _ => rfl) fun status => passes_pure rfl
  · exact passes_pure rfl

/-- A Surface encoder leaves its codec and its surface in the books, or neither. -/
theorem configureSurfaceEncoder_accounts :
    Passes (ledger handleMoves) books
      (configureSurfaceEncoder candidate outputMime width height frameRate bitrate)
      fun after configured => after = optionHandles SurfaceEncoder.handles configured + books := by
  rw [configureSurfaceEncoder]
  refine passes_quiet (fun _ => rfl) fun available => ?_
  split
  · exact passes_pure (zero_add books).symm
  apply passes_bind
  refine newCodec_accounts.mono fun _ selected same => ?_
  subst same
  cases selected with
  | none => exact passes_pure rfl
  | some selected =>
      refine passes_quiet (fun _ => rfl) fun format => ?_
      split
      · refine passes_close (fun _ => rfl) rfl fun deleted => ?_
        exact passes_pure (zero_add books).symm
      refine passes_quiet (fun _ => rfl) fun status => ?_
      split
      · refine passes_close (fun _ => rfl) rfl fun deleted => ?_
        exact passes_pure (zero_add books).symm
      apply passes_call
      rintro ⟨made, surface⟩
      cases surface with
      | none =>
          refine ⟨_, rfl, ?_⟩
          refine passes_close (fun _ => rfl) rfl fun deleted => ?_
          exact passes_pure (zero_add books).symm
      | some surface =>
          refine ⟨_, rfl, ?_⟩
          apply passes_bind
          refine startSurfaceEncoder_accounts.mono fun _ started same => ?_
          subst same
          split
          · refine passes_pure ?_
            rw [optionHandles, SurfaceEncoder.handles, add_assoc, Multiset.singleton_add
              (Resource.window surface)]
            rfl
          · refine passes_close (fun _ => rfl) rfl fun released => ?_
            refine passes_close (fun _ => rfl) rfl fun deleted => ?_
            exact passes_pure (zero_add books).symm

/-- Over all candidates for one surface only the decoder that is started is left in the books. -/
theorem trySurfaceDecoders_accounts (surface : Handle) (candidates : List CodecCandidate) :
    Passes (ledger handleMoves) books
      (trySurfaceDecoders inputMime width height frameRate surface candidates)
      fun after found => after = held .codec (found.map Prod.fst) + books := by
  induction candidates with
  | nil => exact passes_pure (zero_add books).symm
  | cons candidate candidates ih =>
      rw [trySurfaceDecoders]
      apply passes_bind
      refine newCodec_accounts.mono fun _ selected same => ?_
      subst same
      cases selected with
      | none =>
          rw [Option.map_none, held, zero_add]
          exact ih
      | some selected =>
          refine passes_quiet (fun _ => rfl) fun format => ?_
          split
          · exact passes_close (fun _ => rfl) rfl fun deleted => ih
          apply passes_bind
          refine configureStart_accounts.mono fun _ running same => ?_
          subst same
          split
          · exact passes_pure rfl
          · exact passes_close (fun _ => rfl) rfl fun deleted => ih

/-- Over all encoders only the pair that is found is left in the books; an encoder whose surface suits
no decoder is given back before the next is tried. -/
theorem trySurfacePairs_accounts (decoders candidates : List CodecCandidate) :
    Passes (ledger handleMoves) books
      (trySurfacePairs inputMime outputMime width height frameRate bitrate decoders candidates)
      fun after found => after = optionHandles SurfacePair.handles found + books := by
  induction candidates with
  | nil => exact passes_pure (zero_add books).symm
  | cons candidate candidates ih =>
      rw [trySurfacePairs]
      apply passes_bind
      refine configureSurfaceEncoder_accounts.mono fun _ configured same => ?_
      subst same
      cases configured with
      | none =>
          rw [optionHandles, zero_add]
          exact ih
      | some encoder =>
          apply passes_bind
          refine (trySurfaceDecoders_accounts encoder.surface decoders).mono fun _ found same => ?_
          subst same
          cases found with
          | some found =>
              refine passes_pure ?_
              rw [optionHandles, optionHandles, SurfacePair.handles, add_assoc]
              rfl
          | none =>
              -- The encoder is closed first and its surface behind it.
              have both : optionHandles SurfaceEncoder.handles (some encoder) + books =
                  held .codec (some encoder.codec) + ({.window encoder.surface} + books) := by
                rw [optionHandles, SurfaceEncoder.handles, held, add_comm {Resource.window _},
                  add_assoc]
              rw [Option.map_none, held, zero_add, both]
              apply passes_bind
              refine (stopDeleteCodec_accounts (some encoder.codec)).mono fun _ _ same => ?_
              subst same
              exact passes_close (fun _ => rfl) rfl fun released => ih

theorem handles_of_pair {session : CodecSession} {pair : SurfacePair}
    (decoder : session.decoder = some pair.decoder)
    (encoder : session.transcodeEncoder = some pair.encoder.codec)
    (surface : session.encoderInputSurface = some pair.encoder.surface)
    (codec : session.codec = none) (reader : session.imageReader = none) :
    session.handles = pair.handles := by
  simp only [CodecSession.handles, SurfacePair.handles, SurfaceEncoder.handles, decoder, encoder,
    surface, codec, reader, held, add_zero]
  rw [add_comm {Resource.codec pair.encoder.codec}]

/-- A transcoder whose parameters were checked has exactly the handles that are left in the books. -/
theorem createTranscoderChecked_accounts (inputCodec outputCodec : UInt32) (descriptionSize : Nat) :
    Passes (ledger handleMoves) books
      (createTranscoderChecked inputCodec outputCodec inputMime outputMime width height frameRate
        bitrate descriptionSize)
      fun after result => after = resultHandles (fun created => created.session.handles) result +
        books := by
  rw [createTranscoderChecked]
  apply passes_bind
  refine (collectCandidates_accounts outputCodec true).mono fun _ encoders same => ?_
  rw [same]
  apply passes_bind
  refine (collectCandidates_accounts inputCodec false).mono fun _ decoders same => ?_
  rw [same]
  refine passes_quiet (fun _ => rfl) fun allocated => ?_
  split
  · exact passes_pure (zero_add books).symm
  refine passes_quiet (fun _ => rfl) fun startedNs => ?_
  apply passes_bind
  refine (trySurfacePairs_accounts decoders encoders).mono fun _ found same => ?_
  rw [same]
  cases found with
  | none =>
      have nothing : CodecSession.HoldsNothing
          { transcoder := true, encoder := true, width, height, frameRate, startedNs } :=
        ⟨rfl, rfl, rfl, rfl, rfl⟩
      rw [optionHandles, ← nothing.handles]
      apply passes_bind
      refine (dscwCodecDestroy_accounts _).mono fun _ _ same => ?_
      rw [same]
      exact passes_pure (zero_add books).symm
  | some pair =>
      dsimp only
      split
      · exact passes_pure (congrArg (· + books) (handles_of_pair rfl rfl rfl rfl rfl).symm)
      · apply passes_bind
        refine (dscwCodecDestroy_closes
          (congrArg (· + books) (handles_of_pair rfl rfl rfl rfl rfl).symm)).mono fun _ _ same => ?_
        rw [same]
        exact passes_pure (zero_add books).symm

/-- When `dscw_codec_create_transcoder` succeeds the books have grown by the handles of its session, and
otherwise not at all. -/
theorem dscwCodecCreateTranscoder_accounts (inputCodec outputCodec : UInt32)
    (descriptionSize : Nat) :
    Passes (ledger handleMoves) books
      (dscwCodecCreateTranscoder inputCodec outputCodec width height frameRate bitrate
        descriptionSize)
      fun after result => after = resultHandles (fun created => created.session.handles) result +
        books := by
  rw [dscwCodecCreateTranscoder]
  split
  · split
    · exact passes_pure (zero_add books).symm
    refine passes_quiet (fun _ => rfl) fun createInputSurface => ?_
    refine passes_quiet (fun _ => rfl) fun signalInputEos => ?_
    split
    · exact passes_pure (zero_add books).symm
    · exact createTranscoderChecked_accounts inputCodec outputCodec descriptionSize
  · exact passes_pure (zero_add books).symm

end Transcoders

/-! ### Creations -/

/-- The two calls that create a session. -/
inductive Creation where
  | bytebuffer (mode codec width height frameRate bitrate colorFormat : UInt32)
      (descriptionSize : Nat)
  | transcoder (inputCodec outputCodec width height frameRate bitrate : UInt32)
      (descriptionSize : Nat)

def Creation.perform : Creation → Platform (Except Failure Created)
  | .bytebuffer mode codec width height frameRate bitrate colorFormat descriptionSize =>
      dscwCodecCreate mode codec width height frameRate bitrate colorFormat descriptionSize
  | .transcoder inputCodec outputCodec width height frameRate bitrate descriptionSize =>
      dscwCodecCreateTranscoder inputCodec outputCodec width height frameRate bitrate descriptionSize

/-- A log that starts with these handles open, never closes one that is not open, and leaves those open:
what was open and what it opened is what it closed and what it leaves. -/
structure Accounted (before : Multiset Resource) (log : Platform.Log) (after : Multiset Resource) :
    Prop where
  sound : observed (ledger handleMoves) before log = some after
  balanced : before + opened handleMoves log = after + closed handleMoves log

/-- In every run of a create call what it has opened is closed again or held by the session that it
returns. -/
theorem Creation.accounted {creation : Creation} {log : Platform.Log}
    {result : Except Failure Created} (run : creation.perform.Runs log result) :
    Accounted 0 log (resultHandles (fun created => created.session.handles) result) := by
  have passes : Passes (ledger handleMoves) 0 creation.perform fun after result =>
      after = resultHandles (fun created => created.session.handles) result := by
    cases creation with
    | bytebuffer => exact (dscwCodecCreate_accounts ..).mono fun _ _ same => same.trans (add_zero _)
    | transcoder =>
        exact (dscwCodecCreateTranscoder_accounts ..).mono fun _ _ same => same.trans (add_zero _)
  obtain ⟨last, seen, rfl⟩ := run.of_passes passes
  exact ⟨seen, opened_add_eq seen⟩

/-- Stopping and deleting a codec opens nothing. -/
theorem stopDeleteCodec_opens (codec : Option Handle) :
    OpensNothing handleMoves (stopDeleteCodec codec) := by
  cases codec with
  | none => exact opensNothing_pure
  | some codec =>
      refine opensNothing_bind (opensNothing_call fun _ => rfl) fun stopped => ?_
      exact opensNothing_bind (opensNothing_call fun _ => rfl) fun deleted => opensNothing_pure

/-- Destroying a session opens nothing, so that behind it the books can only be shorter. -/
theorem dscwCodecDestroy_opens (session : CodecSession) :
    OpensNothing handleMoves (dscwCodecDestroy session) := by
  rw [dscwCodecDestroy]
  refine opensNothing_bind (stopDeleteCodec_opens _) fun _ => ?_
  refine opensNothing_bind (stopDeleteCodec_opens _) fun _ => ?_
  have last : OpensNothing handleMoves (do
      stopDeleteCodec session.codec
      match session.imageReader with
      | none => pure ()
      | some reader =>
          let _ : Unit ← Platform.call (.deleteImageReader reader)
          pure ()) := by
    refine opensNothing_bind (stopDeleteCodec_opens _) fun _ => ?_
    cases session.imageReader with
    | none => exact opensNothing_pure
    | some reader =>
        exact opensNothing_bind (opensNothing_call fun _ => rfl) fun deleted => opensNothing_pure
  cases session.encoderInputSurface with
  | none => exact last
  | some surface => exact opensNothing_bind (opensNothing_call fun _ => rfl) fun released => last

/-- Destroying a session closes each handle stored in it, once, and no other. -/
theorem dscwCodecDestroy_accounted {session : CodecSession} {log : Platform.Log}
    (run : (dscwCodecDestroy session).Runs log ()) :
    Accounted session.handles log 0 ∧ closed handleMoves log = session.handles := by
  have passes : Passes (ledger handleMoves) session.handles (dscwCodecDestroy session)
      fun after _ => after = 0 := dscwCodecDestroy_closes (add_zero session.handles).symm
  obtain ⟨last, seen, rfl⟩ := run.of_passes passes
  have balanced := opened_add_eq seen
  refine ⟨⟨seen, balanced⟩, ?_⟩
  rw [run.of_all (dscwCodecDestroy_opens session), add_zero, zero_add] at balanced
  exact balanced.symm

/-- What has become of the handles when a creation returns: with an error, everything it opened is closed;
with a session, what the session stores is open, and destroying it closes just that. -/
def HandlesSettled (log : Platform.Log) : Except Failure Created → Prop
  | .error _ => Accounted 0 log 0
  | .ok created => Accounted 0 log created.session.handles ∧
      ∀ later, (dscwCodecDestroy created.session).Runs later () →
        Accounted created.session.handles later 0 ∧
          closed handleMoves later = created.session.handles

/-- For every behaviour of the platform the handles of a creation are settled: what a create call opens
is closed in it or held by its session, and destroying the session closes exactly that. -/
theorem handle_accounting {creation : Creation} {log : Platform.Log}
    {result : Except Failure Created} (run : creation.perform.Runs log result) :
    HandlesSettled log result := by
  have accounted := Creation.accounted run
  cases result with
  | error failure => exact accounted
  | ok created => exact ⟨accounted, fun later destroyed => dscwCodecDestroy_accounted destroyed⟩

def smallTranscoder : Creation := .transcoder codecAvc codecHevc 64 64 30 1000000 512

/-- A transcoder on a platform on which every call succeeds. -/
@[irreducible] def createdTranscoder : Platform.Log × Except Failure Created :=
  smallTranscoder.perform.respond Platform.allSucceed

/-- A platform on which no codec can be started. -/
def unstartable : (call : Platform.Call) → Platform.Answer call
  | .start _ => (-10000 : MediaStatus)
  | call => Platform.allSucceed call

/-- A transcoder there. -/
@[irreducible] def refusedTranscoder : Platform.Log × Except Failure Created :=
  smallTranscoder.perform.respond unstartable

/-- The first is created and the second is not, when both its codecs and the surface between them are
open; the handles of both are settled. -/
theorem handle_accounting_transcoders :
    (createdTranscoder.2.isOk = true ∧ HandlesSettled createdTranscoder.1 createdTranscoder.2) ∧
      refusedTranscoder.2.isOk = false ∧
      (∃ exchange ∈ refusedTranscoder.1, exchange.call = .deleteCodec 1) ∧
      (∃ exchange ∈ refusedTranscoder.1, exchange.call = .releaseWindow 2) ∧
      HandlesSettled refusedTranscoder.1 refusedTranscoder.2 := by
  have created : smallTranscoder.perform.Runs createdTranscoder.1 createdTranscoder.2 := by
    rw [createdTranscoder]
    exact runs_respond Platform.allSucceed smallTranscoder.perform
  have refused : smallTranscoder.perform.Runs refusedTranscoder.1 refusedTranscoder.2 := by
    rw [refusedTranscoder]
    exact runs_respond unstartable smallTranscoder.perform
  have values : createdTranscoder.2.isOk = true ∧ refusedTranscoder.2.isOk = false ∧
      (∃ exchange ∈ refusedTranscoder.1, exchange.call = .deleteCodec 1) ∧
      ∃ exchange ∈ refusedTranscoder.1, exchange.call = .releaseWindow 2 := by
    decide +kernel
  obtain ⟨succeeds, fails, deleted, released⟩ := values
  exact ⟨⟨succeeds, handle_accounting created⟩, fails, deleted, released, handle_accounting refused⟩

end DawnShell
