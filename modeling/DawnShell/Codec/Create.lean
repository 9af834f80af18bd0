/-
Module: DawnShell.Codec.Create
Layer: Codec
Purpose: Creation of codec sessions: which components are tried and in which order, when a component
  counts as proven hardware, and how a decoder, an encoder or a Surface transcoder is put together
  from the components the platform grants, with the release of everything on each failing path.
Trusted boundary: faithful model of dawnshell_codec_ndk.c:146-616.  The optional symbols are asked for
  at each use instead of once, which only adds platforms.
Main exports: collectCandidates, newCodec, dscwCodecCreate, dscwCodecCreateTranscoder
-/
import DawnShell.Codec.Session

namespace DawnShell

open Wire

def colorYuv420Planar : UInt32 := 19
def colorYuv420Semiplanar : UInt32 := 21
def colorYuv420Flexible : UInt32 := 0x7f420888
def colorSurface : UInt32 := 0x7f000789
def maxCandidates : Nat := 24
def maxCodecName : Nat := 128
def modeDecode : UInt32 := 1
def modeEncode : UInt32 := 2
def codecAvc : UInt32 := 1
def codecHevc : UInt32 := 2

/-! ### Candidates -/

structure CodecCandidate where
  name : String
  hardwareProven : Bool
deriving DecidableEq, Repr

/-- `starts_with`. -/
def startsWith (value stem : String) : Bool := stem.toList.isPrefixOf value.toList

/-- `strlen`: a text is kept as UTF-8. -/
def strlen (text : String) : Nat := text.utf8ByteSize

/-- The characters whose bytes are all among the first `size` bytes of a text. -/
def fitting : Nat → List Char → List Char
  | _, [] => []
  | size, character :: rest =>
      if character.utf8Size ≤ size then
        character :: fitting (size - character.utf8Size) rest
      else []

theorem fitting_begins (size : Nat) (text : List Char) : fitting size text <+: text := by
  induction text generalizing size with
  | nil => exact List.prefix_rfl
  | cons character rest ih =>
      rw [fitting]
      split
      · exact List.prefix_cons_inj character |>.mpr (ih _)
      · exact List.nil_prefix

/-- `snprintf` of a name into a buffer of `size` bytes, without the bytes of a character that is cut. -/
def boundedName (name : String) (size : Nat) : String := String.ofList (fitting (size - 1) name.toList)

/-- One letter of the lower-case copy `hardware_name` makes. -/
def lowerLetter (value : Char) : Char :=
  if 'A' ≤ value ∧ value ≤ 'Z' then Char.ofNat (value.toNat - 'A'.toNat + 'a'.toNat) else value

/-- `hardware_name`. -/
def hardwareName (name : String) : Bool :=
  let lower := String.ofList ((fitting (maxCodecName - 1) name.toList).map lowerLetter)
  startsWith lower "omx.exynos." || startsWith lower "omx.sec." || startsWith lower "c2.exynos."
    || startsWith lower "omx.qcom." || startsWith lower "c2.qti." || startsWith lower "omx.intel."
    || startsWith lower "omx.nvidia." || startsWith lower "omx.rk."
    || startsWith lower "omx.amlogic." || startsWith lower "omx.allwinner."

/-- `duplicate_candidate`. -/
def duplicateCandidate (candidates : List CodecCandidate) (name : String) : Bool :=
  candidates.any (fun candidate => candidate.name == name)

/-- `add_candidate`. -/
def addCandidate (candidates : List CodecCandidate) (name : Option String)
    (hardwareProven : Bool) : List CodecCandidate :=
  match name with
  | none => candidates
  | some name =>
      if maxCandidates ≤ candidates.length || maxCodecName ≤ strlen name
          || duplicateCandidate candidates name then candidates
      else candidates ++ [⟨name, hardwareProven⟩]

/-- `mime_for_codec`. -/
def mimeForCodec (codec : UInt32) : Option String :=
  if codec = codecAvc then some "video/avc"
  else if codec = codecHevc then some "video/hevc"
  else none

/-- The names `add_legacy_candidates` adds. -/
def legacyCandidates (codec : UInt32) (encoder : Bool) : List String :=
  if codec = codecAvc ∧ encoder then
    ["OMX.Exynos.AVC.Encoder", "c2.exynos.h264.encoder", "c2.qti.avc.encoder",
      "OMX.qcom.video.encoder.avc"]
  else if codec = codecAvc then
    ["OMX.Exynos.avc.dec", "OMX.Exynos.AVC.Decoder", "c2.exynos.h264.decoder",
      "c2.qti.avc.decoder", "OMX.qcom.video.decoder.avc"]
  else if codec = codecHevc ∧ encoder then
    ["OMX.Exynos.HEVC.Encoder", "c2.exynos.hevc.encoder", "c2.qti.hevc.encoder",
      "OMX.qcom.video.encoder.hevc"]
  else if codec = codecHevc then
    ["OMX.Exynos.HEVC.Decoder", "OMX.Exynos.hevc.dec", "c2.exynos.hevc.decoder",
      "c2.qti.hevc.decoder", "OMX.qcom.video.decoder.hevc"]
  else []

/-- `add_legacy_candidates`. -/
def addLegacyCandidates (candidates : List CodecCandidate) (codec : UInt32) (encoder : Bool) :
    List CodecCandidate :=
  (legacyCandidates codec encoder).foldl (fun found name => addCandidate found (some name) true)
    candidates

/-- `MediaCodecInfo` type 2 is hardware accelerated. -/
def addStoreCandidates (store : List (Option String × Int32)) : List CodecCandidate :=
  store.foldl (fun found info => if info.2 = 2 then addCandidate found info.1 true else found) []

/-- The candidates the codec store lists for a codec, when the platform has the accessors for it. -/
def storeCandidates (codec : UInt32) (encoder available : Bool) : Platform (List CodecCandidate) :=
  match mimeForCodec codec with
  | none => pure []
  | some mime =>
      if available then do
        let format : Bool ← Platform.call .newFormat
        if format then
          let store : List (Option String × Int32) ← Platform.call (.codecStore encoder mime)
          pure (addStoreCandidates store)
        else pure []
      else pure []

/-- `collect_candidates`. -/
def collectCandidates (codec : UInt32) (encoder : Bool) : Platform (List CodecCandidate) := do
  let find : Bool ←
    Platform.call (.optionalSymbol (if encoder then .findEncoder else .findDecoder))
  let infoName : Bool ← Platform.call (.optionalSymbol .infoName)
  let infoType : Bool ← Platform.call (.optionalSymbol .infoType)
  let found ← storeCandidates codec encoder (find && infoName && infoType)
  -- The empty name asks the platform selector; it is accepted only when the selected component
  -- proves hardware acceleration by its own name.
  pure (addCandidate (addLegacyCandidates found codec encoder) (some "") false)

/-- The name a component reports, when the platform has the accessors for it. -/
def runtimeName (codec : Handle) : Platform (Option String) := do
  let getName : Bool ← Platform.call (.optionalSymbol .getName)
  let releaseName : Bool ← Platform.call (.optionalSymbol .releaseName)
  if getName && releaseName then Platform.call (.getName codec) else pure none

/-- `new_codec`: the component and the name it is selected under. -/
def newCodec (candidate : CodecCandidate) (encoder : Bool) (mime : String) :
    Platform (Option (Handle × String)) := do
  let created : Option Handle ← Platform.call (.createCodec
    (if candidate.name = "" then
      if encoder then .encoderByType mime else .decoderByType mime
    else .byName candidate.name))
  match created with
  | none => pure none
  | some codec =>
      let reported ← runtimeName codec
      let provenName := reported.getD candidate.name
      if candidate.hardwareProven || hardwareName provenName then
        pure (some (codec, boundedName provenName maxCodecName))
      else
        let _ : Unit ← Platform.call (.deleteCodec codec)
        pure none

/-! ### Byte-buffer sessions -/

/-- `valid_parameters`. -/
def validParameters (width height frameRate bitrate : UInt32) : Bool :=
  let frameBytes : UInt64 := width.toUInt64 * height.toUInt64 * 3 / 2
  16 ≤ width && width ≤ 4096 && 16 ≤ height && height ≤ 4096 && width &&& 1 == 0
    && height &&& 1 == 0 && 1 ≤ frameRate && frameRate ≤ 240 && 1000 ≤ bitrate
    && bitrate ≤ 100000000 && frameBytes ≤ (dscwMaxPayload - 16).toUInt64

/-- What one round of a selection loop ends with: the loop goes on, the call fails, or the round
built what was asked for. -/
inductive Attempt (α : Type) where
  | next
  | failed (error : String)
  | built (value : α)

structure EncoderParameters where
  mime : String
  width : UInt32
  height : UInt32
  frameRate : UInt32
  bitrate : UInt32
  requestedColor : UInt32

/-- The started encoder: its handle, the name it was selected under, its colour format. -/
structure StartedEncoder where
  codec : Handle
  name : String
  color : UInt32

/-- `AMediaCodec_configure` followed, when it succeeds, by `AMediaCodec_start`. -/
def configureStart (codec : Handle) (format : VideoFormat) (surface : Option Handle)
    (encode : Bool) : Platform Bool := do
  let configured : MediaStatus ← Platform.call (.configure codec format surface encode)
  if configured = amediaOk then
    let started : MediaStatus ← Platform.call (.start codec)
    pure (started == amediaOk)
  else pure false

/-- The colour loop of `create_encoder` for one candidate. -/
def tryEncoderColors (parameters : EncoderParameters) (candidate : CodecCandidate) :
    List UInt32 → Platform (Attempt StartedEncoder)
  | [] => pure .next
  | listed :: colors => do
      let color := if parameters.requestedColor = 0 then listed else parameters.requestedColor
      let selected ← newCodec candidate true parameters.mime
      match selected with
      | none =>
          if parameters.requestedColor ≠ 0 then pure .next
          else tryEncoderColors parameters candidate colors
      | some (codec, name) =>
          let format : Bool ← Platform.call .newFormat
          if !format then
            let _ : Unit ← Platform.call (.deleteCodec codec)
            pure (.failed "could not allocate encoder format")
          else
            let running ← configureStart codec
              { mime := parameters.mime, width := parameters.width, height := parameters.height
                frameRate := parameters.frameRate
                maxInputSize :=
                  some (parameters.width.toUInt64 * parameters.height.toUInt64 * 3 / 2)
                bitrate := some parameters.bitrate
                iFrameInterval := some 2
                colorFormat := some color } none true
            if running then pure (.built ⟨codec, name, color⟩)
            else
              let _ : Unit ← Platform.call (.deleteCodec codec)
              if parameters.requestedColor ≠ 0 then pure .next
              else tryEncoderColors parameters candidate colors

/-- The candidate loop of `create_encoder`. -/
def tryEncoders (parameters : EncoderParameters) :
    List CodecCandidate → Platform (Except Failure StartedEncoder)
  | [] => pure (.error ⟨codecErrorCodec,
      some "no proven hardware encoder accepted a YUV420 ByteBuffer format"⟩)
  | candidate :: candidates => do
      let attempt ← tryEncoderColors parameters candidate
        [colorYuv420Planar, colorYuv420Semiplanar, colorYuv420Flexible]
      match attempt with
      | .next => tryEncoders parameters candidates
      | .failed error => pure (.error ⟨codecErrorCodec, some error⟩)
      | .built encoder => pure (.ok encoder)

/-- The started decoder: its handle, the reader of its images, the name it was selected under. -/
structure StartedDecoder where
  codec : Handle
  reader : Handle
  name : String

/-- One round of `create_decoder`. -/
def tryDecoder (mime : String) (width height frameRate : UInt32) (candidate : CodecCandidate) :
    Platform (Attempt StartedDecoder) := do
  let opened : MediaStatus × Option Handle ← Platform.call (.newImageReader width height)
  match if opened.1 = amediaOk then opened.2 else none with
  | none => pure .next
  | some reader =>
      let shown : MediaStatus × Option Handle ← Platform.call (.getWindow reader)
      match if shown.1 = amediaOk then shown.2 else none with
      | none =>
          let _ : Unit ← Platform.call (.deleteImageReader reader)
          pure .next
      | some window =>
          let selected ← newCodec candidate false mime
          match selected with
          | none =>
              let _ : Unit ← Platform.call (.deleteImageReader reader)
              pure .next
          | some (codec, name) =>
              let format : Bool ← Platform.call .newFormat
              if !format then
                let _ : Unit ← Platform.call (.deleteCodec codec)
                let _ : Unit ← Platform.call (.deleteImageReader reader)
                pure (.failed "could not allocate decoder format")
              else
                let running ← configureStart codec
                  { mime, width, height, frameRate
                    maxInputSize := some (dscwMaxPayload - 16).toUInt64 } (some window) false
                if running then pure (.built ⟨codec, reader, name⟩)
                else
                  let _ : Unit ← Platform.call (.deleteCodec codec)
                  let _ : Unit ← Platform.call (.deleteImageReader reader)
                  pure .next

/-- The candidate loop of `create_decoder`. -/
def tryDecoders (mime : String) (width height frameRate : UInt32) :
    List CodecCandidate → Platform (Except Failure StartedDecoder)
  | [] => pure (.error ⟨codecErrorCodec,
      some "no proven hardware decoder accepted a YUV ImageReader surface"⟩)
  | candidate :: candidates => do
      let attempt ← tryDecoder mime width height frameRate candidate
      match attempt with
      | .next => tryDecoders mime width height frameRate candidates
      | .failed error => pure (.error ⟨codecErrorCodec, some error⟩)
      | .built decoder => pure (.ok decoder)

/-- A created session and its description. -/
structure Created where
  session : CodecSession
  description : String

/-- `create_encoder` on the session that was allocated. -/
def createEncoder (codec : UInt32) (parameters : EncoderParameters) (session : CodecSession) :
    Platform (Except Failure CodecSession) := do
  let candidates ← collectCandidates codec true
  let found ← tryEncoders parameters candidates
  match found with
  | .error failure => pure (.error failure)
  | .ok encoder =>
      pure (.ok { session with codec := some encoder.codec, encoder := true,
                               colorFormat := encoder.color, codecName := encoder.name })

/-- `create_decoder` on the session that was allocated. -/
def createDecoder (codec : UInt32) (mime : String) (width height frameRate : UInt32)
    (session : CodecSession) : Platform (Except Failure CodecSession) := do
  let candidates ← collectCandidates codec false
  let found ← tryDecoders mime width height frameRate candidates
  match found with
  | .error failure => pure (.error failure)
  | .ok decoder =>
      pure (.ok { session with codec := some decoder.codec, imageReader := some decoder.reader,
                               codecName := decoder.name })

/-- A quoted JSON string. -/
def jsonText (value : String) : String := "\"" ++ value ++ "\""

/-- The description of a byte-buffer session. -/
def createDescription (session : CodecSession) (mime : String) : String :=
  "\x7b" ++ ",".intercalate
    [ jsonField "codec_name" (jsonText session.codecName)
    , jsonField "mime" (jsonText mime)
    , jsonField "classification" (jsonText "ndk_hardware_proven")
    , jsonField "transport" (jsonText "inherited_memfd_eventfd")
    , jsonField "color_format" (toString session.colorFormat) ]
    ++ "\x7d"

/-- The two kinds of byte-buffer session `dscw_codec_create` builds. -/
def createByMode (mode codec : UInt32) (parameters : EncoderParameters) (session : CodecSession) :
    Platform (Except Failure CodecSession) :=
  if mode = modeEncode then createEncoder codec parameters session
  else createDecoder codec parameters.mime parameters.width parameters.height parameters.frameRate
    session

/-- `dscw_codec_create`. -/
def dscwCodecCreate (mode codec width height frameRate bitrate requestedColorFormat : UInt32)
    (descriptionSize : Nat) : Platform (Except Failure Created) :=
  match mimeForCodec codec with
  | none => pure (.error ⟨codecErrorUnsupported, some "unsupported codec create parameters"⟩)
  | some mime =>
      if mode ≠ modeDecode ∧ mode ≠ modeEncode then
        pure (.error ⟨codecErrorUnsupported, some "unsupported codec create parameters"⟩)
      else if !validParameters width height frameRate bitrate then
        pure (.error ⟨codecErrorLimit, some "codec parameters exceed bounded limits"⟩)
      else do
        let allocated : Bool ← Platform.call .calloc
        if !allocated then
          pure (.error ⟨codecErrorIo, some "could not allocate codec session"⟩)
        else
          let startedNs : UInt64 ← Platform.call .monotonicNs
          let session : CodecSession := { width, height, frameRate, startedNs }
          let built ← createByMode mode codec
            { mime, width, height, frameRate, bitrate, requestedColor := requestedColorFormat }
            session
          match built with
          | .error failure =>
              dscwCodecDestroy session
              pure (.error failure)
          | .ok session =>
              let description := createDescription session mime
              if descriptionSize ≤ strlen description then
                dscwCodecDestroy session
                pure (.error ⟨codecErrorIo, some "codec description exceeds limit"⟩)
              else pure (.ok ⟨session, description⟩)

/-! ### Surface transcoders -/

/-- The started Surface encoder of a transcoder. -/
structure SurfaceEncoder where
  codec : Handle
  surface : Handle
  name : String

/-- The end of `configure_surface_encoder`: whether the encoder was started on the surface made. -/
def startSurfaceEncoder (codec : Handle) (made : MediaStatus) : Platform Bool :=
  if made = amediaOk then do
    let status : MediaStatus ← Platform.call (.start codec)
    pure (status == amediaOk)
  else pure false

/-- `configure_surface_encoder`; `none` is `-1`. -/
def configureSurfaceEncoder (candidate : CodecCandidate) (mime : String)
    (width height frameRate bitrate : UInt32) : Platform (Option SurfaceEncoder) := do
  let available : Bool ← Platform.call (.optionalSymbol .createInputSurface)
  if !available then pure none
  else
    let selected ← newCodec candidate true mime
    match selected with
    | none => pure none
    | some (codec, name) =>
        let format : Bool ← Platform.call .newFormat
        if !format then
          let _ : Unit ← Platform.call (.deleteCodec codec)
          pure none
        else
          let status : MediaStatus ← Platform.call (.configure codec
            { mime, width, height, frameRate, colorFormat := some colorSurface
              bitrate := some bitrate, iFrameInterval := some 2 } none true)
          if status ≠ amediaOk then
            let _ : Unit ← Platform.call (.deleteCodec codec)
            pure none
          else
            let made : MediaStatus × Option Handle ← Platform.call (.createInputSurface codec)
            match made.2 with
            | none =>
                let _ : Unit ← Platform.call (.deleteCodec codec)
                pure none
            | some surface =>
                -- The surface counts as made even when the call that made it reports a failure.
                let started ← startSurfaceEncoder codec made.1
                if started then pure (some ⟨codec, surface, name⟩)
                else
                  let _ : Unit ← Platform.call (.releaseWindow surface)
                  let _ : Unit ← Platform.call (.deleteCodec codec)
                  pure none

/-- The decoder loop of `dscw_codec_create_transcoder` for one Surface encoder. -/
def trySurfaceDecoders (mime : String) (width height frameRate : UInt32) (surface : Handle) :
    List CodecCandidate → Platform (Option (Handle × String))
  | [] => pure none
  | candidate :: candidates => do
      let selected ← newCodec candidate false mime
      match selected with
      | none => trySurfaceDecoders mime width height frameRate surface candidates
      | some (decoder, name) =>
          let format : Bool ← Platform.call .newFormat
          if !format then
            let _ : Unit ← Platform.call (.deleteCodec decoder)
            trySurfaceDecoders mime width height frameRate surface candidates
          else
            let running ← configureStart decoder
              { mime, width, height, frameRate
                maxInputSize := some (dscwMaxPayload - 16).toUInt64 } (some surface) false
            if running then pure (some (decoder, name))
            else
              let _ : Unit ← Platform.call (.deleteCodec decoder)
              trySurfaceDecoders mime width height frameRate surface candidates

/-- The two components of a transcoder. -/
structure SurfacePair where
  encoder : SurfaceEncoder
  decoder : Handle
  decoderName : String

/-- The encoder loop of `dscw_codec_create_transcoder`. -/
def trySurfacePairs (inputMime outputMime : String) (width height frameRate bitrate : UInt32)
    (decoders : List CodecCandidate) : List CodecCandidate → Platform (Option SurfacePair)
  | [] => pure none
  | candidate :: candidates => do
      let configured ←
        configureSurfaceEncoder candidate outputMime width height frameRate bitrate
      match configured with
      | none =>
          trySurfacePairs inputMime outputMime width height frameRate bitrate decoders candidates
      | some encoder =>
          let found ←
            trySurfaceDecoders inputMime width height frameRate encoder.surface decoders
          match found with
          | some (decoder, decoderName) => pure (some ⟨encoder, decoder, decoderName⟩)
          | none =>
              stopDeleteCodec (some encoder.codec)
              let _ : Unit ← Platform.call (.releaseWindow encoder.surface)
              trySurfacePairs inputMime outputMime width height frameRate bitrate decoders
                candidates

/-- The description of a transcoder. -/
def transcoderDescription (session : CodecSession) (inputMime outputMime : String) : String :=
  "\x7b" ++ ",".intercalate
    [ jsonField "transport" (jsonText "surface_zero_copy")
    , jsonField "control_transport" (jsonText "inherited_memfd_eventfd")
    , jsonField "decoder_name" (jsonText session.decoderName)
    , jsonField "encoder_name" (jsonText session.encoderName)
    , jsonField "input_mime" (jsonText inputMime)
    , jsonField "output_mime" (jsonText outputMime) ]
    ++ "\x7d"

/-- `dscw_codec_create_transcoder` once the codecs and the parameters have been checked. -/
def createTranscoderChecked (inputCodec outputCodec : UInt32) (inputMime outputMime : String)
    (width height frameRate bitrate : UInt32) (descriptionSize : Nat) :
    Platform (Except Failure Created) := do
  let encoders ← collectCandidates outputCodec true
  let decoders ← collectCandidates inputCodec false
  let allocated : Bool ← Platform.call .calloc
  if !allocated then
    pure (.error ⟨codecErrorIo, some "could not allocate transcoder session"⟩)
  else
    let startedNs : UInt64 ← Platform.call .monotonicNs
    let session : CodecSession :=
      { transcoder := true, encoder := true, width, height, frameRate, startedNs }
    let found ←
      trySurfacePairs inputMime outputMime width height frameRate bitrate decoders encoders
    match found with
    | none =>
        dscwCodecDestroy session
        pure (.error ⟨codecErrorCodec,
          some "no proven hardware decoder/encoder Surface pair is available"⟩)
    | some pair =>
        let session := { session with
          decoder := some pair.decoder
          transcodeEncoder := some pair.encoder.codec
          encoderInputSurface := some pair.encoder.surface
          decoderName := pair.decoderName
          encoderName := pair.encoder.name }
        let description := transcoderDescription session inputMime outputMime
        if strlen description < descriptionSize then pure (.ok ⟨session, description⟩)
        else
          dscwCodecDestroy session
          pure (.error ⟨codecErrorIo, some "transcoder description exceeds limit"⟩)

/-- `dscw_codec_create_transcoder`. -/
def dscwCodecCreateTranscoder (inputCodec outputCodec width height frameRate bitrate : UInt32)
    (descriptionSize : Nat) : Platform (Except Failure Created) :=
  match mimeForCodec inputCodec, mimeForCodec outputCodec with
  | some inputMime, some outputMime =>
      if !validParameters width height frameRate bitrate then
        pure (.error ⟨codecErrorLimit, some "transcoder parameters exceed bounded limits"⟩)
      else do
        let createInputSurface : Bool ← Platform.call (.optionalSymbol .createInputSurface)
        let signalInputEos : Bool ← Platform.call (.optionalSymbol .signalInputEos)
        if !createInputSurface || !signalInputEos then
          pure (.error ⟨codecErrorUnsupported,
            some "Surface transcoding requires Android API 26 or newer"⟩)
        else
          createTranscoderChecked inputCodec outputCodec inputMime outputMime width height frameRate
            bitrate descriptionSize
  | _, _ => pure (.error ⟨codecErrorUnsupported, some "unsupported transcoder codec"⟩)

end DawnShell
