/-
Module: DawnShell.Ffmpeg.Planner
Layer: Ffmpeg
Purpose: The planner of the FFmpeg front end: which commands the bridge can reproduce, and the line of
  text it prints about a command.
Trusted boundary: faithful model of dawnshell-codec-ffmpeg.pl:804-992, the command `plan-ffmpeg`.
  Arguments are byte strings, a byte is written as the character with its number.  The product of a
  bitrate and its multiplier is computed in floating point, so that its integer part is a parameter.
Main exports: requestsMediacodec, parseBitrate, outputSuffix, Plan, parseFfmpegCommand, planFfmpeg
-/
import DawnShell.Lib.FieldLine

namespace DawnShell.Ffmpeg

abbrev Text := List Char

/-! ### Tables -/

/-- The codecs of `%HARDWARE_ENCODERS`. -/
inductive Codec where
  | avc
  | hevc
deriving DecidableEq, Repr

def Codec.text : Codec → Text
  | .avc => "avc".toList
  | .hevc => "hevc".toList

/-- `%HARDWARE_ENCODERS`. -/
def hardwareEncoders (name : Text) : Option Codec :=
  if ["libx264", "h264", "h264_mediacodec"].any (·.toList == name) then some .avc
  else if ["libx265", "hevc", "hevc_mediacodec"].any (·.toList == name) then some .hevc
  else none

/-- `%MEDIACODEC_ENCODERS`. -/
def mediacodecEncoders : List Text := ["h264_mediacodec", "hevc_mediacodec"].map String.toList

/-- `%MEDIACODEC_DECODERS`. -/
def mediacodecDecoders : List Text := ["h264_mediacodec", "hevc_mediacodec"].map String.toList

/-- `%SOFTWARE_VIDEO_DECODERS`. -/
def softwareVideoDecoders : List Text := ["h264", "hevc"].map String.toList

/-- `%VIDEO_CODEC_OPTIONS`. -/
def videoCodecOptions : List Text := ["-c:v", "-codec:v", "-vcodec"].map String.toList

/-- `%AUDIO_CODEC_OPTIONS`. -/
def audioCodecOptions : List Text := ["-c:a", "-codec:a", "-acodec"].map String.toList

/-- `%RAW_VIDEO_SUFFIXES`. -/
def rawVideoSuffixes : List Text := [".i420", ".yuv"].map String.toList

/-- `%PASSTHROUGH_FLAGS`. -/
def passthroughFlags : List Text := ["-hide_banner", "-y", "-n", "-an", "-nostdin"].map String.toList

/-- `%IGNORED_VALUE_OPTIONS`. -/
def ignoredValueOptions : List Text :=
  ["-loglevel", "-v", "-threads", "-stats_period", "-pix_fmt", "-f", "-r", "-hwaccel_output_format",
    "-hwaccel_device", "-hwaccel_flags"].map String.toList

/-- The reasons of `unsupported`. -/
inductive Unsupported where
  | multipleOutputs
  | missingOptionValue
  | unsupportedDecoder
  | unsupportedAudioDecoder
  | unsupportedAudioCodec
  | unsupportedHwaccel
  | unsupportedBitrate
  | bitrateOutOfRange
  | unsupportedMap
  | unsupportedOption
  | requiresSingleInput
  | missingOutput
  | conflictingAudioOptions
  | streamCopy
  | noVideoEncoder
  | unsupportedEncoder
  | audioCopyRequiresByteBufferEncode
deriving DecidableEq, Repr

def Unsupported.reason : Unsupported → Text
  | .multipleOutputs => "multiple_outputs".toList
  | .missingOptionValue => "missing_option_value".toList
  | .unsupportedDecoder => "unsupported_decoder".toList
  | .unsupportedAudioDecoder => "unsupported_audio_decoder".toList
  | .unsupportedAudioCodec => "unsupported_audio_codec".toList
  | .unsupportedHwaccel => "unsupported_hwaccel".toList
  | .unsupportedBitrate => "unsupported_bitrate".toList
  | .bitrateOutOfRange => "bitrate_out_of_range".toList
  | .unsupportedMap => "unsupported_map".toList
  | .unsupportedOption => "unsupported_option".toList
  | .requiresSingleInput => "requires_single_input".toList
  | .missingOutput => "missing_output".toList
  | .conflictingAudioOptions => "conflicting_audio_options".toList
  | .streamCopy => "stream_copy".toList
  | .noVideoEncoder => "no_video_encoder".toList
  | .unsupportedEncoder => "unsupported_encoder".toList
  | .audioCopyRequiresByteBufferEncode => "audio_copy_requires_bytebuffer_encode".toList

/-! ### Values -/

/-- The class `\s`. -/
def isSpace (character : Char) : Bool :=
  character == ' ' || (0x09 ≤ character.toNat && character.toNat ≤ 0x0d)

/-- `/^[0-9]*\.?[0-9]*$/`; the end of the text may be a newline. -/
def isDecimal (text : Text) : Bool :=
  let line := if text.getLast? = some '\n' then text.dropLast else text
  match line.dropWhile Char.isDigit with
  | [] => true
  | point :: fraction => point == '.' && fraction.all Char.isDigit

/-- `parse_bitrate`.  The parameter is the integer part of the product of a text and its multiplier. -/
def parseBitrate (product : Text → Nat → Nat) (value : Text) : Except Unsupported Nat :=
  let front := (value.map Char.toLower).dropWhile isSpace
  let trimmed := (front.reverse.dropWhile isSpace).reverse
  let (text, multiplier) :=
    if trimmed.getLast? = some 'k' then (trimmed.dropLast, 1000)
    else if trimmed.getLast? = some 'm' then (trimmed.dropLast, 1000000)
    else (trimmed, 1)
  if isDecimal text = false ∨ text.any Char.isDigit = false then .error .unsupportedBitrate
  else
    let parsed := product text multiplier
    if parsed < 1000 ∨ 100000000 < parsed then .error .bitrateOutOfRange else .ok parsed

/-- An option and the value behind it that ask for MediaCodec by name. -/
def namesMediacodec (token value : Text) : Bool :=
  (token == "-hwaccel".toList && value == "mediacodec".toList) ||
    (videoCodecOptions.contains token && mediacodecEncoders.contains value)

/-- `requests_mediacodec`. -/
def requestsMediacodec : List Text → Bool
  | token :: value :: rest => namesMediacodec token value || requestsMediacodec (value :: rest)
  | _ => false

/-- The class `[/\\]`. -/
def isSlash (character : Char) : Bool := character == '/' || character == '\\'

/-- `s{^.*[/\\]}{}`; the dot stops at a newline. -/
def baseName (path : Text) : Text :=
  let line := path.takeWhile (· != '\n')
  (line.reverse.takeWhile fun character => !isSlash character).reverse ++ path.dropWhile (· != '\n')

/-- `output_suffix`. -/
def outputSuffix (path : Text) : Text :=
  let name := baseName path
  if name.contains '.' then
    '.' :: ((name.reverse.takeWhile (· != '.')).reverse.map Char.toLower)
  else []

/-! ### Commands -/

/-- The actions of a plan. -/
inductive Action where
  | decode
  | encode
  | transcode
deriving DecidableEq, Repr

def Action.text : Action → Text
  | .decode => "decode".toList
  | .encode => "encode".toList
  | .transcode => "transcode".toList

/-- What `parse_ffmpeg_command` returns. -/
structure Plan where
  action : Action
  input : Text
  output : Text
  codec : Option Codec := none
  bitrate : Option Nat := none
  audio : Option Text := none
deriving DecidableEq, Repr

/-- The variables of the loop over the arguments. -/
structure Parsed where
  inputs : List Text := []
  output : Option Text := none
  videoCodec : Option Text := none
  audioCodec : Option Text := none
  bitrate : Option Nat := none
  hardwareDecode : Bool := false
  audioDisabled : Bool := false
deriving DecidableEq, Repr

/-- An option with the value behind it. -/
def parseOption (product : Text → Nat → Nat) (parsed : Parsed) (token value : Text) :
    Except Unsupported Parsed :=
  if token = "-i".toList then .ok { parsed with inputs := parsed.inputs ++ [value] }
  else if videoCodecOptions.contains token then
    if parsed.inputs ≠ [] then .ok { parsed with videoCodec := some value }
    else if mediacodecDecoders.contains value then .ok { parsed with hardwareDecode := true }
    else if softwareVideoDecoders.contains value then .ok parsed
    else .error .unsupportedDecoder
  else if audioCodecOptions.contains token then
    if parsed.inputs = [] then .error .unsupportedAudioDecoder
    else if value ≠ "copy".toList ∨ parsed.audioDisabled then .error .unsupportedAudioCodec
    else .ok { parsed with audioCodec := some value }
  else if token = "-hwaccel".toList then
    if value = "mediacodec".toList then .ok { parsed with hardwareDecode := true }
    else if value = "auto".toList ∨ value = "none".toList then .ok parsed
    else .error .unsupportedHwaccel
  else if token = "-b:v".toList then
    (parseBitrate product value).map fun bitrate => { parsed with bitrate := some bitrate }
  else if token = "-map".toList then
    if value = "0:v:0".toList ∨ value = "0:v".toList ∨ value = "0".toList then .ok parsed
    else .error .unsupportedMap
  else if ignoredValueOptions.contains token then .ok parsed
  else .error .unsupportedOption

/-- The loop over the arguments. -/
def parseArguments (product : Text → Nat → Nat) : Parsed → List Text → Except Unsupported Parsed
  | parsed, [] => .ok parsed
  | parsed, token :: rest =>
      if token.head? ≠ some '-' then
        if parsed.output.isSome then .error .multipleOutputs
        else parseArguments product { parsed with output := some token } rest
      else if passthroughFlags.contains token then
        parseArguments product
          { parsed with audioDisabled := parsed.audioDisabled || token == "-an".toList } rest
      else
        match rest with
        | [] => .error .missingOptionValue
        | value :: more =>
            match parseOption product parsed token value with
            | .error reason => .error reason
            | .ok parsed => parseArguments product parsed more

/-- The tests behind the loop. -/
def planOf (parsed : Parsed) : Except Unsupported Plan :=
  match parsed.inputs, parsed.output with
  | [input], some output =>
      if parsed.audioDisabled ∧ parsed.audioCodec.isSome then .error .conflictingAudioOptions
      else if parsed.videoCodec = some "copy".toList then .error .streamCopy
      else
        match parsed.videoCodec with
        | none =>
            if rawVideoSuffixes.contains (outputSuffix output) then
              .ok { action := .decode, input, output }
            else .error .noVideoEncoder
        | some videoCodec =>
            match hardwareEncoders videoCodec with
            | none => .error .unsupportedEncoder
            | some codec =>
                if mediacodecEncoders.contains videoCodec ∧
                    ¬ (codec = .avc ∧ parsed.hardwareDecode = true) then
                  .ok { action := .encode, input, output, codec, bitrate := parsed.bitrate,
                        audio := parsed.audioCodec }
                else if parsed.audioCodec.isSome then .error .audioCopyRequiresByteBufferEncode
                else .ok { action := .transcode, input, output, codec, bitrate := parsed.bitrate }
  | [_], none => .error .missingOutput
  | _, _ => .error .requiresSingleInput

/-- `parse_ffmpeg_command`. -/
def parseFfmpegCommand (product : Text → Nat → Nat) (argv : List Text) : Except Unsupported Plan :=
  parseArguments product {} argv >>= planOf

/-! ### The line -/

/-- `name=value`. -/
def field (name : String) (value : Text) : Text := name.toList ++ '=' :: value

/-- The fields of a plan. -/
def planFields (plan : Plan) (explicit : Bool) : List Text :=
  [field "action" plan.action.text, field "input" plan.input, field "output" plan.output] ++
    (plan.codec.map fun codec => field "codec" codec.text).toList ++
    (plan.bitrate.map fun bitrate => field "bitrate" (Nat.toDigits 10 bitrate)).toList ++
    (plan.audio.map (field "audio")).toList ++
    (if explicit then [field "explicit" "mediacodec".toList] else [])

/-- The fields of a refusal. -/
def refusalFields (reason : Unsupported) (explicit : Bool) : List Text :=
  [field "action" "passthrough".toList, field "reason" reason.reason] ++
    (if explicit then [field "explicit" "mediacodec".toList] else [])

/-- `plan_ffmpeg`: what it prints. -/
def planFfmpeg (product : Text → Nat → Nat) (argv : List Text) : Text :=
  let explicit := requestsMediacodec argv
  let fields := match parseFfmpegCommand product argv with
    | .ok plan => planFields plan explicit
    | .error reason => refusalFields reason explicit
  [' '].intercalate fields ++ ['\n']

end DawnShell.Ffmpeg
