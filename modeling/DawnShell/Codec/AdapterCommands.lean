/-
Module: DawnShell.Codec.AdapterCommands
Layer: Codec
Purpose: The framing commands of the adapter between FFprobe, FFmpeg and the codec client: `pack` cuts an
  Annex-B file by a packet list, `unpack` takes frames out of the records of a decoder, `pack-i420` makes
  records of raw frames, and `unpack-annexb` takes the stream out of the records of an encoder.
Trusted boundary: faithful model of dawnshell-codec-ffmpeg.pl:149-152, 168-216, 226-299, 308-456 and
  998-1018.  Numbers are exact; JSON text is read by `json_decode` before; a file is read without an
  error, and the output is not one of the inputs.  For an Annex-B input `-` the command `pack` asks for the
  size of a file of that name and reads standard input; the model takes both for one.
Main exports: Adapter.Json, Adapter.secondsToMicros, Adapter.splitRate, Adapter.packetPts,
  Adapter.commandPack, Adapter.commandUnpack, Adapter.commandPackI420, Adapter.commandUnpackAnnexB
-/
import Mathlib.Data.Rat.Floor
import DawnShell.Codec.Adapter
import DawnShell.Codec.Session

namespace DawnShell.Adapter

open Wire

abbrev Text := List Char

/-! ### Numbers -/

/-- The value of decimal digits. -/
def digitsValue (digits : Text) : Nat :=
  digits.foldl (fun value digit => value * 10 + (digit.toNat - '0'.toNat)) 0

/-- What `$` at the end of a pattern leaves to it: the text without one newline at its end. -/
def beforeNewline (text : Text) : Text := if text.getLast? = some '\n' then text.dropLast else text

/-- `int`: toward zero. -/
def truncate (value : ℚ) : Int := value.num.tdiv value.den

/-- `positive_int`. -/
def positiveInt (value : Text) (label : String) : Except String Nat :=
  let digits := beforeNewline value
  if digits ≠ [] ∧ digits.all Char.isDigit = true ∧ 0 < digitsValue digits then .ok (digitsValue digits)
  else .error (label ++ " must be a positive integer")

/-- `[0-9]+(?:\.[0-9]+)?` and its value. -/
def unsignedDecimal (text : Text) : Option ℚ :=
  let whole := text.takeWhile Char.isDigit
  if whole = [] then none
  else
    match text.dropWhile Char.isDigit with
    | [] => some (digitsValue whole)
    | '.' :: fraction =>
        if fraction ≠ [] ∧ fraction.all Char.isDigit = true then
          some (digitsValue whole + digitsValue fraction / 10 ^ fraction.length)
        else none
    | _ => none

/-- `split_rate`: the numerator and the denominator. -/
def splitRate (value : Text) : Except String (ℚ × ℚ) :=
  let text := beforeNewline value
  let failure := "invalid frame rate: " ++ String.ofList value
  match text.dropWhile (· ≠ '/') with
  | _ :: behind =>
      match unsignedDecimal (text.takeWhile (· ≠ '/')), unsignedDecimal behind with
      | some numerator, some denominator =>
          if numerator ≤ 0 ∨ denominator ≤ 0 then .error failure else .ok (numerator, denominator)
      | _, _ => .error failure
  | [] => .error failure

/-- `parse_rate`. -/
def parseRate (value : Text) : Except String ℚ := do
  let (numerator, denominator) ← splitRate value
  let rate := numerator / denominator
  if rate < 1 ∨ 240 < rate then .error "frame rate must be within 1..240" else .ok rate

/-! ### Packet times -/

/-- What `\s` matches in what is left of a text: the spaces of Unicode when the text had a character
beyond Latin-1. -/
def isSpace (text : Text) (character : Char) : Bool :=
  let code := character.toNat
  (9 ≤ code && code ≤ 13) || code == 32 ||
    (text.any (255 < ·.toNat) &&
      (code == 0x85 || code == 0xA0 || code == 0x1680 || (0x2000 ≤ code && code ≤ 0x200A) ||
        code == 0x2028 || code == 0x2029 || code == 0x202F || code == 0x205F || code == 0x3000))

/-- `s/^\s+//` and `s/\s+$//`. -/
def trim (value : Text) : Text :=
  ((value.dropWhile (isSpace value)).reverse.dropWhile (isSpace value)).reverse

/-- The groups of `^([+-]?)([0-9]*)(?:\.([0-9]*))?$`: whether the sign is a minus, and the digits. -/
def timeGroups (text : Text) : Option (Bool × Text × Text) :=
  let unsigned := if text.head? = some '+' ∨ text.head? = some '-' then text.tail else text
  let whole := unsigned.takeWhile Char.isDigit
  match unsigned.dropWhile Char.isDigit with
  | [] => some (text.head? = some '-', whole, [])
  | '.' :: fraction =>
      if fraction.all Char.isDigit = true then some (text.head? = some '-', whole, fraction) else none
  | _ => none

/-- `seconds_to_micros`. -/
def secondsToMicros (value : Text) : Except String Int :=
  let failure := "invalid packet time: " ++ String.ofList value
  match timeGroups (trim value) with
  | none => .error failure
  | some (negative, whole, fraction) =>
      if whole = [] ∧ fraction = [] then .error failure
      else
        let whole := if whole = [] then ['0'] else whole
        let fraction := (fraction ++ List.replicate 6 '0').take 6
        let micros : Int := digitsValue whole * 1000000 + digitsValue fraction
        .ok (if negative then -micros else micros)

/-! ### Packets -/

/-- A decoded JSON value.  Numbers keep their text; `true` and `false` are `1` and `0`. -/
inductive Json where
  | text (value : Text)
  | null
  | array (items : List Json)
  | object (fields : List (Text × Json))

/-- `$value->{key}`: a missing field is undefined, a later field of the same name is the one that counts,
and an undefined value is taken for an empty object. -/
def Json.field (value : Json) (key : Text) : Except String Json :=
  match value with
  | .object fields => .ok (((fields.reverse.find? fun field => field.1 == key).map Prod.snd).getD .null)
  | .null => .ok .null
  | .array _ => .error "Not a HASH reference"
  | .text _ => .error "Can't use string as a HASH ref while \"strict refs\" in use"

/-- `!defined $value || $value eq 'N/A'`. -/
def Json.unavailable : Json → Bool
  | .null => true
  | .text value => value = "N/A".toList
  | .array _ | .object _ => false

/-- `load_packets` on the decoded file. -/
def loadPackets (value : Json) : Except String (List Json) :=
  match value with
  | .object _ => do
      match ← value.field "packets".toList with
      | .array packets => .ok packets
      | _ => .error "FFprobe JSON has no packet list"
  | _ => .error "FFprobe JSON has no packet list"

/-- `packet_pts`. -/
def packetPts (packet : Json) (index : Nat) (frameRate : Text) : Except String Int := do
  let time ← packet.field "pts_time".toList
  let time ← if time.unavailable then packet.field "dts_time".toList else .ok time
  if time.unavailable then do
    let (numerator, denominator) ← splitRate frameRate
    .ok (truncate (index * 1000000 * denominator / numerator))
  else
    match time with
    | .text time => secondsToMicros time
    | _ => .error "invalid packet time: reference"

/-- `packet_field`. -/
def packetField (packet : Json) (key : Text) (index : Nat) : Except String Int := do
  let failure := "invalid Annex-B packet at index " ++ toString index
  match ← packet.field key with
  | .text value =>
      let value := beforeNewline value
      let digits := if value.head? = some '-' then value.tail else value
      if digits ≠ [] ∧ digits.all Char.isDigit = true then
        .ok (if value.head? = some '-' then -digitsValue digits else digitsValue digits)
      else .error failure
  | _ => .error failure

/-! ### The records of a command -/

theorem length_recordHeader {pts flags size : Nat} :
    (recordHeader pts flags size).length = recordSize := by
  rw [recordHeader, BigEndian.length_encodeFields]
  rfl

/-- The header of a record is read back from its front. -/
theorem parseRecordHeader_record {pts size : Nat} {data : Bytes} (time : pts < 2 ^ 64)
    (sized : size ≤ maxMediaPayload) :
    parseRecordHeader ((recordHeader pts 0 size ++ data).take recordSize) = (pts, 0, size) := by
  rw [List.take_append_of_le_length length_recordHeader.ge, List.take_of_length_le length_recordHeader.le]
  apply parseRecordHeader_recordHeader time (by decide)
  rw [maxMediaPayload] at sized
  omega

/-- What the loop of `command_pack` prints for a packet. -/
def packPacket (annexB : Bytes) (shift : Int) (index : Nat) (packet : Json) (time : Int) :
    Except String Bytes := do
  let position ← packetField packet "pos".toList index
  let size ← packetField packet "size".toList index
  if position < 0 ∨ size ≤ 0 ∨ (maxMediaPayload - recordSize : Nat) < size then
    .error ("invalid Annex-B packet at index " ++ toString index)
  else if annexB.length < position + size then
    .error ("Annex-B packet exceeds file at index " ++ toString index)
  else
    let data := (annexB.drop position.toNat).take size.toNat
    if data.length ≠ size then .error ("short Annex-B packet at index " ++ toString index)
    else
      let pts := time - shift
      if pts < 0 then .error "normalized packet PTS became negative"
      else .ok (recordHeader pts.toNat 0 size.toNat ++ data)

/-- The times of the input packets, from an index on. -/
def packetTimes (frameRate : Text) : Nat → List Json → Except String (List Int)
  | _, [] => .ok []
  | index, packet :: packets => do
      let time ← packetPts packet index frameRate
      let times ← packetTimes frameRate (index + 1) packets
      .ok (time :: times)

/-- The second loop of `command_pack`, from an index on: the records. -/
def packRecords (annexB : Bytes) (shift : Int) : Nat → List (Json × Int) → Except String (List Bytes)
  | _, [] => .ok []
  | index, (packet, time) :: packets => do
      let record ← packPacket annexB shift index packet time
      let records ← packRecords annexB shift (index + 1) packets
      .ok (record :: records)

/-- The frame size of `command_unpack` and `command_pack_i420`. -/
def i420FrameSize (width height : Nat) (failure : String) : Except String Nat :=
  let size := truncate (width * height * 3 / 2)
  if size ≤ 0 ∨ (maxMediaPayload - recordSize : Nat) < size then .error failure else .ok size.toNat

/-- A record of the decoder whose data has been read. -/
def unpackFrame (frameSize : Nat) (state : Unpacking) (pts : Nat) (data : Bytes) :
    Except String Unpacking :=
  if data = [] then .ok state
  else if data.length ≠ frameSize then
    .error ("decoded frame " ++ toString state.frames ++ " has " ++ toString data.length ++
      " bytes; expected " ++ toString frameSize)
  else if (pts : Int) < state.previousPts then .error "decoded PTS is not monotonic"
  else .ok { state with
    frames := state.frames + 1, previousPts := pts, printed := state.printed ++ data }

/-- The loop of `command_unpack` over what is left of the input. -/
def unpackFrames (frameSize : Nat) (state : Unpacking) (source : Bytes) : Except String Unpacking :=
  if (source.take recordSize).length = 0 then .ok state
  else if _whole : (source.take recordSize).length ≠ recordSize then
    .error "truncated decoded record header"
  else
    let (pts, flags, size) := parseRecordHeader (source.take recordSize)
    if maxMediaPayload - recordSize < size then .error "decoded record exceeds protocol limit"
    else
      let data := (source.drop recordSize).take size
      if data.length ≠ size then .error "truncated decoded record payload"
      else
        match unpackFrame frameSize state pts data with
        | .error failure => .error failure
        | .ok state =>
            if flags &&& eosFlag ≠ 0 then .ok state
            else unpackFrames frameSize state ((source.drop recordSize).drop size)
termination_by source.length
decreasing_by
  rw [List.length_take, recordSize] at _whole
  rw [List.length_drop, List.length_drop, recordSize]
  omega

/-- The loop of `command_pack_i420` over what is left of the input. -/
def packFrames (frameSize : Nat) (numerator denominator : ℚ) (state : Unpacked) (source : Bytes) :
    Except String Unpacked :=
  if _more : (source.take frameSize).length = 0 then .ok state
  else if (source.take frameSize).length ≠ frameSize then
    .error "raw I420 input ends with a partial frame"
  else
    let pts := truncate (state.frames * 1000000 * denominator / numerator)
    packFrames frameSize numerator denominator
      { frames := state.frames + 1
        output := state.output ++ recordHeader pts.toNat 0 frameSize ++ source.take frameSize }
      (source.drop frameSize)
termination_by source.length
decreasing_by
  rw [List.length_take] at _more
  rw [List.length_drop]
  omega

/-! ### The commands -/

/-- What can be read under a name: the decoded JSON of a file, and the bytes of a file or, under `-`, of
standard input, whose number is also what `-s` answers for that name. -/
structure Inputs where
  json : Text → Except String Json
  contents : Text → Option Bytes

/-- What a command that succeeds has left: its two streams, and the output file if it has one. -/
structure Delivery where
  stdout : Bytes := []
  stderr : Bytes := []
  file : Option Bytes := none
deriving DecidableEq, Repr

/-- `binary_input`. -/
def binaryInput (inputs : Inputs) (path : Text) : Except String Bytes :=
  match inputs.contents path with
  | some contents => .ok contents
  | none => .error ("cannot read " ++ String.ofList path)

/-- The output between `binary_output` and `close_output`. -/
def binaryOutput (path : Text) (output : Bytes) : Delivery :=
  if path = ['-'] then { stdout := output } else { file := some output }

/-- `report_count`. -/
def reportCount (label : String) (count : Nat) (outputPath : Text) (delivery : Delivery) : Delivery :=
  if outputPath = ['-'] then
    { delivery with stderr := delivery.stderr ++ textBytes (label ++ "=" ++ toString count ++ "\n") }
  else { delivery with stdout := delivery.stdout ++ textBytes (toString count ++ "\n") }

/-- The summary of `command_pack`, which is printed to standard output. -/
def packSummary (packets : Nat) (shift : Int) : Bytes :=
  textBytes ("packed_packets=" ++ toString packets ++ " pts_shift_us=" ++ toString shift ++ "\n")

/-- What `command_pack` has read and computed before it prints. -/
structure Packing where
  rawPackets : List Json
  annexB : Bytes
  times : List Int

/-- `$shift`: the lowest time. -/
def Packing.shift (packing : Packing) : Int := packing.times.min?.getD 0

/-- `command_pack` up to its second loop. -/
def preparePack (inputs : Inputs) (inputPacketsPath rawPacketsPath annexBPath frameRate : Text) :
    Except String Packing := do
  let inputPackets ← loadPackets (← inputs.json inputPacketsPath)
  let rawPackets ← loadPackets (← inputs.json rawPacketsPath)
  if inputPackets.length = 0 ∨ inputPackets.length ≠ rawPackets.length then
    .error ("input and Annex-B packet counts differ: " ++ toString inputPackets.length ++ " != " ++
      toString rawPackets.length)
  else
    match inputs.contents annexBPath with
    | none => .error ("cannot size " ++ String.ofList annexBPath)
    | some annexB => do
        let times ← packetTimes frameRate 0 inputPackets
        .ok { rawPackets, annexB, times }

/-- `command_pack`. -/
def commandPack (inputs : Inputs) (positional : List Text) : Except String Delivery :=
  match positional with
  | [inputPacketsPath, rawPacketsPath, annexBPath, frameRate, outputPath] => do
      let packing ← preparePack inputs inputPacketsPath rawPacketsPath annexBPath frameRate
      let records ← packRecords packing.annexB packing.shift 0 (packing.rawPackets.zip packing.times)
      let delivery := binaryOutput outputPath records.flatten
      .ok { delivery with
        stdout := delivery.stdout ++ packSummary packing.rawPackets.length packing.shift }
  | _ => .error "usage: pack INPUT_PACKETS RAW_PACKETS ANNEX_B FRAME_RATE OUTPUT"

/-- The frames and the bytes of `command_unpack`; the input is opened after the checks. -/
def unpackI420 (width height : Text) (input : Except String Bytes) : Except String Unpacked := do
  let width ← positiveInt width "width"
  let height ← positiveInt height "height"
  let frameSize ← i420FrameSize width height "invalid decoded I420 frame size"
  let source ← input
  let state ← unpackFrames frameSize {} source
  if state.frames = 0 then .error "hardware decoder produced no frames"
  else .ok { frames := state.frames, output := state.printed }

/-- `command_unpack`. -/
def commandUnpack (inputs : Inputs) (positional : List Text) : Except String Delivery :=
  match positional with
  | [inputPath, outputPath, width, height] => do
      let unpacked ← unpackI420 width height (binaryInput inputs inputPath)
      .ok (reportCount "unpacked_i420_frames" unpacked.frames outputPath
        (binaryOutput outputPath unpacked.output))
  | _ => .error "usage: unpack INPUT OUTPUT WIDTH HEIGHT"

/-- The frames and the bytes of `command_pack_i420`; the input is opened after the checks. -/
def packI420 (width height frameRate : Text) (input : Except String Bytes) : Except String Unpacked := do
  let width ← positiveInt width "width"
  let height ← positiveInt height "height"
  let frameSize ← i420FrameSize width height "invalid I420 frame size"
  let _ ← parseRate frameRate
  let (numerator, denominator) ← splitRate frameRate
  let source ← input
  let state ← packFrames frameSize numerator denominator { frames := 0, output := [] } source
  if state.frames = 0 then .error "raw I420 input has no complete frames" else .ok state

/-- `command_pack_i420`. -/
def commandPackI420 (inputs : Inputs) (positional : List Text) : Except String Delivery :=
  match positional with
  | [inputPath, width, height, frameRate, outputPath] => do
      let packed ← packI420 width height frameRate (binaryInput inputs inputPath)
      .ok (reportCount "packed_i420_frames" packed.frames outputPath
        (binaryOutput outputPath packed.output))
  | _ => .error "usage: pack-i420 INPUT WIDTH HEIGHT FRAME_RATE OUTPUT"

/-- `extract_options` where the only option is a flag: whether it is given, and the other arguments. -/
def extractFlag (flag : Text) : List Text → Except String (Bool × List Text)
  | [] => .ok (false, [])
  | token :: pending =>
      if token = flag then do
        let (_, positional) ← extractFlag flag pending
        .ok (true, positional)
      else if "--".toList.isPrefixOf token then .error ("unknown option: " ++ String.ofList token)
      else do
        let (given, positional) ← extractFlag flag pending
        .ok (given, token :: positional)

/-- `command_unpack_annexb`. -/
def commandUnpackAnnexB (inputs : Inputs) (arguments : List Text) : Except String Delivery := do
  let (requireKeyframe, positional) ← extractFlag "--require-keyframe".toList arguments
  match positional with
  | [inputPath, outputPath] => do
      let source ← binaryInput inputs inputPath
      match unpackAnnexB requireKeyframe source with
      | .error failure => .error failure.message
      | .ok unpacked =>
          .ok (reportCount "unpacked_annexb_frames" unpacked.frames outputPath
            (binaryOutput outputPath unpacked.output))
  | _ => .error "usage: unpack-annexb INPUT OUTPUT [--require-keyframe]"

/-- A framing command with its arguments but the output path. -/
inductive FramingCommand where
  | pack (inputPacketsPath rawPacketsPath annexBPath frameRate : Text)
  | unpack (inputPath width height : Text)
  | packI420 (inputPath width height frameRate : Text)
  | unpackAnnexB (inputPath : Text) (requireKeyframe : Bool)
deriving DecidableEq, Repr

/-- The command with an output path. -/
def FramingCommand.run (inputs : Inputs) (outputPath : Text) : FramingCommand → Except String Delivery
  | .pack inputPacketsPath rawPacketsPath annexBPath frameRate =>
      commandPack inputs [inputPacketsPath, rawPacketsPath, annexBPath, frameRate, outputPath]
  | .unpack inputPath width height => commandUnpack inputs [inputPath, outputPath, width, height]
  | .packI420 inputPath width height frameRate =>
      commandPackI420 inputs [inputPath, width, height, frameRate, outputPath]
  | .unpackAnnexB inputPath requireKeyframe =>
      commandUnpackAnnexB inputs
        ([inputPath, outputPath] ++ if requireKeyframe then ["--require-keyframe".toList] else [])

end DawnShell.Adapter
