/-
Module: DawnShell.Ffmpeg.Commands
Layer: Ffmpeg
Purpose: The commands that the bridge takes from FFmpeg, said of the command line as a whole: its operands,
  its flags and its options with their values, what an option may say in front of the input and behind it,
  and what the command may ask for together.
Trusted boundary: an abstract statement; the planner is in DawnShell.Ffmpeg.Planner.
Main exports: Item, itemsWith, items, Fine, Taken, OneOption, DiffersInOneOption
-/
import DawnShell.Ffmpeg.Planner

namespace DawnShell.Ffmpeg

/-! ### Command lines -/

/-- A word that is no option, an option without a value, or an option with the value behind it. -/
inductive Item where
  | operand (path : Text)
  | flag (token : Text)
  | option (token value : Text)
deriving DecidableEq, Repr

/-- The items of a command line where some options have no value, unless its last option lacks the value. -/
def itemsWith (valueless : Text → Bool) : List Text → Option (List Item)
  | [] => some []
  | token :: rest =>
      if token.head? ≠ some '-' then (itemsWith valueless rest).map (.operand token :: ·)
      else if valueless token = true then (itemsWith valueless rest).map (.flag token :: ·)
      else
        match rest with
        | [] => none
        | value :: more => (itemsWith valueless more).map (.option token value :: ·)

section ItemsWith

variable {valueless : Text → Bool} {token value : Text} {rest : List Text}

theorem itemsWith_operand (operand : token.head? ≠ some '-') :
    itemsWith valueless (token :: rest) = (itemsWith valueless rest).map (.operand token :: ·) := by
  rw [itemsWith.eq_def]
  exact if_pos operand

theorem itemsWith_flag (dash : ¬token.head? ≠ some '-') (flag : valueless token = true) :
    itemsWith valueless (token :: rest) = (itemsWith valueless rest).map (.flag token :: ·) := by
  rw [itemsWith.eq_def]
  exact (if_neg dash).trans (if_pos flag)

theorem itemsWith_last (dash : ¬token.head? ≠ some '-') (flag : ¬valueless token = true) :
    itemsWith valueless [token] = none := by
  rw [itemsWith.eq_def]
  exact (if_neg dash).trans (if_neg flag)

theorem itemsWith_option (dash : ¬token.head? ≠ some '-') (flag : ¬valueless token = true) :
    itemsWith valueless (token :: value :: rest) =
      (itemsWith valueless rest).map (.option token value :: ·) := by
  rw [itemsWith.eq_def]
  exact (if_neg dash).trans (if_neg flag)

end ItemsWith

/-- The items of a command line as the planner takes them. -/
def items : List Text → Option (List Item) := itemsWith passthroughFlags.contains

namespace Item

def operand? : Item → Option Text
  | .operand path => some path
  | .flag _ | .option _ _ => none

def input? : Item → Option Text
  | .option token value => if token = "-i".toList then some value else none
  | .operand _ | .flag _ => none

def isInput (item : Item) : Bool := item.input?.isSome

def videoCodec? : Item → Option Text
  | .option token value => if videoCodecOptions.contains token then some value else none
  | .operand _ | .flag _ => none

def namesAudioCodec : Item → Bool
  | .option token _ => audioCodecOptions.contains token
  | .operand _ | .flag _ => false

def disablesAudio : Item → Bool
  | .flag token => token == "-an".toList
  | .operand _ | .option _ _ => false

/-- A request for hardware decoding.  An option for a video codec names a decoder in front of the input. -/
def asksHardwareDecode (started : Bool) : Item → Bool
  | .option token value =>
      (token == "-hwaccel".toList && value == "mediacodec".toList) ||
        (!started && videoCodecOptions.contains token && mediacodecDecoders.contains value)
  | .operand _ | .flag _ => false

end Item

/-- An item that the bridge reproduces or can ignore.  `started` says whether the input stands before. -/
inductive Fine (product : Text → Nat → Nat) : Bool → Item → Prop where
  | operand {started : Bool} (path : Text) : Fine product started (.operand path)
  | flag {started : Bool} (token : Text) : Fine product started (.flag token)
  | input {started : Bool} (value : Text) : Fine product started (.option "-i".toList value)
  | decoder {started : Bool} {token value : Text} (video : token ∈ videoCodecOptions)
      (known : value ∈ mediacodecDecoders ++ softwareVideoDecoders) :
      Fine product started (.option token value)
  | encoder {token : Text} (video : token ∈ videoCodecOptions) (value : Text) :
      Fine product true (.option token value)
  | audio {token : Text} (audio : token ∈ audioCodecOptions) :
      Fine product true (.option token "copy".toList)
  | hwaccel {started : Bool} {value : Text}
      (known : value ∈ ["mediacodec".toList, "auto".toList, "none".toList]) :
      Fine product started (.option "-hwaccel".toList value)
  | bitrate {started : Bool} {value : Text} {bitrate : Nat}
      (parsed : parseBitrate product value = .ok bitrate) :
      Fine product started (.option "-b:v".toList value)
  | map {started : Bool} {value : Text} (known : value ∈ ["0:v:0".toList, "0:v".toList, "0".toList]) :
      Fine product started (.option "-map".toList value)
  | ignored {started : Bool} {token : Text} (known : token ∈ ignoredValueOptions) (value : Text) :
      Fine product started (.option token value)

/-- Every item is fine where it stands. -/
def FineFrom (product : Text → Nat → Nat) : Bool → List Item → Prop
  | _, [] => True
  | started, item :: rest => Fine product started item ∧ FineFrom product (started || item.isInput) rest

/-- The last codec that is named behind an input. -/
def encoderFrom : Bool → List Item → Option Text
  | _, [] => none
  | started, item :: rest =>
      (encoderFrom (started || item.isInput) rest).or (if started then item.videoCodec? else none)

/-- Some item asks for hardware decoding. -/
def hardwareFrom : Bool → List Item → Bool
  | _, [] => false
  | started, item :: rest =>
      item.asksHardwareDecode started || hardwareFrom (started || item.isInput) rest

/-- What the encoder of a command has to be. -/
structure Encodes (line : List Item) (name : Text) (codec : Codec) : Prop where
  known : hardwareEncoders name = some codec
  audio : line.any Item.namesAudioCodec = true →
    name ∈ mediacodecEncoders ∧ ¬(codec = .avc ∧ hardwareFrom false line = true)

/-- A command that the bridge takes: every item is fine, one input and one output, audio is not both copied
and disabled, and an encoder of the hardware is named or the output is raw video. -/
structure TakenItems (product : Text → Nat → Nat) (line : List Item) : Prop where
  fine : FineFrom product false line
  input : (line.filterMap Item.input?).length = 1
  output : (line.filterMap Item.operand?).length = 1
  audible : line.any Item.disablesAudio = true → line.any Item.namesAudioCodec = false
  encoder : ∀ name, encoderFrom false line = some name → ∃ codec, Encodes line name codec
  raw : encoderFrom false line = none →
    ∀ output ∈ line.filterMap Item.operand?, outputSuffix output ∈ rawVideoSuffixes

/-- A command line that the bridge takes. -/
def Taken (product : Text → Nat → Nat) (argv : List Text) : Prop :=
  ∃ line, items argv = some line ∧ TakenItems product line

/-! ### Two command lines -/

/-- The options with a value that change what FFmpeg writes. -/
def writingOptions : List Text := ["-r", "-f", "-pix_fmt", "-map"].map String.toList

/-- One option that changes what FFmpeg writes: absent or present, or with two values. -/
inductive OneOption : List Text → List Text → Prop where
  | absent {token : Text} (writes : token ∈ writingOptions) (value : Text) : OneOption [] [token, value]
  | present {token : Text} (writes : token ∈ writingOptions) (value : Text) : OneOption [token, value] []
  | values {token value other : Text} (writes : token ∈ writingOptions) (different : value ≠ other) :
      OneOption [token, value] [token, other]
  | audio : OneOption [] ["-an".toList]
  | noAudio : OneOption ["-an".toList] []
  | keep : OneOption ["-n".toList] ["-y".toList]
  | overwrite : OneOption ["-y".toList] ["-n".toList]

/-- The options that the planner knows with a value. -/
def valueOptions : List Text :=
  ["-i", "-hwaccel", "-b:v", "-map"].map String.toList ++ videoCodecOptions ++ audioCodecOptions ++
    ignoredValueOptions

/-- The options that have no value for FFmpeg: those that the planner takes so, and others that the planner
does not know. -/
structure Valueless (valueless : Text → Bool) : Prop where
  flags : ∀ token ∈ passthroughFlags, valueless token = true
  options : ∀ token ∈ valueOptions, valueless token = false

/-- Two command lines that are the same but for one option that changes what FFmpeg writes, wherever it
stands as an option. -/
def DiffersInOneOption (argv other : List Text) : Prop :=
  ∃ valueless before option change after, Valueless valueless ∧
    (itemsWith valueless before).isSome = true ∧ OneOption option change ∧
      argv = before ++ option ++ after ∧ other = before ++ change ++ after

end DawnShell.Ffmpeg
