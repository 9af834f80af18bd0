/-
Module: DawnShell.Ffmpeg.Wrapper
Layer: Ffmpeg
Purpose: The command `dawnshell-ffmpeg`: it asks the planner about the arguments, takes the fields out of
  the line it gets, and executes a command of the bridge, or plain FFmpeg, or exits with an error.
Trusted boundary: faithful model of configure-debian-systemd.sh:1268-1369.  What the planner writes to
  its error stream is left out.  A pipe whose reader is gone can end a field extraction with an error
  only when there is a second line to write.
Main exports: Environment, Outcome, Outcome.Honoured, captured, planAction, planField, bridgeMode,
  dawnshellFfmpeg
-/
import DawnShell.Ffmpeg.Planner

namespace DawnShell.Ffmpeg

/-- What the wrapper finds. -/
structure Environment where
  ffmpegExecutable : Bool
  mktempSucceeds : Bool
  plannerRuns : Bool
  pipeBreaks : String → Bool
deriving Inhabited

/-- How the wrapper ends: with a command that it executes in its place, or with a status. -/
inductive Outcome where
  | realFfmpeg (argv : List Text)
  | hwdecode (arguments : List Text)
  | hwencode (arguments : List Text)
  | hwtranscode (arguments : List Text)
  | exit (status : Nat) (messages : List Text)
deriving DecidableEq, Repr

/-- A command of the bridge, or an error. -/
def Outcome.Honoured : Outcome → Prop
  | .realFfmpeg _ => False
  | .hwdecode _ | .hwencode _ | .hwtranscode _ => True
  | .exit status _ => status ≠ 0

/-- `$(...)`: the newlines at the end are dropped. -/
def captured (output : Text) : Text := (output.reverse.dropWhile (· == '\n')).reverse

/-- `action="${plan%% *}"` and `action="${action#action=}"`. -/
def planAction (plan : Text) : Text :=
  let word := plan.takeWhile (· != ' ')
  (Fields.afterPrefix "action=".toList word).getD word

/-- The lines behind `tr ' ' '\n'`. -/
def separates (character : Char) : Bool := character == ' ' || character == '\n'

/-- `field`. -/
def planField (plan : Text) (name : String) : Text :=
  (Fields.value (name.toList ++ ['=']) (Fields.words separates plan)).getD []

/-- The words that `sed` prints for a field. -/
def matchingWords (plan : Text) (name : String) : List Text :=
  (Fields.words separates plan).filter (name.toList ++ ['=']).isPrefixOf

/-- An assignment of a field; a broken pipe ends the script. -/
def withField (environment : Environment) (plan : Text) (name : String) (next : Text → Outcome) :
    Outcome :=
  if environment.pipeBreaks name ∧ 2 ≤ (matchingWords plan name).length then .exit 141 []
  else next (planField plan name)

/-- `${DAWNSHELL_FFMPEG_BRIDGE:-auto}`. -/
def bridgeMode (bridgeVariable : Option Text) : Text :=
  match bridgeVariable with
  | none | some [] => "auto".toList
  | some mode => mode

/-- `${bitrate:-4000000}`. -/
def bitrateOr (bitrate : Text) : Text := if bitrate = [] then "4000000".toList else bitrate

/-- The script behind the plan. -/
def runPlan (environment : Environment) (bridgeVariable : Option Text) (argv : List Text) (plan : Text) :
    Outcome :=
  let action := planAction plan
  withField environment plan "explicit" fun explicit =>
    let bridge := bridgeMode bridgeVariable
    let mode := if explicit = "mediacodec".toList ∧ bridge ≠ "off".toList then "require".toList else bridge
    if action ≠ "decode".toList ∧ action ≠ "encode".toList ∧ action ≠ "transcode".toList then
      if mode = "require".toList then
        .exit 3 ["dawnshell-ffmpeg: hardware bridge required but unavailable: ".toList ++ plan]
      else .realFfmpeg argv
    else
      withField environment plan "input" fun input =>
      withField environment plan "output" fun output =>
        if input = [] ∨ output = [] then .realFfmpeg argv
        else if action = "decode".toList then .hwdecode [input, output]
        else
          withField environment plan "codec" fun codec =>
          withField environment plan "bitrate" fun bitrate =>
          withField environment plan "audio" fun audio =>
            if action = "encode".toList then
              if audio = "copy".toList then
                .hwencode [input, output, bitrateOr bitrate, codec, "copy".toList]
              else .hwencode [input, output, bitrateOr bitrate, codec]
            else if codec ≠ "avc".toList then
              if mode = "require".toList then
                .exit 3 ["dawnshell-ffmpeg: Surface transcode only produces H.264".toList]
              else .realFfmpeg argv
            else .hwtranscode [input, output, bitrateOr bitrate]

/-- `dawnshell-ffmpeg`. -/
def dawnshellFfmpeg (product : Text → Nat → Nat) (environment : Environment)
    (bridgeVariable : Option Text) (argv : List Text) : Outcome :=
  if environment.ffmpegExecutable = false then
    .exit 127 ["dawnshell-ffmpeg: /usr/bin/ffmpeg is missing; install ffmpeg".toList]
  else if bridgeMode bridgeVariable = "off".toList then .realFfmpeg argv
  else if environment.mktempSucceeds = false then .exit 1 []
  else
    let plan := captured (if environment.plannerRuns then planFfmpeg product argv else [])
    if plan = [] then
      .exit 3 ["dawnshell-ffmpeg: the codec planner produced no plan".toList,
        "dawnshell-ffmpeg: refusing to fall back silently; set DAWNSHELL_FFMPEG_BRIDGE=off to use plain FFmpeg".toList]
    else runPlan environment bridgeVariable argv plan

end DawnShell.Ffmpeg
