/-
Module: DawnShell.Codec.Adapter
Layer: Codec
Purpose: The adapter between FFmpeg and the codec client: the header of a record, and the command that
  takes the elementary stream out of the records of the client.
Trusted boundary: faithful model of dawnshell-codec-ffmpeg.pl:11-15, 145-158, 197-206 and 417-456.  The
  input is read without an error and the output is written without one; numbers hold 64 bits.
Main exports: recordHeader, parseRecordHeader, unpackRecord, unpackLoop, unpackAnnexB
-/
import DawnShell.Lib.BigEndian
import DawnShell.Codec.Wire

namespace DawnShell.Adapter

open Wire

/-- `$MAX_MEDIA_PAYLOAD`. -/
def maxMediaPayload : Nat := 8 * 1024 * 1024

/-- `$RECORD_SIZE`. -/
def recordSize : Nat := 16

def keyframeFlag : Nat := 1
def codecConfigFlag : Nat := 2
def eosFlag : Nat := 4

/-- `record_header`: the time is split into two words. -/
def recordHeader (pts flags size : Nat) : Bytes :=
  let high := pts / 4294967296
  BigEndian.encodeFields [(4, high), (4, pts - high * 4294967296), (4, flags), (4, size)]

/-- `parse_record_header`: the time, the flags and the size. -/
def parseRecordHeader (header : Bytes) : Nat × Nat × Nat :=
  match BigEndian.fields [4, 4, 4, 4] header with
  | [high, low, flags, size] => (high * 4294967296 + low, flags, size)
  | _ => (0, 0, 0)

/-- A header is read back as it was written. -/
theorem parseRecordHeader_recordHeader {pts flags size : Nat} (time : pts < 2 ^ 64)
    (flagged : flags < 2 ^ 32) (sized : size < 2 ^ 32) :
    parseRecordHeader (recordHeader pts flags size) = (pts, flags, size) := by
  have fits : ∀ field ∈ [(4, pts / 4294967296), (4, pts - pts / 4294967296 * 4294967296),
      (4, flags), (4, size)], field.2 < 256 ^ field.1 := by
    simp only [List.mem_cons, List.not_mem_nil, or_false, forall_eq_or_imp, forall_eq]
    omega
  have read := BigEndian.fields_encodeFields fits []
  rw [List.append_nil] at read
  rw [parseRecordHeader, recordHeader]
  simp only [List.map_cons, List.map_nil] at read
  rw [read]
  simp only [Prod.mk.injEq, and_true]
  omega

/-- The failures of `unpack-annexb`. -/
inductive Failure where
  | truncatedHeader
  | exceedsLimit
  | truncatedPayload
  | notMonotonic
  | noFrames
  | notKeyframe
deriving DecidableEq, Repr

def Failure.message : Failure → String
  | .truncatedHeader => "truncated encoded record header"
  | .exceedsLimit => "encoded record exceeds protocol limit"
  | .truncatedPayload => "truncated encoded record payload"
  | .notMonotonic => "encoded PTS is not monotonic"
  | .noFrames => "hardware encoder produced no frames"
  | .notKeyframe => "first hardware-encoded frame is not a keyframe"

/-- The variables of the loop, and what has been printed. -/
structure Unpacking where
  frames : Nat := 0
  previousPts : Int := -1
  firstFrameIsKey : Bool := false
  printed : Bytes := []
deriving DecidableEq, Repr

/-- A record whose data has been read. -/
def unpackRecord (state : Unpacking) (pts flags : Nat) (data : Bytes) : Except Failure Unpacking :=
  if data = [] then .ok state
  else
    let state := { state with printed := state.printed ++ data }
    if flags &&& codecConfigFlag ≠ 0 then .ok state
    else
      let key := if state.frames = 0 then decide (flags &&& keyframeFlag ≠ 0)
        else state.firstFrameIsKey
      if (pts : Int) < state.previousPts then .error .notMonotonic
      else .ok { state with frames := state.frames + 1, previousPts := pts, firstFrameIsKey := key }

/-- The loop of `command_unpack_annexb` over what is left of the input. -/
def unpackLoop (state : Unpacking) (source : Bytes) : Except Failure Unpacking :=
  if (source.take recordSize).length = 0 then .ok state
  else if _whole : (source.take recordSize).length ≠ recordSize then .error .truncatedHeader
  else
    let (pts, flags, size) := parseRecordHeader (source.take recordSize)
    if maxMediaPayload - recordSize < size then .error .exceedsLimit
    else
      let data := (source.drop recordSize).take size
      if data.length ≠ size then .error .truncatedPayload
      else
        match unpackRecord state pts flags data with
        | .error failure => .error failure
        | .ok state =>
            if flags &&& eosFlag ≠ 0 then .ok state
            else unpackLoop state ((source.drop recordSize).drop size)
termination_by source.length
decreasing_by
  rw [List.length_take, recordSize] at _whole
  rw [List.length_drop, List.length_drop, recordSize]
  omega

/-- What the command reports and what it has written. -/
structure Unpacked where
  frames : Nat
  output : Bytes
deriving DecidableEq, Repr

/-- `command_unpack_annexb`. -/
def unpackAnnexB (requireKeyframe : Bool) (source : Bytes) : Except Failure Unpacked :=
  match unpackLoop {} source with
  | .error failure => .error failure
  | .ok state =>
      if state.frames = 0 then .error .noFrames
      else if requireKeyframe ∧ state.firstFrameIsKey = false then .error .notKeyframe
      else .ok { frames := state.frames, output := state.printed }

end DawnShell.Adapter
