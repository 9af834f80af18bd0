/-
Module: DawnShell.Proofs.MediaOutput
Layer: Proofs
Purpose: What the framing commands write to standard output when it is their output.  What a command
  prints through its handle does not depend on the output path; the summary is kept apart from it by
  `report_count`, which `pack` does not use.
Trusted boundary: none
Main exports: Summary, printedMedia, run_ok_iff, stdout_only_media_iff
-/
import DawnShell.Codec.AdapterCommands
import DawnShell.Lib.ExceptBind

namespace DawnShell.Adapter

open Wire

variable {inputs : Inputs} {path : Text} {command : FramingCommand}

/-! ### What is printed through the handle -/

/-- What a command has to say about its output, at an output path. -/
inductive Summary where
  | count (label : String) (frames : Nat)
  | packed (packets : Nat) (shift : Int)

/-- The output of a command and its summary at an output path. -/
def Summary.deliver (path : Text) (media : Bytes) : Summary → Delivery
  | .count label frames => reportCount label frames path (binaryOutput path media)
  | .packed packets shift =>
      { binaryOutput path media with
        stdout := (binaryOutput path media).stdout ++ packSummary packets shift }

/-- What a command prints through its handle, and its summary. -/
def printedMedia (inputs : Inputs) : FramingCommand → Except String (Bytes × Summary)
  | .pack inputPacketsPath rawPacketsPath annexBPath frameRate => do
      let packing ← preparePack inputs inputPacketsPath rawPacketsPath annexBPath frameRate
      let records ← packRecords packing.annexB packing.shift 0 (packing.rawPackets.zip packing.times)
      .ok (records.flatten, .packed packing.rawPackets.length packing.shift)
  | .unpack inputPath width height => do
      let unpacked ← unpackI420 width height (binaryInput inputs inputPath)
      .ok (unpacked.output, .count "unpacked_i420_frames" unpacked.frames)
  | .packI420 inputPath width height frameRate => do
      let packed ← packI420 width height frameRate (binaryInput inputs inputPath)
      .ok (packed.output, .count "packed_i420_frames" packed.frames)
  | .unpackAnnexB inputPath requireKeyframe =>
      if "--".toList.isPrefixOf inputPath then
        .error ("unknown option: " ++ String.ofList inputPath)
      else do
        let source ← binaryInput inputs inputPath
        match unpackAnnexB requireKeyframe source with
        | .error failure => .error failure.message
        | .ok unpacked => .ok (unpacked.output, .count "unpacked_annexb_frames" unpacked.frames)

/-- A name that the command line does not take for an option. -/
def Plain (path : Text) : Prop := "--".toList.isPrefixOf path = false

theorem plain_dash : Plain ['-'] := rfl

theorem extractFlag_plain {pending : List Text} (plain : Plain path) :
    extractFlag "--require-keyframe".toList (path :: pending) =
      (extractFlag "--require-keyframe".toList pending).map fun rest => (rest.1, path :: rest.2) := by
  have other : path ≠ "--require-keyframe".toList := by
    rintro rfl
    cases plain
  rw [extractFlag, if_neg other, if_neg (by rw [plain]; simp)]
  cases extractFlag "--require-keyframe".toList pending <;> rfl

theorem extractFlag_flags {requireKeyframe : Bool} :
    extractFlag "--require-keyframe".toList
      (if requireKeyframe then ["--require-keyframe".toList] else []) = .ok (requireKeyframe, []) := by
  cases requireKeyframe <;> rfl

/-- The two names of `unpack-annexb` are its positional arguments. -/
theorem extractFlag_paths {inputPath : Text} {requireKeyframe : Bool} (first : Plain inputPath)
    (second : Plain path) :
    extractFlag "--require-keyframe".toList
        ([inputPath, path] ++ if requireKeyframe then ["--require-keyframe".toList] else []) =
      .ok (requireKeyframe, [inputPath, path]) := by
  rw [List.cons_append, List.cons_append, List.nil_append, extractFlag_plain first,
    extractFlag_plain second, extractFlag_flags]
  rfl

/-- An input whose name looks like an option leaves `unpack-annexb` without one of its names. -/
theorem extractFlag_option {inputPath : Text} {requireKeyframe : Bool} (first : ¬Plain inputPath)
    (second : Plain path) :
    (∃ failure, extractFlag "--require-keyframe".toList
        ([inputPath, path] ++ if requireKeyframe then ["--require-keyframe".toList] else []) =
      .error failure) ∨
      extractFlag "--require-keyframe".toList
        ([inputPath, path] ++ if requireKeyframe then ["--require-keyframe".toList] else []) =
      .ok (true, [path]) := by
  rw [List.cons_append, List.cons_append, List.nil_append, extractFlag, extractFlag_plain second,
    extractFlag_flags]
  by_cases flag : inputPath = "--require-keyframe".toList
  · rw [if_pos flag]
    exact .inr rfl
  · rw [Plain, Bool.not_eq_false] at first
    rw [if_neg flag, if_pos first]
    exact .inl ⟨_, rfl⟩

/-- A run that succeeds delivers what is printed through the handle and the summary. -/
theorem run_ok_iff (plain : Plain path) {delivery : Delivery} :
    command.run inputs path = .ok delivery ↔
      ∃ media summary, printedMedia inputs command = .ok (media, summary) ∧
        delivery = summary.deliver path media := by
  cases command with
  | pack inputPacketsPath rawPacketsPath annexBPath frameRate =>
      simp only [FramingCommand.run, commandPack, printedMedia, bind, Except.bind]
      cases preparePack inputs inputPacketsPath rawPacketsPath annexBPath frameRate with
      | error failure => simp
      | ok packing =>
          dsimp only
          cases packRecords packing.annexB packing.shift 0 (packing.rawPackets.zip packing.times) with
          | error failure => simp
          | ok records => simp [Summary.deliver, eq_comm]
  | unpack inputPath width height =>
      simp only [FramingCommand.run, commandUnpack, printedMedia, bind, Except.bind]
      cases unpackI420 width height (binaryInput inputs inputPath) with
      | error failure => simp
      | ok unpacked => simp [Summary.deliver, eq_comm]
  | packI420 inputPath width height frameRate =>
      simp only [FramingCommand.run, commandPackI420, printedMedia, bind, Except.bind]
      cases packI420 width height frameRate (binaryInput inputs inputPath) with
      | error failure => simp
      | ok packed => simp [Summary.deliver, eq_comm]
  | unpackAnnexB inputPath requireKeyframe =>
      simp only [FramingCommand.run, commandUnpackAnnexB, printedMedia, bind, Except.bind]
      by_cases first : Plain inputPath
      · rw [extractFlag_paths first plain, if_neg (by rw [first]; simp)]
        dsimp only
        cases binaryInput inputs inputPath with
        | error failure => simp
        | ok source =>
            dsimp only
            cases unpackAnnexB requireKeyframe source with
            | error failure => simp
            | ok unpacked => simp [Summary.deliver, eq_comm]
      · have option := first
        rw [Plain, Bool.not_eq_false] at option
        rw [if_pos option]
        rcases extractFlag_option first plain with ⟨failure, failed⟩ | dropped
        · rw [failed]
          simp
        · rw [dropped]
          simp

/-! ### Result -/

/-- The command is `pack`. -/
def FramingCommand.IsPack : FramingCommand → Prop
  | .pack .. => True
  | _ => False

theorem packSummary_ne_nil {packets : Nat} {shift : Int} : packSummary packets shift ≠ [] := by
  intro nothing
  rw [packSummary, textBytes_append] at nothing
  -- the line break at the end is a byte in any case
  exact absurd (List.append_eq_nil_iff.mp nothing).2 (by decide)

/-- Only `pack` ends with a summary that is not a count; all other commands report through
`report_count`. -/
theorem packed_iff_isPack {media : Bytes} {summary : Summary}
    (printed : printedMedia inputs command = .ok (media, summary)) :
    (∃ packets shift, summary = .packed packets shift) ↔ command.IsPack := by
  cases command with
  | pack inputPacketsPath rawPacketsPath annexBPath frameRate =>
      obtain ⟨packing, -, recorded⟩ := Except.ok_of_bind printed
      obtain ⟨records, -, same⟩ := Except.ok_of_bind recorded
      cases same
      simp [FramingCommand.IsPack]
  | unpack inputPath width height =>
      obtain ⟨unpacked, -, same⟩ := Except.ok_of_bind printed
      cases same
      simp [FramingCommand.IsPack]
  | packI420 inputPath width height frameRate =>
      obtain ⟨packed, -, same⟩ := Except.ok_of_bind printed
      cases same
      simp [FramingCommand.IsPack]
  | unpackAnnexB inputPath requireKeyframe =>
      rw [printedMedia] at printed
      split at printed
      · cases printed
      · obtain ⟨source, -, goes⟩ := Except.ok_of_bind printed
        split at goes
        · cases goes
        · cases goes
          simp [FramingCommand.IsPack]

/-- With standard output as its output, a command writes there exactly what it writes to a file unless it
is `pack`. -/
theorem stdout_only_media_iff {delivery : Delivery} (succeeded : command.run inputs ['-'] = .ok delivery)
    (named : path ≠ ['-']) (plain : Plain path) :
    ∃ filed media, command.run inputs path = .ok filed ∧ filed.file = some media ∧
      (delivery.stdout = media ↔ ¬command.IsPack) := by
  obtain ⟨media, summary, printed, rfl⟩ := (run_ok_iff plain_dash).mp succeeded
  refine ⟨summary.deliver path media, media, (run_ok_iff plain).mpr ⟨_, _, printed, rfl⟩, ?_, ?_⟩
  · cases summary <;> simp [Summary.deliver, reportCount, binaryOutput, named]
  · rw [← packed_iff_isPack printed]
    cases summary with
    | count label frames => simp [Summary.deliver, reportCount, binaryOutput]
    | packed packets shift => simp [Summary.deliver, binaryOutput, packSummary_ne_nil]

/-- A packet list with one packet of one byte, and a file of one byte. -/
def onePacketInputs : Inputs where
  json := fun _ => .ok (.object [("packets".toList, .array [.object
    [("pts_time".toList, .text "0".toList), ("pos".toList, .text "0".toList),
     ("size".toList, .text "1".toList)]])])
  contents := fun _ => some [7]

def packCommand : FramingCommand := .pack "in".toList "raw".toList "h264".toList "30/1".toList

/-- The record that `pack` makes of the packet. -/
def onePacketRecord : Bytes := recordHeader 0 0 1 ++ [7]

/-- A raw frame of two by two pixels. -/
def oneFrameInputs : Inputs where
  json := fun _ => .error "not read"
  contents := fun _ => some [1, 2, 3, 4, 5, 6]

def packI420Command : FramingCommand := .packI420 "raw".toList "2".toList "2".toList "30/1".toList

/-- The record that `pack-i420` makes of the frame. -/
def oneFrameRecord : Bytes := recordHeader 0 0 6 ++ [1, 2, 3, 4, 5, 6]

/-- Of one packet `pack` delivers the record with its summary behind it, and of one frame `pack-i420`
delivers the record alone. -/
theorem stdout_only_media_pack :
    (∃ filed media, packCommand.run onePacketInputs "out".toList = .ok filed ∧ filed.file = some media ∧
      (onePacketRecord ++ packSummary 1 0 = media ↔ ¬packCommand.IsPack)) ∧
    ∃ filed media, packI420Command.run oneFrameInputs "out".toList = .ok filed ∧
      filed.file = some media ∧ (oneFrameRecord = media ↔ ¬packI420Command.IsPack) := by
  have packed : packCommand.run onePacketInputs ['-'] =
      .ok { stdout := onePacketRecord ++ packSummary 1 0 } := by
    rfl
  have framed : packI420Command.run oneFrameInputs ['-'] =
      .ok { stdout := oneFrameRecord, stderr := textBytes "packed_i420_frames=1\n" } := by
    decide +kernel
  exact ⟨stdout_only_media_iff packed (by decide) rfl, stdout_only_media_iff framed (by decide) rfl⟩

/-- Behind the record, the summary of `pack` goes to standard output, where a file would have the record
alone. -/
theorem pack_prints_summary :
    ∃ delivery filed, packCommand.run onePacketInputs ['-'] = .ok delivery ∧
      packCommand.run onePacketInputs "out".toList = .ok filed ∧ filed.file = some onePacketRecord ∧
      delivery.stdout = onePacketRecord ++ textBytes "packed_packets=1 pts_shift_us=0\n" ∧
      delivery.stdout ≠ onePacketRecord := by
  refine ⟨{ stdout := onePacketRecord ++ packSummary 1 0 }, _, rfl, rfl, rfl, rfl, ?_⟩
  simp [packSummary_ne_nil]

end DawnShell.Adapter
