/-
Module: DawnShell.Proofs.PlannedOptions
Layer: Proofs
Purpose: Two runs of the planner.  An option that changes what FFmpeg writes leaves no trace in the plan:
  two commands that differ in one such option and are both taken have one plan, and one line unless only
  one of them asks for MediaCodec by name.
Trusted boundary: none
Main exports: Parsed.audible, Traceless, same_plan, passthrough_iff, option_kept_iff
-/
import DawnShell.Proofs.PlanLine
import DawnShell.Proofs.TakenCommands

namespace DawnShell.Ffmpeg

/-! ### Options without a trace -/

/-- The variables of the planner without the flag that only refuses. -/
def Parsed.audible (parsed : Parsed) : Parsed := { parsed with audioDisabled := false }

section Trace

variable {product : Text → Nat → Nat} {parsed middle next : Parsed} {item : Item}
  {line first rest : List Item} {token value : Text}
  {before option change after argv other : List Text} {plan : Plan}

/-- An option that is accepted is accepted with the same effect when audio is not disabled. -/
theorem parseOption_audible (accepted : parseOption product parsed token value = .ok next) :
    parseOption product parsed.audible token value = .ok next.audible := by
  unfold parseOption at accepted ⊢
  split_ifs at accepted with input video started decoder software audio early refused hwaccel asked other
    rate map chosen ignored
  · cases accepted
    rw [if_pos input]
    rfl
  · cases accepted
    rw [if_neg input, if_pos video]
    exact if_pos started
  · cases accepted
    rw [if_neg input, if_pos video]
    exact (if_neg started).trans (if_pos decoder)
  · cases accepted
    rw [if_neg input, if_pos video]
    exact (if_neg started).trans ((if_neg decoder).trans (if_pos software))
  · cases accepted
    rw [not_or, not_not] at refused
    rw [if_neg input, if_neg video, if_pos audio]
    refine (if_neg early).trans ((if_neg ?_).trans rfl)
    rw [refused.1]
    simp [Parsed.audible]
  · cases accepted
    rw [if_neg input, if_neg video, if_neg audio, if_pos hwaccel, if_pos asked]
    rfl
  · cases accepted
    rw [if_neg input, if_neg video, if_neg audio, if_pos hwaccel, if_neg asked, if_pos other]
  · rw [if_neg input, if_neg video, if_neg audio, if_neg hwaccel, if_pos rate]
    cases read : parseBitrate product value with
    | error reason =>
        rw [read] at accepted
        cases accepted
    | ok bitrate =>
        rw [read] at accepted
        cases accepted
        rfl
  · cases accepted
    rw [if_neg input, if_neg video, if_neg audio, if_neg hwaccel, if_neg rate, if_pos map, if_pos chosen]
  · cases accepted
    rw [if_neg input, if_neg video, if_neg audio, if_neg hwaccel, if_neg rate, if_neg map, if_pos ignored]

/-- Without the flag everything is accepted that is accepted with it, to the same end. -/
theorem parseItem_audible (accepted : parseItem product parsed item = .ok next) :
    ∃ later, parseItem product parsed.audible item = .ok later ∧ later.audible = next.audible := by
  cases item with
  | operand path =>
      rw [parseItem] at accepted ⊢
      split at accepted
      · cases accepted
      next first =>
        cases accepted
        exact ⟨_, if_neg first, rfl⟩
  | flag token =>
      cases accepted
      exact ⟨_, rfl, rfl⟩
  | option token value => exact ⟨_, parseOption_audible accepted, rfl⟩

/-- Two states that differ only in disabled audio differ only so behind an item. -/
theorem parseItem_same {start later : Parsed} (same : parsed.audible = start.audible)
    (one : parseItem product parsed item = .ok next) (two : parseItem product start item = .ok later) :
    next.audible = later.audible := by
  obtain ⟨left, taken, leftSame⟩ := parseItem_audible one
  obtain ⟨right, other, rightSame⟩ := parseItem_audible two
  rw [same, other] at taken
  cases taken
  rw [← leftSame, rightSame]

/-- Two states that differ only in disabled audio differ only so behind a whole line. -/
theorem foldlM_same {start later : Parsed} (same : parsed.audible = start.audible)
    (one : line.foldlM (parseItem product) parsed = .ok next)
    (two : line.foldlM (parseItem product) start = .ok later) : next.audible = later.audible := by
  induction line generalizing parsed start with
  | nil =>
      cases one
      cases two
      exact same
  | cons item line ih =>
      rw [List.foldlM_cons] at one two
      obtain ⟨middle, taken, rest⟩ := Except.ok_of_bind one
      obtain ⟨other, also, others⟩ := Except.ok_of_bind two
      exact ih (parseItem_same same taken also) rest others

/-- A plan does not depend on whether audio is disabled, since that only refuses commands. -/
theorem planOf_audible (accepted : planOf parsed = .ok plan) : planOf parsed.audible = .ok plan := by
  obtain ⟨input, output, one, named⟩ := of_planOf accepted
  have first : parsed.audible.inputs = [input] := one
  have second : parsed.audible.output = some output := named
  rw [planOf, one, named] at accepted
  rw [planOf, first, second]
  dsimp only at accepted ⊢
  split at accepted
  · cases accepted
  · rw [if_neg (by simp [Parsed.audible])]
    exact accepted

/-- Items that leave everything to the plan as it is. -/
def Traceless (line : List Item) : Prop :=
  ∀ product parsed next,
    line.foldlM (parseItem product) parsed = .ok next → next.audible = parsed.audible

theorem traceless_nil : Traceless [] := by
  intro product parsed next accepted
  cases accepted
  rfl

/-- A flag that is passed over leaves no trace in the plan. -/
theorem traceless_flag : Traceless [.flag token] := by
  intro product parsed next accepted
  cases accepted
  rfl

/-- An option that changes what FFmpeg writes is ignored, or its value is only checked. -/
theorem traceless_option (writes : token ∈ writingOptions) : Traceless [.option token value] := by
  intro product parsed next accepted
  rw [List.foldlM_cons] at accepted
  obtain ⟨middle, taken, last⟩ := Except.ok_of_bind accepted
  cases last
  simp only [writingOptions, List.map_cons, List.map_nil, List.mem_cons, List.not_mem_nil,
    or_false] at writes
  rcases writes with rfl | rfl | rfl | rfl
  · cases taken
    rfl
  · cases taken
    rfl
  · cases taken
    rfl
  · have map : parseItem product parsed (.option "-map".toList value) =
        if value = "0:v:0".toList ∨ value = "0:v".toList ∨ value = "0".toList then .ok parsed
        else .error .unsupportedMap := rfl
    rw [map] at taken
    split at taken
    · cases taken
      rfl
    · cases taken

/-- An option that writes is one item with its value. -/
theorem items_writing (writes : token ∈ writingOptions) :
    items [token, value] = some [.option token value] := by
  simp only [writingOptions, List.map_cons, List.map_nil, List.mem_cons, List.not_mem_nil,
    or_false] at writes
  rcases writes with rfl | rfl | rfl | rfl <;> rfl

/-- Both sides of the difference leave no trace. -/
theorem traceless_of_oneOption (differs : OneOption option change) :
    (∃ line, items option = some line ∧ Traceless line) ∧
      ∃ line, items change = some line ∧ Traceless line := by
  have none : ∃ line, items [] = some line ∧ Traceless line := ⟨[], rfl, traceless_nil⟩
  have flag : ∀ token ∈ passthroughFlags, ∃ line, items [token] = some line ∧ Traceless line := by
    intro token member
    simp only [passthroughFlags, List.map_cons, List.map_nil, List.mem_cons, List.not_mem_nil,
      or_false] at member
    rcases member with rfl | rfl | rfl | rfl | rfl <;> exact ⟨_, rfl, traceless_flag⟩
  cases differs with
  | absent writes value => exact ⟨none, _, items_writing writes, traceless_option writes⟩
  | present writes value => exact ⟨⟨_, items_writing writes, traceless_option writes⟩, none⟩
  | values writes different =>
      exact ⟨⟨_, items_writing writes, traceless_option writes⟩, _, items_writing writes,
        traceless_option writes⟩
  | audio => exact ⟨none, flag _ (by decide)⟩
  | noAudio => exact ⟨flag _ (by decide), none⟩
  | keep => exact ⟨flag _ (by decide), flag _ (by decide)⟩
  | overwrite => exact ⟨flag _ (by decide), flag _ (by decide)⟩

/-- The run of the planner over an accepted line with such an option in it. -/
theorem of_parse_traceless (read : items before = some first) (known : items option = some line)
    (traceless : Traceless line)
    (accepted : parseFfmpegCommand product (before ++ option ++ after) = .ok plan) :
    ∃ rest parsed start next, items after = some rest ∧
      first.foldlM (parseItem product) {} = .ok parsed ∧ start.audible = parsed.audible ∧
        rest.foldlM (parseItem product) start = .ok next ∧ planOf next = .ok plan := by
  obtain ⟨next, loop, tests⟩ := Except.ok_of_bind accepted
  obtain ⟨whole, items⟩ := exists_items loop
  have parts := items
  rw [List.append_assoc, items_append read, items_append known, Option.map_eq_some_iff] at parts
  obtain ⟨behind, found, same⟩ := parts
  obtain ⟨rest, last, rfl⟩ := Option.map_eq_some_iff.mp found
  rw [parseArguments_items items, ← same, List.foldlM_append] at loop
  obtain ⟨parsed, front, loop⟩ := Except.ok_of_bind loop
  rw [List.foldlM_append] at loop
  obtain ⟨start, middle, back⟩ := Except.ok_of_bind loop
  exact ⟨rest, parsed, start, next, last, front, traceless product parsed start middle, back, tests⟩

/-- Two accepted lines that differ in one such option have one plan, since an option without a trace has
no effect on what is parsed. -/
theorem same_plan {otherPlan : Plan} (differs : DiffersInOneOption argv other)
    (accepted : parseFfmpegCommand product argv = .ok plan)
    (also : parseFfmpegCommand product other = .ok otherPlan) : plan = otherPlan := by
  obtain ⟨valueless, before, option, change, after, options, whole, one, rfl, rfl⟩ := differs
  obtain ⟨loop, run, -⟩ := Except.ok_of_bind accepted
  rcases @items_or_refused product before valueless options whole with ⟨first, read⟩ | refused
  · obtain ⟨⟨line, known, traceless⟩, otherLine, otherKnown, otherTraceless⟩ := traceless_of_oneOption one
    obtain ⟨rest, parsed, start, next, last, front, same, back, tests⟩ :=
      of_parse_traceless read known traceless accepted
    obtain ⟨otherRest, otherParsed, otherStart, otherNext, otherLast, otherFront, otherSame,
      otherBack, otherTests⟩ := of_parse_traceless read otherKnown otherTraceless also
    cases last.symm.trans otherLast
    cases front.symm.trans otherFront
    have final := foldlM_same (same.trans otherSame.symm) back otherBack
    have left := planOf_audible tests
    rw [final, planOf_audible otherTests] at left
    cases left
    rfl
  · rw [List.append_assoc] at run
    exact absurd run (refused _ _ _)

end Trace

/-! ### The line -/

/-- The line says that FFmpeg itself has to run the command. -/
def Passthrough (printed : Text) : Prop := "action=passthrough ".toList <+: printed

section Line

variable {product : Text → Nat → Nat} {argv other : List Text} {plan : Plan} {explicit : Bool}
  {fields : List Text} {last : Text}

/-- One more field makes a line longer by this field and a blank. -/
theorem length_intercalate_concat (filled : fields ≠ []) :
    ([' '].intercalate (fields ++ [last])).length =
      ([' '].intercalate fields).length + 1 + last.length := by
  induction fields with
  | nil => exact absurd rfl filled
  | cons first rest ih =>
      cases rest with
      | nil =>
          simp [List.intercalate]
          omega
      | cons second rest =>
          have behind := ih (List.cons_ne_nil _ _)
          simp only [List.intercalate, List.cons_append, List.intersperse_cons_cons, List.flatten_cons,
            List.nil_append, List.length_cons, List.length_append] at behind ⊢
          omega

/-- One plan with and without an explicit request makes two lines. -/
theorem line_explicit_ne :
    [' '].intercalate (planFields plan true) ≠ [' '].intercalate (planFields plan false) := by
  intro same
  have length := congrArg List.length same
  have longer : planFields plan true = planFields plan false ++ [field "explicit" "mediacodec".toList] := by
    simp [planFields]
  have filled : planFields plan false ≠ [] := List.cons_ne_nil _ _
  rw [longer, length_intercalate_concat filled] at length
  omega

/-- For a command that the planner accepts the printed plan is its fields, and whether MediaCodec was
asked for by name. -/
theorem planFfmpeg_of_accepted (accepted : parseFfmpegCommand product argv = .ok plan) :
    planFfmpeg product argv =
      [' '].intercalate (planFields plan (requestsMediacodec argv)) ++ ['\n'] := by
  rw [planFfmpeg, accepted]

/-- A command is passed through exactly when the bridge does not take it. -/
theorem passthrough_iff : Passthrough (planFfmpeg product argv) ↔ ¬Taken product argv := by
  rw [← taken_iff]
  cases result : parseFfmpegCommand product argv with
  | error reason =>
      refine iff_of_true ?_ (by simp)
      rw [planFfmpeg, result]
      simp only [refusalFields, List.cons_append]
      rw [line_cons, Passthrough]
      exact ⟨_, rfl⟩
  | ok plan =>
      refine iff_of_false ?_ (by simp)
      rw [planFfmpeg_of_accepted result, planFields]
      simp only [List.cons_append]
      rw [line_cons, Passthrough]
      rintro ⟨rest, same⟩
      cases action : plan.action <;> rw [action] at same <;> cases same

/-- An option that changes what FFmpeg writes is kept, in the plan or by plain FFmpeg, exactly when one of
the commands is not taken or only one of them asks for MediaCodec by name. -/
theorem option_kept_iff (differs : DiffersInOneOption argv other) :
    planFfmpeg product argv ≠ planFfmpeg product other ∨ Passthrough (planFfmpeg product argv) ∨
        Passthrough (planFfmpeg product other) ↔
      ¬Taken product argv ∨ ¬Taken product other ∨ ¬(Requests argv ↔ Requests other) := by
  rw [passthrough_iff, passthrough_iff]
  by_cases taken : Taken product argv
  swap
  · exact iff_of_true (.inr (.inl taken)) (.inl taken)
  by_cases also : Taken product other
  swap
  · exact iff_of_true (.inr (.inr also)) (.inr (.inl also))
  obtain ⟨plan, accepted⟩ := taken_iff.mpr taken
  obtain ⟨otherPlan, otherAccepted⟩ := taken_iff.mpr also
  cases same_plan differs accepted otherAccepted
  have lines : planFfmpeg product argv = planFfmpeg product other ↔
      requestsMediacodec argv = requestsMediacodec other := by
    rw [planFfmpeg_of_accepted accepted, planFfmpeg_of_accepted otherAccepted]
    cases requestsMediacodec argv <;> cases requestsMediacodec other <;>
      simp [line_explicit_ne, line_explicit_ne.symm]
  have requests : (Requests argv ↔ Requests other) ↔
      requestsMediacodec argv = requestsMediacodec other := by
    rw [← requestsMediacodec_iff, ← requestsMediacodec_iff, Bool.coe_iff_coe]
  rw [requests, ne_eq, lines]
  simp [taken, also]

/-- A command for the hardware encoder. -/
def plainEncode : List Text := ["-i", "in.mp4", "-c:v", "h264_mediacodec", "out.mp4"].map String.toList

/-- The same command with a frame rate. -/
def ratedEncode : List Text :=
  ["-i", "in.mp4", "-r", "15", "-c:v", "h264_mediacodec", "out.mp4"].map String.toList

/-- The two sample commands differ in one option. -/
theorem plainEncode_differs : DiffersInOneOption plainEncode ratedEncode := by
  have options : Valueless passthroughFlags.contains :=
    ⟨fun token member => List.contains_iff_mem.mpr member, by decide⟩
  exact ⟨passthroughFlags.contains, ["-i", "in.mp4"].map String.toList, [], _, _, options, rfl,
    .absent (by decide) "15".toList, rfl, rfl⟩

theorem option_kept_iff_rate :
    planFfmpeg (fun _ _ => 0) plainEncode ≠ planFfmpeg (fun _ _ => 0) ratedEncode ∨
        Passthrough (planFfmpeg (fun _ _ => 0) plainEncode) ∨
        Passthrough (planFfmpeg (fun _ _ => 0) ratedEncode) ↔
      ¬Taken (fun _ _ => 0) plainEncode ∨ ¬Taken (fun _ _ => 0) ratedEncode ∨
        ¬(Requests plainEncode ↔ Requests ratedEncode) :=
  option_kept_iff plainEncode_differs

/-- The frame rate is dropped: the two commands have the same plan, and neither of them is left to plain
FFmpeg. -/
theorem rate_dropped :
    DiffersInOneOption plainEncode ratedEncode ∧
      planFfmpeg (fun _ _ => 0) plainEncode = planFfmpeg (fun _ _ => 0) ratedEncode ∧
      ¬Passthrough (planFfmpeg (fun _ _ => 0) plainEncode) ∧
      ¬Passthrough (planFfmpeg (fun _ _ => 0) ratedEncode) := by
  refine ⟨plainEncode_differs, by decide +kernel, ?_, ?_⟩ <;> rw [Passthrough] <;> decide +kernel

end Line

end DawnShell.Ffmpeg
