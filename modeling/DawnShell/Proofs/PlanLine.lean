/-
Module: DawnShell.Proofs.PlanLine
Layer: Proofs
Purpose: From the planner's plan to what the wrapper makes of the line.  The wrapper takes the first word
  of each path, and what the later words of the paths say about a field comes before what the planner
  says.  The fields are the planner's exactly when no path has a blank or a newline in it, and a request
  for MediaCodec is honoured exactly when the paths supply nothing that takes it back.
Trusted boundary: none
Main exports: plan_facts, planField_line, extract, extract_eq_values_iff, Requests, Supplied, Kept,
  requested_honoured_iff
-/
import DawnShell.Ffmpeg.Wrapper

namespace DawnShell.Ffmpeg

open Fields

/-! ### The planner -/

section Planner

variable {product : Text → Nat → Nat} {argv : List Text} {plan : Plan} {parsed next : Parsed}
  {token value : Text}

/-- An option leaves the audio codec as it is, or it asks for a copy. -/
theorem parseOption_audio (accepted : parseOption product parsed token value = .ok next) :
    next.audioCodec = parsed.audioCodec ∨ next.audioCodec = some "copy".toList := by
  unfold parseOption at accepted
  generalize parseBitrate product value = bitrate at accepted
  split_ifs at accepted with input video known decoder software audio early refused
  all_goals first
    | contradiction
    | exact .inl (congrArg Parsed.audioCodec (Except.ok.inj accepted)).symm
    | skip
  · -- Only this option sets it, and only to a copy.
    rw [← Except.ok.inj accepted]
    exact .inr (congrArg some (not_not.mp (mt .inl refused)))
  · cases bitrate with
    | error reason => exact absurd accepted (by simp [Except.map])
    | ok bitrate => exact .inl (congrArg Parsed.audioCodec (Except.ok.inj accepted)).symm

/-- What the loop keeps: an audio codec that has been taken is `copy`, the only one that the bridge
reproduces. -/
theorem parseArguments_audio (before : ∀ audio, parsed.audioCodec = some audio → audio = "copy".toList)
    (accepted : parseArguments product parsed argv = .ok next) :
    ∀ audio, next.audioCodec = some audio → audio = "copy".toList := by
  induction parsed, argv using parseArguments.induct product with
  | case1 parsed =>
      rw [parseArguments.eq_def] at accepted
      exact Except.ok.inj accepted ▸ before
  | case2 parsed token rest file again =>
      rw [parseArguments.eq_def] at accepted
      simp [file, again] at accepted
  | case3 parsed token rest file first ih =>
      rw [parseArguments.eq_def] at accepted
      simp only [if_pos file, if_neg first] at accepted
      exact ih before accepted
  | case4 parsed token rest option flag ih =>
      rw [parseArguments.eq_def] at accepted
      simp only [if_neg option, if_pos flag] at accepted
      exact ih before accepted
  | case5 parsed token option flag =>
      rw [parseArguments.eq_def] at accepted
      simp only [if_neg option, if_neg flag] at accepted
      exact absurd accepted (by simp)
  | case6 parsed token option flag value more reason refused =>
      rw [parseArguments.eq_def] at accepted
      simp only [if_neg option, if_neg flag, refused] at accepted
      exact absurd accepted (by simp)
  | case7 parsed token option flag value more after read ih =>
      rw [parseArguments.eq_def] at accepted
      simp only [if_neg option, if_neg flag, read] at accepted
      refine ih (fun audio same => ?_) accepted
      rcases parseOption_audio read with kept | copied
      · exact before audio (kept ▸ same)
      · exact (Option.some.inj (copied.symm.trans same)).symm

/-- What every plan satisfies. -/
structure PlanFacts (plan : Plan) : Prop where
  audio : ∀ audio, plan.audio = some audio → audio = "copy".toList
  codec : plan.action ≠ .decode → plan.codec.isSome = true

/-- What the planner accepts has the properties that its line is built on: the words that it prints are
those of the command. -/
theorem plan_facts (accepted : parseFfmpegCommand product argv = .ok plan) : PlanFacts plan := by
  unfold parseFfmpegCommand at accepted
  cases result : parseArguments product {} argv with
  | error reason => simp [result, bind, Except.bind] at accepted
  | ok parsed =>
      have audio := parseArguments_audio (by simp) result
      simp only [result, bind, Except.bind] at accepted
      unfold planOf at accepted
      split at accepted
      · split at accepted
        · simp at accepted
        split at accepted
        · simp at accepted
        split at accepted
        · split at accepted
          · simp only [Except.ok.injEq] at accepted
            exact accepted ▸ ⟨by simp, by simp⟩
          · simp at accepted
        · split at accepted
          · simp at accepted
          · split at accepted
            · simp only [Except.ok.injEq] at accepted
              exact accepted ▸ ⟨audio, by simp⟩
            · split at accepted
              · simp at accepted
              · simp only [Except.ok.injEq] at accepted
                exact accepted ▸ ⟨by simp, by simp⟩
      · simp at accepted
      · simp at accepted

end Planner

/-! ### The line -/

section Line

variable {plan : Plan} {explicit : Bool} {fields : List Text} {name key : String} {text : Text}

/-- The newlines that are dropped from the line do not matter to the fields. -/
theorem planField_captured (filled : fields ≠ []) (named : name.toList ++ ['='] ≠ []) :
    planField (captured ([' '].intercalate fields ++ ['\n'])) name =
      (value (name.toList ++ ['=']) (fields.flatMap (words separates))).getD [] := by
  generalize line : [' '].intercalate fields = whole
  have back : whole ++ ['\n'] = captured (whole ++ ['\n']) ++
      ((whole ++ ['\n']).reverse.takeWhile (· == '\n')).reverse := by
    rw [captured, ← List.reverse_append, List.takeWhile_append_dropWhile, List.reverse_reverse]
  have newlines : ∀ character ∈ ((whole ++ ['\n']).reverse.takeWhile (· == '\n')).reverse,
      separates character = true := by
    intro character member
    have newline := List.all_eq_true.mp List.all_takeWhile character (List.mem_reverse.mp member)
    rw [beq_iff_eq.mp newline]
    rfl
  have same : value (name.toList ++ ['=']) (words separates (captured (whole ++ ['\n']) ++
      ((whole ++ ['\n']).reverse.takeWhile (· == '\n')).reverse)) =
      value (name.toList ++ ['=']) (words separates (captured (whole ++ ['\n']))) :=
    value_words_separators named newlines
  rw [← back, value_words_separators named (by simp [separates])] at same
  rw [planField, ← same, ← line, words_join (by decide) filled]

/-- A field name with its sign is a word of its own when the name is. -/
theorem clean_field (clean : Clean separates name.toList) :
    Clean separates (name.toList ++ ['=']) := by
  intro character member
  rcases List.mem_append.mp member with here | equals
  · exact clean character here
  · rw [List.mem_singleton.mp equals]
    rfl

/-- What a field of the line says about a name. -/
theorem value_words_named (keyPlain : '=' ∉ key.toList) (namePlain : '=' ∉ name.toList)
    (clean : Clean separates name.toList) :
    value (key.toList ++ ['=']) (words separates (field name text)) =
      if key = name then some (firstWord separates text)
      else value (key.toList ++ ['=']) (laterWords separates text) := by
  rw [field, value_words_field keyPlain namePlain (clean_field clean)]
  simp only [String.toList_inj]

theorem value_optional {optional : Option Text} (keyPlain : '=' ∉ key.toList)
    (namePlain : '=' ∉ name.toList) (cleanName : Clean separates name.toList)
    (clean : ∀ text, optional = some text → Clean separates text) :
    value (key.toList ++ ['=']) ((optional.map (field name)).toList.flatMap (words separates)) =
      if key = name then optional else none := by
  cases optional with
  | none => simp [value]
  | some text =>
      have here := clean text rfl
      rw [Option.map_some, Option.toList_some, List.flatMap_singleton,
        value_words_named keyPlain namePlain cleanName, firstWord_eq_self.mpr here,
        laterWords_clean here]
      rfl

def Plan.codecText (plan : Plan) : Option Text := plan.codec.map Codec.text

def Plan.bitrateText (plan : Plan) : Option Text := plan.bitrate.map (Nat.toDigits 10)

def explicitText (explicit : Bool) : Option Text :=
  if explicit then some "mediacodec".toList else none

/-- The line has the action, the input and the output first, and the optional fields behind them in this
order. -/
theorem planFields_eq : planFields plan explicit =
    [field "action" plan.action.text, field "input" plan.input, field "output" plan.output] ++
      (plan.codecText.map (field "codec")).toList ++ (plan.bitrateText.map (field "bitrate")).toList ++
      (plan.audio.map (field "audio")).toList ++ ((explicitText explicit).map (field "explicit")).toList := by
  rw [planFields, Plan.codecText, Plan.bitrateText, Option.map_map, Option.map_map]
  cases explicit <;> rfl

theorem clean_codecText : ∀ text, plan.codecText = some text → Clean separates text := by
  intro text same
  obtain ⟨codec, -, rfl⟩ := Option.map_eq_some_iff.mp same
  cases codec <;> decide

theorem clean_bitrateText : ∀ text, plan.bitrateText = some text → Clean separates text := by
  intro text same character member
  obtain ⟨bitrate, -, rfl⟩ := Option.map_eq_some_iff.mp same
  have digit := Nat.isDigit_of_mem_toDigits (by decide) (by decide) member
  rw [separates, Bool.or_eq_false_iff]
  constructor
  · rw [beq_eq_false_iff_ne]
    rintro rfl
    simp at digit
  · rw [beq_eq_false_iff_ne]
    rintro rfl
    simp at digit

/-- The mark of an explicit request is one word. -/
theorem clean_explicitText : ∀ text, explicitText explicit = some text → Clean separates text := by
  cases explicit with
  | false => simp [explicitText]
  | true =>
      intro text same
      rw [← Option.some.inj same]
      decide

theorem clean_action : Clean separates plan.action.text := by
  cases plan.action <;> decide

/-- The field that the wrapper finds, in the order of the line: the action, what the words of the two
paths may give, and then the fields behind the paths. -/
theorem value_planFields (facts : PlanFacts plan) (keyPlain : '=' ∉ key.toList) :
    value (key.toList ++ ['=']) ((planFields plan explicit).flatMap (words separates)) =
      (if key = "action" then some plan.action.text else none).or
        ((value (key.toList ++ ['=']) (words separates (field "input" plan.input))).or
          ((value (key.toList ++ ['=']) (words separates (field "output" plan.output))).or
            ((if key = "codec" then plan.codecText else none).or
              ((if key = "bitrate" then plan.bitrateText else none).or
                ((if key = "audio" then plan.audio else none).or
                  (if key = "explicit" then explicitText explicit else none)))))) := by
  have audio : ∀ text, plan.audio = some text → Clean separates text := by
    intro text same
    rw [facts.audio text same]
    decide
  have action : value (key.toList ++ ['=']) (words separates (field "action" plan.action.text)) =
      if key = "action" then some plan.action.text else none := by
    rw [value_words_named keyPlain (by decide) (by decide), firstWord_eq_self.mpr clean_action,
      laterWords_clean clean_action, value_nil]
  have optional : ∀ (name : String) (text? : Option Text), '=' ∉ name.toList →
      Clean separates name.toList → (∀ text, text? = some text → Clean separates text) →
      value (key.toList ++ ['=']) ((text?.map (field name)).toList.flatMap (words separates)) =
        if key = name then text? else none :=
    fun name text? plain cleanName clean => value_optional keyPlain plain cleanName clean
  have codec := optional "codec" plan.codecText (by decide) (by decide) clean_codecText
  have bitrate := optional "bitrate" plan.bitrateText (by decide) (by decide) clean_bitrateText
  have copy := optional "audio" plan.audio (by decide) (by decide) audio
  have mediacodec := optional "explicit" (explicitText explicit) (by decide) (by decide)
    clean_explicitText
  rw [planFields_eq, List.flatMap_append, List.flatMap_append, List.flatMap_append,
    List.flatMap_append, value_append, value_append, value_append, value_append, codec, bitrate, copy,
    mediacodec, List.flatMap_cons, List.flatMap_cons, List.flatMap_singleton, value_append,
    value_append, action]
  simp only [Option.or_assoc]

/-- What the later words of the paths say about a field. -/
def Supplied (name : String) (paths : List Text) : Option Text :=
  value (name.toList ++ ['=']) (paths.flatMap (laterWords separates))

/-- What the planner says about a setting. -/
def planSetting (plan : Plan) (explicit : Bool) (name : String) : Option Text :=
  (if name = "codec" then plan.codecText else none).or
    ((if name = "bitrate" then plan.bitrateText else none).or
      ((if name = "audio" then plan.audio else none).or
        (if name = "explicit" then explicitText explicit else none)))

/-- What the wrapper keeps of the line of a plan. -/
def planLine (plan : Plan) (explicit : Bool) : Text :=
  captured ([' '].intercalate (planFields plan explicit) ++ ['\n'])

/-- A field is read as the rest of the first word of the line that begins with its name, or as empty. -/
theorem planField_planLine (named : name.toList ++ ['='] ≠ []) :
    planField (planLine plan explicit) name =
      (value (name.toList ++ ['=']) ((planFields plan explicit).flatMap (words separates))).getD [] :=
  planField_captured (List.cons_ne_nil _ _) named

/-- The input is read as far as its first word goes. -/
theorem planField_input (facts : PlanFacts plan) :
    planField (planLine plan explicit) "input" = firstWord separates plan.input := by
  rw [planField_planLine (by decide), value_planFields facts (by decide), if_neg (by decide),
    value_words_named (by decide) (by decide) (by decide), if_pos rfl]
  rfl

/-- A later word of the input comes before the output. -/
theorem planField_output (facts : PlanFacts plan) :
    planField (planLine plan explicit) "output" =
      (Supplied "output" [plan.input]).getD (firstWord separates plan.output) := by
  rw [planField_planLine (by decide), value_planFields facts (by decide), if_neg (by decide),
    value_words_named (by decide) (by decide) (by decide), if_neg (by decide),
    value_words_named (by decide) (by decide) (by decide), if_pos rfl, Supplied,
    List.flatMap_singleton]
  cases value ("output".toList ++ ['=']) (laterWords separates plan.input) <;> rfl

/-- Later words of the paths come before the settings. -/
theorem planField_setting (facts : PlanFacts plan) (plain : '=' ∉ name.toList)
    (setting : name ≠ "action" ∧ name ≠ "input" ∧ name ≠ "output") :
    planField (planLine plan explicit) name =
      ((Supplied name [plan.input, plan.output]).or (planSetting plan explicit name)).getD [] := by
  rw [planField_planLine (by simp), value_planFields facts plain, if_neg setting.1,
    value_words_named plain (by decide) (by decide), if_neg setting.2.1,
    value_words_named plain (by decide) (by decide), if_neg setting.2.2, Supplied, planSetting,
    List.flatMap_cons, List.flatMap_singleton, value_append, Option.none_or, Option.or_assoc]

/-- What stands in front of a blank is kept. -/
theorem captured_append {front rest : Text} : captured (front ++ ' ' :: rest) =
    front ++ ' ' :: captured rest := by
  simp only [captured, List.reverse_append, List.reverse_cons, List.append_assoc,
    List.singleton_append, List.dropWhile_append]
  split
  · next empty =>
    rw [List.isEmpty_iff.mp empty]
    simp
  · simp

/-- The action is read up to the first blank of the line. -/
theorem planAction_append {action rest : Text} (blankless : ' ' ∉ action) :
    planAction (captured (field "action" action ++ ' ' :: rest)) = action := by
  have first : ∀ {word : Text}, ' ' ∉ word →
      (word ++ ' ' :: captured rest).takeWhile (· != ' ') = word := by
    intro word blankless
    rw [List.takeWhile_append_of_pos]
    · simp
    · intro character member
      rw [bne_iff_ne]
      exact fun same => blankless (same ▸ member)
  have whole : ' ' ∉ field "action" action := by
    rw [field, List.mem_append, List.mem_cons]
    rintro (name | equals | value)
    · exact absurd name (by decide)
    · exact absurd equals (by decide)
    · exact blankless value
  rw [captured_append, planAction, first whole]
  rfl

/-- The first field of a line is followed by one blank and the others. -/
theorem line_cons {first second : Text} : [' '].intercalate (first :: second :: fields) ++ ['\n'] =
    first ++ ' ' :: ([' '].intercalate (second :: fields) ++ ['\n']) := by
  simp [List.intercalate]

/-- The action is read back as it was planned, since no action has a blank. -/
theorem planAction_planLine : planAction (planLine plan explicit) = plan.action.text := by
  unfold planLine planFields
  simp only [List.cons_append]
  rw [line_cons, planAction_append]
  cases plan.action <;> decide

end Line

/-! ### What the wrapper extracts -/

/-- The values that the wrapper takes out of a plan line. -/
structure Extracted where
  action : Text
  input : Text
  output : Text
  codec : Text
  bitrate : Text
  audio : Text
deriving DecidableEq, Repr

def extract (plan : Text) : Extracted where
  action := planAction plan
  input := planField plan "input"
  output := planField plan "output"
  codec := planField plan "codec"
  bitrate := planField plan "bitrate"
  audio := planField plan "audio"

/-- The values of the planner; what is absent is empty. -/
def Plan.values (plan : Plan) : Extracted where
  action := plan.action.text
  input := plan.input
  output := plan.output
  codec := plan.codecText.getD []
  bitrate := plan.bitrateText.getD []
  audio := plan.audio.getD []

section Extraction

variable {product : Text → Nat → Nat} {argv : List Text} {plan : Plan} {explicit : Bool}

/-- For a command that the planner accepts the wrapper captures its line, without the newline at the
end. -/
theorem planFfmpeg_of_plan (accepted : parseFfmpegCommand product argv = .ok plan) :
    captured (planFfmpeg product argv) = planLine plan (requestsMediacodec argv) := by
  rw [planFfmpeg, accepted]
  rfl

/-- Paths of one word supply no field of another name. -/
theorem supplied_clean {name : String} (input : Clean separates plan.input)
    (output : Clean separates plan.output) :
    Supplied name [plan.input] = none ∧ Supplied name [plan.input, plan.output] = none := by
  simp [Supplied, laterWords_clean input, laterWords_clean output, value]

/-- The wrapper extracts the values of the planner exactly when no path has a blank or a newline. -/
theorem extract_eq_values_iff (accepted : parseFfmpegCommand product argv = .ok plan) :
    extract (captured (planFfmpeg product argv)) = plan.values ↔
      Clean separates plan.input ∧ Clean separates plan.output := by
  have facts := plan_facts accepted
  rw [planFfmpeg_of_plan accepted]
  constructor
  · intro same
    have input := congrArg Extracted.input same
    have output := congrArg Extracted.output same
    dsimp only [extract, Plan.values] at input output
    rw [planField_input facts, firstWord_eq_self] at input
    rw [planField_output facts, Supplied, List.flatMap_singleton, laterWords_clean input] at output
    exact ⟨input, firstWord_eq_self.mp output⟩
  · rintro ⟨input, output⟩
    have settings : ∀ name : String, '=' ∉ name.toList →
        name ≠ "action" ∧ name ≠ "input" ∧ name ≠ "output" →
        planField (planLine plan (requestsMediacodec argv)) name =
          (planSetting plan (requestsMediacodec argv) name).getD [] := by
      intro name plain setting
      rw [planField_setting facts plain setting, (supplied_clean input output).2, Option.none_or]
    have codec := settings "codec" (by decide) (by decide)
    have bitrate := settings "bitrate" (by decide) (by decide)
    have audio := settings "audio" (by decide) (by decide)
    rw [extract, Plan.values, planAction_planLine, planField_input facts, planField_output facts,
      codec, bitrate, audio, (supplied_clean input output).1, firstWord_eq_self.mpr input,
      Option.getD_none, firstWord_eq_self.mpr output]
    simp [planSetting]

end Extraction

theorem extract_eq_values_iff_plain :
    extract (captured (planFfmpeg (fun _ _ => 0) (["-i", "in.mp4", "out.yuv"].map String.toList))) =
        Plan.values { action := .decode, input := "in.mp4".toList, output := "out.yuv".toList } ↔
      Clean separates "in.mp4".toList ∧ Clean separates "out.yuv".toList :=
  extract_eq_values_iff (by decide +kernel)

/-- A blank in the name of a file is enough: the wrapper reads the name only up to there, and the
planner has printed all of it. -/
theorem extract_ne_values :
    ¬ ∀ (argv : List Text) (plan : Plan), parseFfmpegCommand (fun _ _ => 0) argv = .ok plan →
      extract (captured (planFfmpeg (fun _ _ => 0) argv)) = plan.values := by
  intro same
  have wrong := same (["-i", "my clip.mp4", "out.yuv"].map String.toList)
    { action := .decode, input := "my clip.mp4".toList, output := "out.yuv".toList }
    (by decide +kernel)
  exact absurd wrong (by decide +kernel)

/-! ### A request for MediaCodec -/

/-- The arguments ask for MediaCodec by name. -/
def Requests (argv : List Text) : Prop :=
  ∃ before token value after, argv = before ++ token :: value :: after ∧
    (token = "-hwaccel".toList ∧ value = "mediacodec".toList ∨
      token ∈ videoCodecOptions ∧ value ∈ mediacodecEncoders)

/-- The paths leave the request and what is needed for it as they are.  The mode is that of the bridge. -/
structure Kept (mode : Text) (plan : Plan) : Prop where
  input : firstWord separates plan.input ≠ []
  output : (Supplied "output" [plan.input]).getD (firstWord separates plan.output) ≠ []
  transcode : plan.action = .transcode → mode = "require".toList ∨
    (Supplied "explicit" [plan.input, plan.output]).getD "mediacodec".toList = "mediacodec".toList ∨
    ((Supplied "codec" [plan.input, plan.output]).or plan.codecText).getD [] = "avc".toList

section Request

variable {product : Text → Nat → Nat} {argv : List Text} {plan : Plan} {environment : Environment}
  {bridgeVariable : Option Text} {next : Text → Outcome} {line : Text} {name : String}

theorem requestsMediacodec_iff : requestsMediacodec argv = true ↔ Requests argv := by
  induction argv with
  | nil =>
      constructor
      · exact fun requested => absurd requested (by decide)
      · rintro ⟨before, token, value, after, same, -⟩
        simp at same
  | cons token rest ih =>
      cases rest with
      | nil =>
          constructor
          · exact fun requested => absurd requested (by simp [requestsMediacodec])
          · rintro ⟨before, token, value, after, same, -⟩
            have := congrArg List.length same
            simp at this
            omega
      | cons value rest =>
          rw [requestsMediacodec, Bool.or_eq_true, ih, namesMediacodec, Bool.or_eq_true,
            Bool.and_eq_true, Bool.and_eq_true, beq_iff_eq, beq_iff_eq, List.contains_iff_mem,
            List.contains_iff_mem]
          constructor
          · rintro (here | ⟨before, other, named, after, same, names⟩)
            · exact ⟨[], token, value, rest, rfl, here⟩
            · exact ⟨token :: before, other, named, after, by rw [same]; rfl, names⟩
          · rintro ⟨before, other, named, after, same, names⟩
            cases before with
            | nil =>
                simp only [List.nil_append, List.cons.injEq] at same
                obtain ⟨rfl, rfl, rfl⟩ := same
                exact .inl names
            | cons first before =>
                simp only [List.cons_append, List.cons.injEq] at same
                exact .inr ⟨before, other, named, after, same.2, names⟩

/-- A field that is lost to a broken pipe is an error. -/
theorem honoured_withField (kept : (next (planField line name)).Honoured) :
    (withField environment line name next).Honoured := by
  rw [withField]
  split
  · exact Nat.succ_ne_zero 140
  · exact kept

/-- An environment in which nothing fails. -/
def calm : Environment := ⟨true, true, true, fun _ => false⟩

theorem withField_calm : withField calm line name next = next (planField line name) := rfl

theorem explicit_planLine (facts : PlanFacts plan) : planField (planLine plan true) "explicit" =
    (Supplied "explicit" [plan.input, plan.output]).getD "mediacodec".toList := by
  rw [planField_setting facts (by decide) (by decide), planSetting, if_neg (by decide),
    if_neg (by decide), if_neg (by decide), if_pos rfl]
  cases Supplied "explicit" [plan.input, plan.output] <;> rfl

theorem codec_planLine (facts : PlanFacts plan) : planField (planLine plan true) "codec" =
    ((Supplied "codec" [plan.input, plan.output]).or plan.codecText).getD [] := by
  rw [planField_setting facts (by decide) (by decide), planSetting, if_pos rfl, if_neg (by decide),
    if_neg (by decide), if_neg (by decide), Option.none_or, Option.none_or, Option.or_none]

theorem known_action : ¬ (plan.action.text ≠ "decode".toList ∧ plan.action.text ≠ "encode".toList ∧
    plan.action.text ≠ "transcode".toList) := by
  cases plan.action <;> decide

/-- Where the paths take nothing back, a command of the bridge is executed or the script fails. -/
theorem Kept.honoured (kept : Kept (bridgeMode bridgeVariable) plan) (facts : PlanFacts plan)
    (on : bridgeMode bridgeVariable ≠ "off".toList) :
    (runPlan environment bridgeVariable argv (planLine plan true)).Honoured := by
  unfold runPlan
  rw [planAction_planLine]
  apply honoured_withField
  dsimp only
  rw [explicit_planLine facts, if_neg known_action]
  apply honoured_withField
  apply honoured_withField
  rw [planField_input facts, planField_output facts, if_neg (not_or.mpr ⟨kept.input, kept.output⟩)]
  cases action : plan.action with
  | decode =>
      rw [if_pos (show Action.decode.text = "decode".toList from rfl)]
      trivial
  | encode =>
      rw [if_neg (by decide)]
      apply honoured_withField
      apply honoured_withField
      apply honoured_withField
      rw [if_pos (show Action.encode.text = "encode".toList from rfl)]
      split <;> trivial
  | transcode =>
      rw [if_neg (by decide)]
      apply honoured_withField
      apply honoured_withField
      apply honoured_withField
      rw [if_neg (by decide), codec_planLine facts]
      split
      · next other =>
        rw [if_pos]
        · exact Nat.succ_ne_zero 2
        · rcases kept.transcode action with required | explicit | avc
          · split
            · rfl
            · exact required
          · rw [if_pos ⟨explicit, on⟩]
          · exact absurd avc other
      · trivial

/-- Where nothing fails, only such paths lead to a command of the bridge or to an error. -/
theorem kept_of_honoured (facts : PlanFacts plan)
    (honoured : (runPlan calm bridgeVariable argv (planLine plan true)).Honoured) :
    Kept (bridgeMode bridgeVariable) plan := by
  unfold runPlan at honoured
  simp only [withField_calm] at honoured
  rw [planAction_planLine, explicit_planLine facts, if_neg known_action, planField_input facts,
    planField_output facts] at honoured
  by_cases lost : firstWord separates plan.input = [] ∨
      (Supplied "output" [plan.input]).getD (firstWord separates plan.output) = []
  · rw [if_pos lost] at honoured
    exact honoured.elim
  · rw [if_neg lost] at honoured
    refine ⟨fun empty => lost (.inl empty), fun empty => lost (.inr empty), fun transcode => ?_⟩
    rw [transcode, if_neg (by decide), if_neg (by decide), codec_planLine facts] at honoured
    by_contra refused
    rw [not_or, not_or] at refused
    obtain ⟨optional, implicit, other⟩ := refused
    have ordinary : (if (Supplied "explicit" [plan.input, plan.output]).getD "mediacodec".toList =
        "mediacodec".toList ∧ bridgeMode bridgeVariable ≠ "off".toList then "require".toList
        else bridgeMode bridgeVariable) = bridgeMode bridgeVariable :=
      if_neg fun both => implicit both.1
    rw [if_pos other, ordinary, if_neg optional] at honoured
    exact honoured

/-- A refusal ends with an error, whatever its reason is, because the request was explicit and the mode
of the bridge is not off. -/
theorem refusal_honoured (reason : Unsupported) (on : bridgeMode bridgeVariable ≠ "off".toList) :
    (runPlan environment bridgeVariable argv
      (captured ([' '].intercalate (refusalFields reason true) ++ ['\n']))).Honoured := by
  have action : planAction (captured ([' '].intercalate (refusalFields reason true) ++ ['\n'])) =
      "passthrough".toList := by
    unfold refusalFields
    simp only [List.cons_append]
    rw [line_cons, planAction_append (by decide)]
  have cleanReason : Clean separates reason.reason := by
    cases reason <;> decide
  have explicit : planField (captured ([' '].intercalate (refusalFields reason true) ++ ['\n']))
      "explicit" = "mediacodec".toList := by
    have refused : value ("explicit".toList ++ ['=']) (words separates (field "action" "passthrough".toList)) =
        none := by
      decide
    have because : value ("explicit".toList ++ ['=']) (words separates (field "reason" reason.reason)) =
        none := by
      rw [value_words_named (by decide) (by decide) (by decide), if_neg (by decide),
        laterWords_clean cleanReason, value_nil]
    have filled : refusalFields reason true ≠ [] := List.cons_ne_nil _ _
    have named : "explicit".toList ++ ['='] ≠ [] := by decide
    rw [planField_captured filled named, refusalFields, List.flatMap_append,
      value_append, List.flatMap_cons, List.flatMap_singleton, value_append, refused, because, if_pos rfl,
      List.flatMap_singleton, value_words_named (by decide) (by decide) (by decide), if_pos rfl]
    decide
  unfold runPlan
  rw [action]
  apply honoured_withField
  dsimp only
  have required : (if "mediacodec".toList = "mediacodec".toList ∧
      bridgeMode bridgeVariable ≠ "off".toList then "require".toList
      else bridgeMode bridgeVariable) = "require".toList := if_pos ⟨rfl, on⟩
  rw [explicit, if_pos (by decide), required, if_pos rfl]
  exact Nat.succ_ne_zero 2

/-- A request for MediaCodec is honoured, whatever happens, exactly when the paths of the plan take
nothing back. -/
theorem requested_honoured_iff (requests : Requests argv)
    (on : bridgeMode bridgeVariable ≠ "off".toList) :
    (∀ environment, (dawnshellFfmpeg product environment bridgeVariable argv).Honoured) ↔
      ∀ plan, parseFfmpegCommand product argv = .ok plan → Kept (bridgeMode bridgeVariable) plan := by
  have explicit := requestsMediacodec_iff.mpr requests
  have line : ∀ plan, parseFfmpegCommand product argv = .ok plan →
      captured (planFfmpeg product argv) = planLine plan true := by
    intro plan accepted
    rw [planFfmpeg_of_plan accepted, explicit]
  constructor
  · intro honoured plan accepted
    have ends := honoured calm
    have facts := plan_facts accepted
    have filled : planLine plan true ≠ [] := by
      intro empty
      have action : planAction (planLine plan true) = plan.action.text := planAction_planLine
      rw [empty] at action
      exact absurd action (by cases plan.action <;> decide)
    rw [dawnshellFfmpeg, if_neg (by decide), if_neg on, if_neg (by decide)] at ends
    dsimp only at ends
    rw [show calm.plannerRuns = true by rfl, if_pos rfl, line plan accepted, if_neg filled] at ends
    exact kept_of_honoured facts ends
  · intro kept environment
    unfold dawnshellFfmpeg
    by_cases missing : environment.ffmpegExecutable = false
    · rw [if_pos missing]
      exact Nat.succ_ne_zero 126
    rw [if_neg missing, if_neg on]
    by_cases full : environment.mktempSucceeds = false
    · rw [if_pos full]
      exact Nat.succ_ne_zero 0
    rw [if_neg full]
    dsimp only
    by_cases silent : environment.plannerRuns = false
    · rw [silent, if_neg Bool.false_ne_true, if_pos (by rfl)]
      exact Nat.succ_ne_zero 2
    rw [Bool.not_eq_false] at silent
    rw [silent, if_pos rfl]
    split
    · exact Nat.succ_ne_zero 2
    cases result : parseFfmpegCommand product argv with
    | ok plan =>
        rw [line plan result]
        exact (kept plan result).honoured (plan_facts result) on
    | error reason =>
        rw [planFfmpeg, result, explicit]
        exact refusal_honoured reason on

end Request

theorem requested_honoured_iff_plain :
    (∀ environment, (dawnshellFfmpeg (fun _ _ => 0) environment none
      (["-hwaccel", "mediacodec", "-i", "in.mp4", "out.yuv"].map String.toList)).Honoured) ↔
      ∀ plan, parseFfmpegCommand (fun _ _ => 0)
        (["-hwaccel", "mediacodec", "-i", "in.mp4", "out.yuv"].map String.toList) = .ok plan →
          Kept (bridgeMode none) plan :=
  requested_honoured_iff ⟨[], "-hwaccel".toList, "mediacodec".toList,
    ["-i", "in.mp4", "out.yuv"].map String.toList, rfl, .inl ⟨rfl, rfl⟩⟩ (by decide)

/-- A file whose name begins with a blank is enough: its field is empty for the wrapper, which runs
plain FFmpeg. -/
theorem requested_not_honoured :
    ¬ ∀ (environment : Environment) (bridgeVariable : Option Text) (argv : List Text), Requests argv →
      bridgeMode bridgeVariable ≠ "off".toList →
      (dawnshellFfmpeg (fun _ _ => 0) environment bridgeVariable argv).Honoured := by
  intro honoured
  have wrong := honoured calm none
    (["-hwaccel", "mediacodec", "-i", " in.mp4", "out.yuv"].map String.toList)
    ⟨[], "-hwaccel".toList, "mediacodec".toList, ["-i", " in.mp4", "out.yuv"].map String.toList, rfl,
      .inl ⟨rfl, rfl⟩⟩ (by decide)
  have plain : dawnshellFfmpeg (fun _ _ => 0) calm none
      (["-hwaccel", "mediacodec", "-i", " in.mp4", "out.yuv"].map String.toList) =
      .realFfmpeg (["-hwaccel", "mediacodec", "-i", " in.mp4", "out.yuv"].map String.toList) := by
    decide +kernel
  rw [plain] at wrong
  exact wrong

end DawnShell.Ffmpeg
