/-
Module: DawnShell.Proofs.TakenCommands
Layer: Proofs
Purpose: The planner accepts exactly the commands that the bridge takes.  Its loop is a fold over the items
  of the command line: an item is accepted where it is fine, and its effects on the variables of the
  planner are what the abstract statement says of the line.
Trusted boundary: none
Main exports: parseItem, Effects, parseArguments_items, items_or_refused, planOf_ok, taken_iff
-/
import DawnShell.Ffmpeg.Commands
import DawnShell.Lib.ExceptBind

namespace DawnShell.Ffmpeg

/-! ### One item -/

/-- The planner on an item. -/
def parseItem (product : Text → Nat → Nat) (parsed : Parsed) : Item → Except Unsupported Parsed
  | .operand path =>
      if parsed.output.isSome then .error .multipleOutputs else .ok { parsed with output := some path }
  | .flag token => .ok { parsed with audioDisabled := parsed.audioDisabled || token == "-an".toList }
  | .option token value => parseOption product parsed token value

/-- What the items of a line do to the variables of the planner. -/
structure Effects (parsed : Parsed) (line : List Item) (next : Parsed) : Prop where
  inputs : next.inputs = parsed.inputs ++ line.filterMap Item.input?
  output : next.output.toList = parsed.output.toList ++ line.filterMap Item.operand?
  disabled : next.audioDisabled = (parsed.audioDisabled || line.any Item.disablesAudio)
  audio : next.audioCodec.isSome = (parsed.audioCodec.isSome || line.any Item.namesAudioCodec)
  video : next.videoCodec = (encoderFrom (!parsed.inputs.isEmpty) line).or parsed.videoCodec
  hardware : next.hardwareDecode =
    (parsed.hardwareDecode || hardwareFrom (!parsed.inputs.isEmpty) line)

section Items

variable {product : Text → Nat → Nat} {parsed middle next : Parsed} {item : Item} {line : List Item}
  {token value : Text}

theorem Effects.nil : Effects parsed [] parsed := by
  constructor <;> simp [encoderFrom, hardwareFrom]

/-- Input options have begun when there was an input before or the item is one. -/
theorem started_of_effects (first : Effects parsed [item] middle) :
    (!middle.inputs.isEmpty) = (!parsed.inputs.isEmpty || item.isInput) := by
  rw [first.inputs]
  cases named : item.input? <;> cases parsed.inputs <;> simp [Item.isInput, named]

/-- The effects of a line are those of its first item and of the others. -/
theorem Effects.cons (first : Effects parsed [item] middle) (rest : Effects middle line next) :
    Effects parsed (item :: line) next := by
  have started := started_of_effects first
  constructor
  · rw [rest.inputs, first.inputs, List.append_assoc, ← List.filterMap_append, List.singleton_append]
  · rw [rest.output, first.output, List.append_assoc, ← List.filterMap_append, List.singleton_append]
  · rw [rest.disabled, first.disabled]
    simp [Bool.or_assoc]
  · rw [rest.audio, first.audio]
    simp [Bool.or_assoc]
  · rw [rest.video, first.video, started]
    simp [encoderFrom, Option.or_assoc]
  · rw [rest.hardware, first.hardware, started]
    simp [hardwareFrom, Bool.or_assoc]

theorem videoCodecOptions_only (video : token ∈ videoCodecOptions) :
    token ≠ "-i".toList ∧ token ∉ audioCodecOptions ∧ token ≠ "-hwaccel".toList := by
  simp only [videoCodecOptions, List.map_cons, List.map_nil, List.mem_cons, List.not_mem_nil,
    or_false] at video
  rcases video with rfl | rfl | rfl <;> decide

/-- An option for the audio codec is no input, no option for the video codec and no request for
hardware. -/
theorem audioCodecOptions_only (audio : token ∈ audioCodecOptions) :
    token ≠ "-i".toList ∧ token ∉ videoCodecOptions ∧ token ≠ "-hwaccel".toList := by
  simp only [audioCodecOptions, List.map_cons, List.map_nil, List.mem_cons, List.not_mem_nil, or_false]
    at audio
  rcases audio with rfl | rfl | rfl <;> decide

/-- A word that is not in a list is not found there. -/
theorem not_contains {tokens : List Text} (absent : token ∉ tokens) : tokens.contains token = false := by
  rw [← Bool.not_eq_true, List.contains_iff_mem]
  exact absent

/-- Different words do not compare as equal. -/
theorem not_beq {other : Text} (different : token ≠ other) : (token == other) = false :=
  beq_eq_false_iff_ne.mpr different

/-- The effects of one item, said of it alone. -/
theorem effects_singleton (inputs : next.inputs = parsed.inputs ++ item.input?.toList)
    (output : next.output.toList = parsed.output.toList ++ item.operand?.toList)
    (disabled : next.audioDisabled = (parsed.audioDisabled || item.disablesAudio))
    (audio : next.audioCodec.isSome = (parsed.audioCodec.isSome || item.namesAudioCodec))
    (video : next.videoCodec =
      (if (!parsed.inputs.isEmpty) = true then item.videoCodec? else none).or parsed.videoCodec)
    (hardware : next.hardwareDecode =
      (parsed.hardwareDecode || item.asksHardwareDecode (!parsed.inputs.isEmpty))) :
    Effects parsed [item] next := by
  constructor
  · rw [inputs]
    cases named : item.input? <;> simp [named]
  · rw [output]
    cases named : item.operand? <;> simp [named]
  · rw [disabled, List.any_cons, List.any_nil, Bool.or_false]
  · rw [audio, List.any_cons, List.any_nil, Bool.or_false]
  · rw [video, encoderFrom, encoderFrom, Option.none_or]
  · rw [hardware, hardwareFrom, hardwareFrom, Bool.or_false]

/-- An option is no operand and disables no audio. -/
theorem effects_option
    (inputs : next.inputs = parsed.inputs ++ (Item.option token value).input?.toList)
    (output : next.output = parsed.output) (disabled : next.audioDisabled = parsed.audioDisabled)
    (audio : next.audioCodec.isSome =
      (parsed.audioCodec.isSome || (Item.option token value).namesAudioCodec))
    (video : next.videoCodec =
      (if (!parsed.inputs.isEmpty) = true then (Item.option token value).videoCodec? else none).or
        parsed.videoCodec)
    (hardware : next.hardwareDecode =
      (parsed.hardwareDecode || (Item.option token value).asksHardwareDecode (!parsed.inputs.isEmpty))) :
    Effects parsed [.option token value] next := by
  apply effects_singleton inputs _ _ audio video hardware
  · rw [output, Item.operand?, Option.toList_none, List.append_nil]
  · rw [disabled, Item.disablesAudio, Bool.or_false]

/-- An option that says nothing of the input, the audio, the encoder or the decoder. -/
theorem effects_of_silent (input : token ≠ "-i".toList) (video : token ∉ videoCodecOptions)
    (audio : token ∉ audioCodecOptions) (hwaccel : token ≠ "-hwaccel".toList) (bitrate : Option Nat) :
    Effects parsed [.option token value] { parsed with bitrate } := by
  refine effects_option ?_ rfl rfl ?_ ?_ ?_
  · simp only [Item.input?, if_neg input, Option.toList_none, List.append_nil]
  · simp only [Item.namesAudioCodec, not_contains audio, Bool.or_false]
  · simp only [Item.videoCodec?, not_contains video, Bool.false_eq_true, if_false, ite_self,
      Option.none_or]
  · simp only [Item.asksHardwareDecode, not_beq hwaccel, not_contains video, Bool.and_false,
      Bool.false_and, Bool.or_false]

theorem effects_of_input :
    Effects parsed [.option "-i".toList value] { parsed with inputs := parsed.inputs ++ [value] } := by
  refine effects_option ?_ rfl rfl ?_ ?_ ?_
  · rfl
  · exact (Bool.or_false _).symm
  · exact (ite_self _).symm ▸ rfl
  · exact (by cases parsed.hardwareDecode <;> cases parsed.inputs <;> rfl)

/-- A video codec in front of the input is a decoder. -/
theorem effects_of_decoder (video : token ∈ videoCodecOptions) (start : parsed.inputs = []) :
    Effects parsed [.option token value]
      { parsed with hardwareDecode := parsed.hardwareDecode || mediacodecDecoders.contains value } := by
  obtain ⟨input, audio, hwaccel⟩ := videoCodecOptions_only video
  have named : videoCodecOptions.contains token = true := List.contains_iff_mem.mpr video
  refine effects_option ?_ rfl rfl ?_ ?_ ?_
  · simp only [Item.input?, if_neg input, Option.toList_none, List.append_nil]
  · simp only [Item.namesAudioCodec, not_contains audio, Bool.or_false]
  · simp only [start, List.isEmpty_nil, Bool.not_true, Bool.false_eq_true, if_false, Option.none_or]
  · simp only [Item.asksHardwareDecode, not_beq hwaccel, named, start, List.isEmpty_nil, Bool.not_true,
      Bool.not_false, Bool.false_and, Bool.true_and, Bool.false_or]

theorem effects_of_encoder (video : token ∈ videoCodecOptions) (started : parsed.inputs ≠ []) :
    Effects parsed [.option token value] { parsed with videoCodec := some value } := by
  obtain ⟨input, audio, hwaccel⟩ := videoCodecOptions_only video
  have named : videoCodecOptions.contains token = true := List.contains_iff_mem.mpr video
  have behind : parsed.inputs.isEmpty = false := List.isEmpty_eq_false_iff.mpr started
  refine effects_option ?_ rfl rfl ?_ ?_ ?_
  · simp only [Item.input?, if_neg input, Option.toList_none, List.append_nil]
  · simp only [Item.namesAudioCodec, not_contains audio, Bool.or_false]
  · simp only [behind, Bool.not_false, if_true, Item.videoCodec?, named, Option.some_or]
  · simp only [Item.asksHardwareDecode, not_beq hwaccel, behind, Bool.not_false, Bool.not_true,
      Bool.false_and, Bool.or_false]

/-- An option for the audio codec sets this codec and nothing else. -/
theorem effects_of_audio (audio : token ∈ audioCodecOptions) :
    Effects parsed [.option token value] { parsed with audioCodec := some value } := by
  obtain ⟨input, video, hwaccel⟩ := audioCodecOptions_only audio
  have named : audioCodecOptions.contains token = true := List.contains_iff_mem.mpr audio
  refine effects_option ?_ rfl rfl ?_ ?_ ?_
  · simp only [Item.input?, if_neg input, Option.toList_none, List.append_nil]
  · simp only [Item.namesAudioCodec, named, Option.isSome_some, Bool.or_true]
  · simp only [Item.videoCodec?, not_contains video, Bool.false_eq_true, if_false, ite_self,
      Option.none_or]
  · simp only [Item.asksHardwareDecode, not_beq hwaccel, not_contains video, Bool.and_false,
      Bool.false_and, Bool.or_false]

/-- A request for hardware decoding is remembered when it names MediaCodec, and never forgotten. -/
theorem effects_of_hwaccel :
    Effects parsed [.option "-hwaccel".toList value]
      { parsed with hardwareDecode := parsed.hardwareDecode || value == "mediacodec".toList } := by
  have video : videoCodecOptions.contains "-hwaccel".toList = false := by decide
  refine effects_option ?_ rfl rfl ?_ ?_ ?_
  · exact (List.append_nil _).symm
  · exact (Bool.or_false _).symm
  · simp only [Item.videoCodec?, video, Bool.false_eq_true, if_false, ite_self, Option.none_or]
  · simp only [Item.asksHardwareDecode, beq_self_eq_true, video, Bool.true_and, Bool.and_false,
      Bool.false_and, Bool.or_false]

/-- What the planner accepts is fine where it stands, and has its effects; the branches of the planner
are gone through here once. -/
theorem of_parseOption (accepted : parseOption product parsed token value = .ok next) :
    Fine product (!parsed.inputs.isEmpty) (.option token value) ∧
      Effects parsed [.option token value] next := by
  unfold parseOption at accepted
  simp only [List.contains_iff_mem] at accepted
  split_ifs at accepted with input video started decoder software audio early refused hwaccel asked other
    rate map chosen ignored
  · cases accepted
    subst input
    exact ⟨.input value, effects_of_input⟩
  · cases accepted
    rw [List.isEmpty_eq_false_iff.mpr started]
    exact ⟨.encoder video value, effects_of_encoder video started⟩
  · cases accepted
    have effects := @effects_of_decoder parsed token value video (not_not.mp started)
    rw [List.contains_iff_mem.mpr decoder, Bool.or_true] at effects
    exact ⟨.decoder video (List.mem_append_left _ decoder), effects⟩
  · cases accepted
    have effects := @effects_of_decoder parsed token value video (not_not.mp started)
    rw [not_contains decoder, Bool.or_false] at effects
    exact ⟨.decoder video (List.mem_append_right _ software), effects⟩
  · cases accepted
    rw [not_or, not_not] at refused
    rw [List.isEmpty_eq_false_iff.mpr early, refused.1]
    exact ⟨.audio audio, effects_of_audio audio⟩
  · cases accepted
    subst hwaccel asked
    have effects := @effects_of_hwaccel parsed "mediacodec".toList
    rw [beq_self_eq_true, Bool.or_true] at effects
    exact ⟨.hwaccel List.mem_cons_self, effects⟩
  · cases accepted
    subst hwaccel
    have effects := @effects_of_hwaccel parsed value
    rw [not_beq asked, Bool.or_false] at effects
    exact ⟨.hwaccel (by rcases other with rfl | rfl <;> simp), effects⟩
  · cases read : parseBitrate product value with
    | error reason =>
        rw [read] at accepted
        cases accepted
    | ok bitrate =>
        rw [read] at accepted
        cases accepted
        subst rate
        exact ⟨.bitrate read, effects_of_silent (by decide) (by decide) (by decide) (by decide) _⟩
  · cases accepted
    subst map
    exact ⟨.map (by rcases chosen with rfl | rfl | rfl <;> simp),
      effects_of_silent (by decide) (by decide) (by decide) (by decide) _⟩
  · cases accepted
    exact ⟨.ignored ignored value, effects_of_silent input video audio hwaccel _⟩

/-- What is fine where it stands is accepted, unless it copies audio that is disabled. -/
theorem exists_parseOption (fine : Fine product (!parsed.inputs.isEmpty) (.option token value))
    (audible : token ∈ audioCodecOptions → parsed.audioDisabled = false) :
    ∃ next, parseOption product parsed token value = .ok next := by
  generalize start : (!parsed.inputs.isEmpty) = started at fine
  cases fine with
  | input => exact ⟨_, if_pos rfl⟩
  | decoder video known =>
      obtain ⟨input, -, -⟩ := videoCodecOptions_only video
      rw [parseOption, if_neg input, if_pos (List.contains_iff_mem.mpr video)]
      by_cases started : parsed.inputs ≠ []
      · exact ⟨_, if_pos started⟩
      · rw [if_neg started]
        rcases List.mem_append.mp known with decoder | software
        · exact ⟨_, if_pos (List.contains_iff_mem.mpr decoder)⟩
        · by_cases decoder : mediacodecDecoders.contains value = true
          · exact ⟨_, if_pos decoder⟩
          · exact ⟨_, by rw [if_neg decoder, if_pos (List.contains_iff_mem.mpr software)]⟩
  | encoder video =>
      obtain ⟨input, -, -⟩ := videoCodecOptions_only video
      have started : parsed.inputs ≠ [] := by simpa using start
      exact ⟨_, by
        rw [parseOption, if_neg input, if_pos (List.contains_iff_mem.mpr video), if_pos started]⟩
  | audio audio =>
      obtain ⟨input, video, -⟩ := audioCodecOptions_only audio
      have started : parsed.inputs ≠ [] := by simpa using start
      have copies : ¬("copy".toList ≠ "copy".toList ∨ parsed.audioDisabled = true) := by
        rw [audible audio]
        simp
      exact ⟨_, by rw [parseOption, if_neg input, if_neg (mt List.contains_iff_mem.mp video),
        if_pos (List.contains_iff_mem.mpr audio), if_neg started, if_neg copies]⟩
  | hwaccel known =>
      rcases List.mem_cons.mp known with rfl | other
      · exact ⟨_, rfl⟩
      · have named : value = "auto".toList ∨ value = "none".toList := by simpa using other
        rcases named with rfl | rfl <;> exact ⟨_, rfl⟩
  | bitrate read =>
      have same : parseOption product parsed "-b:v".toList value =
          (parseBitrate product value).map fun bitrate => { parsed with bitrate := some bitrate } := rfl
      rw [same, read]
      exact ⟨_, rfl⟩
  | map known =>
      have named : value = "0:v:0".toList ∨ value = "0:v".toList ∨ value = "0".toList := by
        simpa using known
      rcases named with rfl | rfl | rfl <;> exact ⟨_, rfl⟩
  | ignored known =>
      simp only [ignoredValueOptions, List.map_cons, List.map_nil, List.mem_cons, List.not_mem_nil,
        or_false] at known
      rcases known with rfl | rfl | rfl | rfl | rfl | rfl | rfl | rfl | rfl | rfl <;> exact ⟨_, rfl⟩

theorem of_parseItem (accepted : parseItem product parsed item = .ok next) :
    Fine product (!parsed.inputs.isEmpty) item ∧ Effects parsed [item] next := by
  cases item with
  | operand path =>
      rw [parseItem] at accepted
      split at accepted
      · cases accepted
      next first =>
        cases accepted
        have none : parsed.output = none := Option.not_isSome_iff_eq_none.mp first
        refine ⟨.operand path, ?_⟩
        constructor <;> simp [none, Item.input?, Item.operand?, Item.disablesAudio, Item.namesAudioCodec,
          Item.videoCodec?, Item.asksHardwareDecode, encoderFrom, hardwareFrom]
  | flag token =>
      cases accepted
      refine ⟨.flag token, ?_⟩
      constructor <;> simp [Item.input?, Item.operand?, Item.disablesAudio, Item.namesAudioCodec,
        Item.videoCodec?, Item.asksHardwareDecode, encoderFrom, hardwareFrom]
  | option token value => exact of_parseOption accepted

theorem exists_parseItem (fine : Fine product (!parsed.inputs.isEmpty) item)
    (single : item.operand?.isSome = true → parsed.output = none)
    (audible : item.namesAudioCodec = true → parsed.audioDisabled = false) :
    ∃ next, parseItem product parsed item = .ok next := by
  cases item with
  | operand path =>
      rw [parseItem, single rfl]
      exact ⟨_, rfl⟩
  | flag token => exact ⟨_, rfl⟩
  | option token value =>
      exact exists_parseOption fine fun audio => audible (List.contains_iff_mem.mpr audio)

/-! ### The items of a line -/

variable {argv rest before after : List Text}

/-- The loop of the planner on an operand, a flag or an option. -/
theorem parseArguments_operand (operand : token.head? ≠ some '-') :
    parseArguments product parsed (token :: rest) =
      parseItem product parsed (.operand token) >>= (parseArguments product · rest) := by
  rw [parseArguments.eq_def]
  simp only [if_pos operand, parseItem]
  split <;> rfl

/-- A flag that is passed through is one item by itself. -/
theorem parseArguments_flag (dash : ¬token.head? ≠ some '-')
    (flag : passthroughFlags.contains token = true) :
    parseArguments product parsed (token :: rest) =
      parseItem product parsed (.flag token) >>= (parseArguments product · rest) := by
  rw [parseArguments.eq_def]
  simp only [if_neg dash, if_pos flag]
  rfl

/-- Any other option is an item together with the word behind it. -/
theorem parseArguments_option (dash : ¬token.head? ≠ some '-')
    (flag : ¬passthroughFlags.contains token = true) :
    parseArguments product parsed (token :: value :: rest) =
      parseItem product parsed (.option token value) >>= (parseArguments product · rest) := by
  rw [parseArguments.eq_def]
  simp only [if_neg dash, if_neg flag, parseItem]
  cases parseOption product parsed token value <;> rfl

/-- The loop of the planner is a fold over the items, so that later proofs speak of one item at a time.
-/
theorem parseArguments_items (read : items argv = some line) :
    parseArguments product parsed argv = line.foldlM (parseItem product) parsed := by
  rw [items] at read
  induction argv using itemsWith.induct passthroughFlags.contains generalizing parsed line with
  | case1 =>
      cases read
      rfl
  | case2 token rest operand ih =>
      rw [itemsWith_operand operand, Option.map_eq_some_iff] at read
      obtain ⟨others, later, rfl⟩ := read
      rw [parseArguments_operand operand, List.foldlM_cons]
      exact bind_congr fun next => ih later
  | case3 token rest dash flag ih =>
      rw [itemsWith_flag dash flag, Option.map_eq_some_iff] at read
      obtain ⟨others, later, rfl⟩ := read
      rw [parseArguments_flag dash flag, List.foldlM_cons]
      exact bind_congr fun next => ih later
  | case4 token dash flag =>
      rw [itemsWith_last dash flag] at read
      cases read
  | case5 token dash flag value more ih =>
      rw [itemsWith_option dash flag, Option.map_eq_some_iff] at read
      obtain ⟨others, later, rfl⟩ := read
      rw [parseArguments_option dash flag, List.foldlM_cons]
      exact bind_congr fun next => ih later

/-- A line that does not end with a whole item is refused, as the planner wants a value behind every
option. -/
theorem exists_items (accepted : parseArguments product parsed argv = .ok next) :
    ∃ line, items argv = some line := by
  rw [items]
  induction argv using itemsWith.induct passthroughFlags.contains generalizing parsed with
  | case1 => exact ⟨[], rfl⟩
  | case2 token rest operand ih =>
      rw [parseArguments_operand operand] at accepted
      obtain ⟨middle, -, later⟩ := Except.ok_of_bind accepted
      obtain ⟨line, read⟩ := ih later
      exact ⟨_, by rw [itemsWith_operand operand, read]; rfl⟩
  | case3 token rest dash flag ih =>
      rw [parseArguments_flag dash flag] at accepted
      obtain ⟨middle, -, later⟩ := Except.ok_of_bind accepted
      obtain ⟨line, read⟩ := ih later
      exact ⟨_, by rw [itemsWith_flag dash flag, read]; rfl⟩
  | case4 token dash flag =>
      rw [parseArguments.eq_def] at accepted
      simp only [if_neg dash, if_neg flag] at accepted
      cases accepted
  | case5 token dash flag value more ih =>
      rw [parseArguments_option dash flag] at accepted
      obtain ⟨middle, -, later⟩ := Except.ok_of_bind accepted
      obtain ⟨line, read⟩ := ih later
      exact ⟨_, by rw [itemsWith_option dash flag, read]; rfl⟩

/-- The items of a command are those of its front and then those of the rest. -/
theorem items_append {first : List Item} (read : items before = some first) :
    items (before ++ after) = (items after).map (first ++ ·) := by
  rw [items] at read ⊢
  induction before using itemsWith.induct passthroughFlags.contains generalizing first with
  | case1 =>
      cases read
      exact Option.map_id'.symm
  | case2 token rest operand ih =>
      rw [itemsWith_operand operand, Option.map_eq_some_iff] at read
      obtain ⟨others, later, rfl⟩ := read
      rw [List.cons_append, itemsWith_operand operand, ih later, Option.map_map]
      rfl
  | case3 token rest dash flag ih =>
      rw [itemsWith_flag dash flag, Option.map_eq_some_iff] at read
      obtain ⟨others, later, rfl⟩ := read
      rw [List.cons_append, itemsWith_flag dash flag, ih later, Option.map_map]
      rfl
  | case4 token dash flag =>
      rw [itemsWith_last dash flag] at read
      cases read
  | case5 token dash flag value more ih =>
      rw [itemsWith_option dash flag, Option.map_eq_some_iff] at read
      obtain ⟨others, later, rfl⟩ := read
      rw [List.cons_append, List.cons_append, itemsWith_option dash flag, ih later, Option.map_map]
      rfl

/-- An option that is fine is one that the planner knows with a value. -/
theorem mem_valueOptions {started : Bool} (fine : Fine product started (.option token value)) :
    token ∈ valueOptions := by
  simp only [valueOptions, List.mem_append]
  cases fine with
  | input => exact .inl (.inl (.inl (by decide)))
  | decoder video => exact .inl (.inl (.inr video))
  | encoder video => exact .inl (.inl (.inr video))
  | audio audio => exact .inl (.inr audio)
  | hwaccel => exact .inl (.inl (.inl (by decide)))
  | bitrate => exact .inl (.inl (.inl (by decide)))
  | map => exact .inl (.inl (.inl (by decide)))
  | ignored known => exact .inr known

/-- A part of a line that is whole for FFmpeg is whole for the planner, or the planner refuses every line
that begins with it. -/
theorem items_or_refused {valueless : Text → Bool} (options : Valueless valueless)
    (whole : (itemsWith valueless before).isSome = true) :
    (∃ first, items before = some first) ∨
      ∀ parsed after next, parseArguments product parsed (before ++ after) ≠ .ok next := by
  induction before using itemsWith.induct valueless with
  | case1 => exact .inl ⟨[], rfl⟩
  | case2 token rest operand ih =>
      rw [itemsWith_operand operand, Option.isSome_map] at whole
      rcases ih whole with ⟨first, read⟩ | refused
      · exact .inl ⟨_, by rw [items, itemsWith_operand operand, ← items, read]; rfl⟩
      · refine .inr fun parsed after next accepted => ?_
        rw [List.cons_append, parseArguments_operand operand] at accepted
        obtain ⟨middle, -, later⟩ := Except.ok_of_bind accepted
        exact refused _ _ _ later
  | case3 token rest dash valueless ih =>
      rw [itemsWith_flag dash valueless, Option.isSome_map] at whole
      by_cases flag : passthroughFlags.contains token = true
      · rcases ih whole with ⟨first, read⟩ | refused
        · exact .inl ⟨_, by rw [items, itemsWith_flag dash flag, ← items, read]; rfl⟩
        · refine .inr fun parsed after next accepted => ?_
          rw [List.cons_append, parseArguments_flag dash flag] at accepted
          obtain ⟨middle, -, later⟩ := Except.ok_of_bind accepted
          exact refused _ _ _ later
      · refine .inr fun parsed after next accepted => ?_
        rw [List.cons_append] at accepted
        cases behind : rest ++ after with
        | nil =>
            obtain ⟨line, read⟩ := exists_items accepted
            rw [behind, items, itemsWith_last dash flag] at read
            cases read
        | cons value more =>
            rw [behind, parseArguments_option dash flag] at accepted
            obtain ⟨middle, taken, -⟩ := Except.ok_of_bind accepted
            have known := mem_valueOptions (of_parseOption taken).1
            rw [options.options token known] at valueless
            cases valueless
  | case4 token dash flag =>
      rw [itemsWith_last dash flag] at whole
      cases whole
  | case5 token dash flag value more ih =>
      have other : ¬passthroughFlags.contains token = true :=
        fun member => flag (options.flags token (List.contains_iff_mem.mp member))
      rw [itemsWith_option dash flag, Option.isSome_map] at whole
      rcases ih whole with ⟨first, read⟩ | refused
      · exact .inl ⟨_, by rw [items, itemsWith_option dash other, ← items, read]; rfl⟩
      · refine .inr fun parsed after next accepted => ?_
        rw [List.cons_append, List.cons_append, parseArguments_option dash other] at accepted
        obtain ⟨middle, -, later⟩ := Except.ok_of_bind accepted
        exact refused _ _ _ later

/-- An accepted line is fine, and has its effects. -/
theorem of_foldlM (accepted : line.foldlM (parseItem product) parsed = .ok next) :
    FineFrom product (!parsed.inputs.isEmpty) line ∧ Effects parsed line next := by
  induction line generalizing parsed with
  | nil =>
      cases accepted
      exact ⟨trivial, .nil⟩
  | cons item line ih =>
      rw [List.foldlM_cons] at accepted
      obtain ⟨middle, taken, later⟩ := Except.ok_of_bind accepted
      obtain ⟨fine, first⟩ := of_parseItem taken
      obtain ⟨others, rest⟩ := ih later
      rw [started_of_effects first] at others
      exact ⟨⟨fine, others⟩, first.cons rest⟩

/-- A fine line with one operand at most and no audio that is copied and disabled is accepted. -/
theorem exists_foldlM (fine : FineFrom product (!parsed.inputs.isEmpty) line)
    (single : (parsed.output.toList ++ line.filterMap Item.operand?).length ≤ 1)
    (audible : line.any Item.namesAudioCodec = true →
      parsed.audioDisabled = false ∧ line.any Item.disablesAudio = false) :
    ∃ next, line.foldlM (parseItem product) parsed = .ok next := by
  induction line generalizing parsed with
  | nil => exact ⟨parsed, rfl⟩
  | cons item line ih =>
      obtain ⟨here, others⟩ := fine
      have alone : item.operand?.isSome = true → parsed.output = none := by
        intro operand
        obtain ⟨path, named⟩ := Option.isSome_iff_exists.mp operand
        cases output : parsed.output with
        | none => rfl
        | some other =>
            rw [output, List.filterMap_cons_some named] at single
            simp at single
      obtain ⟨middle, taken⟩ := exists_parseItem here alone fun names => (audible (by simp [names])).1
      have first := (of_parseItem taken).2
      rw [← started_of_effects first] at others
      obtain ⟨next, later⟩ := ih others (by
        rw [first.output, List.append_assoc, ← List.filterMap_append]
        exact single) (by
        intro names
        obtain ⟨enabled, rest⟩ := audible (by simp [names])
        rw [List.any_cons, Bool.or_eq_false_iff] at rest
        rw [first.disabled, enabled]
        simp [rest.1, rest.2])
      exact ⟨next, by rw [List.foldlM_cons, taken]; exact later⟩

/-- What the tests behind the loop accept. -/
structure Accepts (parsed : Parsed) (output : Text) : Prop where
  audible : ¬(parsed.audioDisabled = true ∧ parsed.audioCodec.isSome = true)
  raw : parsed.videoCodec = none → outputSuffix output ∈ rawVideoSuffixes
  encoder : ∀ name, parsed.videoCodec = some name → ∃ codec, hardwareEncoders name = some codec ∧
    (parsed.audioCodec.isSome = true →
      name ∈ mediacodecEncoders ∧ ¬(codec = .avc ∧ parsed.hardwareDecode = true))

theorem hardwareEncoders_copy : hardwareEncoders "copy".toList = none := by decide

/-- There is a plan for one input and a named output exactly if the planner accepts what was parsed. -/
theorem planOf_ok {input output : Text} (one : parsed.inputs = [input])
    (named : parsed.output = some output) :
    (∃ plan, planOf parsed = .ok plan) ↔ Accepts parsed output := by
  rw [planOf, one, named]
  dsimp only
  by_cases conflict : parsed.audioDisabled = true ∧ parsed.audioCodec.isSome = true
  · rw [if_pos conflict]
    constructor
    · rintro ⟨plan, accepted⟩
      cases accepted
    · exact fun accepts => absurd conflict accepts.audible
  rw [if_neg conflict]
  cases video : parsed.videoCodec with
  | none =>
      rw [if_neg (by simp)]
      dsimp only
      by_cases raw : rawVideoSuffixes.contains (outputSuffix output) = true
      · rw [if_pos raw]
        refine iff_of_true ⟨_, rfl⟩ ⟨conflict, fun _ => List.contains_iff_mem.mp raw, ?_⟩
        simp [video]
      · rw [if_neg raw]
        refine iff_of_false (by simp) fun accepts => raw (List.contains_iff_mem.mpr (accepts.raw video))
  | some name =>
      by_cases copy : name = "copy".toList
      · subst copy
        rw [if_pos rfl]
        refine iff_of_false (by simp) fun accepts => ?_
        obtain ⟨codec, known, -⟩ := accepts.encoder _ video
        rw [hardwareEncoders_copy] at known
        cases known
      rw [if_neg (by simpa using copy)]
      dsimp only
      cases known : hardwareEncoders name with
      | none =>
          refine iff_of_false (by simp) fun accepts => ?_
          obtain ⟨codec, found, -⟩ := accepts.encoder name video
          rw [known] at found
          cases found
      | some codec =>
          have encoder : Accepts parsed output ↔ (parsed.audioCodec.isSome = true →
              name ∈ mediacodecEncoders ∧ ¬(codec = .avc ∧ parsed.hardwareDecode = true)) := by
            constructor
            · intro accepts
              obtain ⟨other, found, allowed⟩ := accepts.encoder name video
              cases known.symm.trans found
              exact allowed
            · intro allowed
              refine ⟨conflict, by simp [video], fun other same => ?_⟩
              cases video.symm.trans same
              exact ⟨codec, known, allowed⟩
          rw [encoder, ← List.contains_iff_mem]
          dsimp only
          split
          next bytes => exact iff_of_true ⟨_, rfl⟩ fun _ => bytes
          next surface =>
            split
            next copied => exact iff_of_false (by simp) fun allowed => surface (allowed copied)
            next silent => exact iff_of_true ⟨_, rfl⟩ fun copied => absurd copied silent

/-- A plan has one input and a named output. -/
theorem of_planOf {plan : Plan} (accepted : planOf parsed = .ok plan) :
    ∃ input output, parsed.inputs = [input] ∧ parsed.output = some output := by
  rw [planOf] at accepted
  split at accepted
  next input output one named => exact ⟨input, output, one, named⟩
  · cases accepted
  · cases accepted

/-- A line whose effects on the planner's first variables are accepted is one that the bridge takes. -/
theorem accepts_iff_taken {input output : Text} (fine : FineFrom product false line)
    (effects : Effects {} line next) (one : next.inputs = [input]) (named : next.output = some output) :
    Accepts next output ↔ TakenItems product line := by
  have inputs : line.filterMap Item.input? = [input] := by
    rw [← one, effects.inputs]
    rfl
  have operands : line.filterMap Item.operand? = [output] := by
    have list := effects.output
    rw [named] at list
    exact list.symm
  have disabled : next.audioDisabled = line.any Item.disablesAudio := by
    rw [effects.disabled, Bool.false_or]
  have audio : next.audioCodec.isSome = line.any Item.namesAudioCodec := by
    rw [effects.audio, Option.isSome_none, Bool.false_or]
  have video : next.videoCodec = encoderFrom false line := by
    rw [effects.video, Option.or_none]
    rfl
  have hardware : next.hardwareDecode = hardwareFrom false line := by
    rw [effects.hardware, Bool.false_or]
    rfl
  constructor
  · intro accepts
    refine ⟨fine, by rw [inputs]; rfl, by rw [operands]; rfl, ?_, ?_, ?_⟩
    · intro silent
      have audible := accepts.audible
      rw [disabled, audio, silent] at audible
      simpa using audible
    · intro name found
      obtain ⟨codec, known, allowed⟩ := accepts.encoder name (video.trans found)
      rw [audio, hardware] at allowed
      exact ⟨codec, known, allowed⟩
    · intro none path member
      rw [operands, List.mem_singleton] at member
      rw [member]
      exact accepts.raw (video.trans none)
  · intro taken
    refine ⟨?_, ?_, ?_⟩
    · rintro ⟨silent, copied⟩
      rw [disabled] at silent
      rw [audio, taken.audible silent] at copied
      cases copied
    · intro none
      exact taken.raw (video.symm.trans none) output (by rw [operands]; exact List.mem_singleton_self _)
    · intro name found
      obtain ⟨codec, encodes⟩ := taken.encoder name (video.symm.trans found)
      exact ⟨codec, encodes.known, by rw [audio, hardware]; exact encodes.audio⟩

/-- The planner accepts exactly the commands that the bridge takes: each item is fine where it stands,
and together they make a plan. -/
theorem taken_iff : (∃ plan, parseFfmpegCommand product argv = .ok plan) ↔ Taken product argv := by
  constructor
  · rintro ⟨plan, accepted⟩
    obtain ⟨parsed, loop, tests⟩ := Except.ok_of_bind accepted
    obtain ⟨line, read⟩ := exists_items loop
    rw [parseArguments_items read] at loop
    obtain ⟨fine, effects⟩ := of_foldlM loop
    obtain ⟨input, output, one, named⟩ := of_planOf tests
    exact ⟨line, read,
      (accepts_iff_taken fine effects one named).mp ((planOf_ok one named).mp ⟨plan, tests⟩)⟩
  · rintro ⟨line, read, taken⟩
    obtain ⟨input, one⟩ := List.length_eq_one_iff.mp taken.input
    obtain ⟨output, named⟩ := List.length_eq_one_iff.mp taken.output
    obtain ⟨next, loop⟩ := @exists_foldlM product {} line taken.fine (by simp [named]) (by
      intro names
      refine ⟨rfl, ?_⟩
      cases disabled : line.any Item.disablesAudio with
      | false => rfl
      | true => exact absurd names (by rw [taken.audible disabled]; decide))
    obtain ⟨fine, effects⟩ := of_foldlM loop
    have inputs : next.inputs = [input] := by
      rw [effects.inputs, one]
      rfl
    have outputs : next.output = some output := by
      have list := effects.output
      rw [named] at list
      cases known : next.output with
      | none =>
          rw [known] at list
          cases list
      | some path =>
          rw [known] at list
          cases list
          rfl
    obtain ⟨plan, tests⟩ := (planOf_ok inputs outputs).mpr
      ((accepts_iff_taken fine effects inputs outputs).mpr taken)
    refine ⟨plan, ?_⟩
    rw [parseFfmpegCommand, parseArguments_items read, loop]
    exact tests

end Items

end DawnShell.Ffmpeg
