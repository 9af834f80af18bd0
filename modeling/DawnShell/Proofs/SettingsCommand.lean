/-
Module: DawnShell.Proofs.SettingsCommand
Layer: Proofs
Purpose: From the saved settings to the arguments of the launcher.  The command of a start or a restart is
  encoded, split by the shell and read by `main`; what comes out is what was saved.
Trusted boundary: none
Main exports: commands_launch, Stored, stored_of_reachable, Carries,
  settings_reach_launcher
-/
import DawnShell.Proofs.QuotedWords
import DawnShell.Proofs.UsbDeviceIds

namespace DawnShell.App

open Java Launcher

/-! ### The shell -/

/-- The text of a start or a restart, as the shell gets it. -/
def launchText (message file binary argument : List Char) (values : List (List Char)) : List Char :=
  "printf %s ".toList ++ Shell.quote message ++ " > ".toList ++ Shell.quote file ++
    " && ".toList ++ Shell.quote binary ++ ' ' :: argument ++
    values.flatMap fun value => ' ' :: Shell.quote value

section Shell

variable {message file binary argument : List Char} {values : List (List Char)}

/-- The words of a start or a restart: the shell splits the text into the message that is printed to the
file and the launcher with its values. -/
theorem commands_launchText (launching : argument = "start".toList ∨ argument = "restart".toList) :
    Shell.commands (launchText message file binary argument values) =
      some [⟨["printf".toList, "%s".toList, message], [file]⟩,
        ⟨binary :: argument :: values, []⟩] := by
  have printf : Shell.run .between "printf %s ".toList =
      some ([.word "printf".toList true, .word "%s".toList true], .between) := by rfl
  have redirect : ∀ text, Shell.run (.word text false) " > ".toList =
      some ([.word text false, .operator ['>']], .between) := fun _ => rfl
  have both : ∀ text, Shell.run (.word text false) " && ".toList =
      some ([.word text false, .operator ['&', '&']], .between) := fun _ => rfl
  have name : Shell.run (.word binary false) (' ' :: argument) =
      some ([.word binary false], .word argument true) := by
    rcases launching with rfl | rfl <;> rfl
  obtain ⟨emitted, last, more, read, closed, same⟩ :
      ∃ emitted last more, Shell.run (.word argument true)
          (values.flatMap fun value => ' ' :: Shell.quote value) = some (emitted, last) ∧
        last.close = some more ∧
        emitted ++ more = .word argument true :: values.map (Shell.Token.word · false) :=
    Shell.run_next_quotes
  have greeted : Shell.run .between ("printf %s ".toList ++ Shell.quote message ++ " > ".toList ++
      Shell.quote file ++ " && ".toList) =
      some ([.word "printf".toList true, .word "%s".toList true, .word message false, .operator ['>'],
        .word file false, .operator ['&', '&']], .between) :=
    Shell.run_append_of (Shell.run_append_of (Shell.run_append_of (Shell.run_append_of printf
      Shell.run_quote) (redirect message)) Shell.run_quote) (both file)
  have quoted : Shell.run .between (Shell.quote binary) = some ([], .word binary false) :=
    Shell.run_quote
  have launched := Shell.run_append_of (Shell.run_append_of (Shell.run_append_of greeted quoted)
    name) read
  have second : Shell.andList {} (.word binary false :: .word argument true ::
      values.map (Shell.Token.word · false)) = some [⟨binary :: argument :: values, []⟩] := by
    simp only [Shell.andList, reduceCtorEq, and_false, false_and, ↓reduceIte, List.nil_append,
      List.cons_append, List.cons_ne_nil]
    exact Shell.andList_words (by simp)
  have split : Shell.tokens (launchText message file binary argument values) = some
      ([.word "printf".toList true, .word "%s".toList true, .word message false, .operator ['>'],
        .word file false, .operator ['&', '&'], .word binary false, .word argument true] ++
          values.map (Shell.Token.word · false)) := by
    unfold Shell.tokens launchText
    rw [launched]
    simp only [Option.bind_eq_bind, Option.bind_some, closed, List.append_assoc, same]
    simp only [List.cons_append, List.nil_append, Option.pure_def]
  unfold Shell.commands
  rw [split]
  simp only [Option.bind_eq_bind, Option.bind_some, List.cons_append, List.nil_append]
  rw [Shell.andList, if_neg (by decide), Shell.andList, if_neg (by simp), Shell.andList,
    if_neg (by simp), Shell.andList, Shell.andList, if_neg (by simp), second]
  rfl

end Shell

/-! ### The preferences -/

/-- What holds of the preferences at every time. -/
structure Stored (preferences : StoredPreferences) : Prop where
  cgroupPolicy : preferences.cgroupPolicy.getD cgroupAuto ∈ [cgroupAuto, cgroupV2, cgroupV1]
  usbMode : ∀ mode, preferences.usbPassthroughMode = some mode →
    mode ∈ [usbPassthroughOff, usbPassthroughDirect, usbPassthroughExclusive]
  ids : ∃ ids, Listed ids ∧ preferences.usbExclusiveDeviceIds.getD [] = literal (idList ids) ∧
    (preferences.usbPassthroughMode = some usbPassthroughExclusive → ids ≠ [])

section Preferences

variable {preferences next : StoredPreferences} {arguments : SaveArguments}

/-- Whatever is asked for, a policy that is stored is one of the three there are. -/
theorem validatedCgroupPolicy_mem (value : Option JavaString) :
    validatedCgroupPolicy value ∈ [cgroupAuto, cgroupV2, cgroupV1] := by
  cases value with
  | none => simp [validatedCgroupPolicy]
  | some value =>
      rw [validatedCgroupPolicy]
      split
      · next known => rcases known with rfl | rfl <;> simp
      · simp

/-- Whatever is asked for, a USB mode that is stored is one of the three there are. -/
theorem validatedUsbPassthroughMode_mem (value : Option JavaString) :
    validatedUsbPassthroughMode value ∈
      [usbPassthroughOff, usbPassthroughDirect, usbPassthroughExclusive] := by
  cases value with
  | none => simp [validatedUsbPassthroughMode]
  | some value =>
      rw [validatedUsbPassthroughMode]
      split
      · next known => rcases known with rfl | rfl <;> simp
      · simp

/-- A call that is accepted stores what is valid, whatever was there before. -/
theorem stored_of_save (accepted : save arguments = .ok next) : Stored next := by
  simp only [save, bind, Except.bind] at accepted
  split at accepted
  · simp at accepted
  · next normalized result =>
    split at accepted
    · simp [throw, throwThe, MonadExceptOf.throw] at accepted
    · next filled =>
      obtain ⟨ids, listed, same⟩ := normalized_listed result
      simp only [pure, Except.pure, Except.ok.injEq] at accepted
      subst accepted
      refine ⟨validatedCgroupPolicy_mem _, ?_, ids, listed, same, ?_⟩
      · intro mode stored
        rw [← Option.some.inj stored]
        exact validatedUsbPassthroughMode_mem _
      · rintro exclusive rfl
        exact filled ⟨Option.some.inj exclusive, same⟩

/-- In every reachable state the preferences hold what validation lets through. -/
theorem stored_of_reachable (reachable : Reachable preferences) : Stored preferences := by
  induction reachable with
  | fresh shareHostUsbLegacy =>
      exact ⟨by simp, by simp, [], listed_nil, rfl, by simp⟩
  | saved before arguments accepted ih => exact stored_of_save accepted

end Preferences

/-! ### The launcher -/

/-- The text of a policy in the settings and on the command line. -/
def cgroupPolicyText : CgroupPolicy → List Char
  | .auto => "auto".toList
  | .forceV2 => "v2".toList
  | .forceV1 => "v1".toList

/-- The launcher starts with what is stored. -/
structure Carries (preferences : StoredPreferences) (arguments : LaunchArguments) : Prop where
  cgroupPolicy : literal (cgroupPolicyText arguments.cgroupPolicy) =
    preferences.cgroupPolicy.getD cgroupAuto
  allowFallback : arguments.allowFallback = preferences.pidNamespaceFallback.getD false
  hostUsbPolicy : literal (hostUsbPolicyName arguments.hostUsbPolicy) =
    preferences.usbPassthroughMode.getD (if preferences.shareHostUsbLegacy.getD false = true
      then usbPassthroughDirect else usbPassthroughOff)
  usbDeviceFilter : literal (idList arguments.usbDeviceFilter) =
    preferences.usbExclusiveDeviceIds.getD []

section Settings

variable {preferences : StoredPreferences} {layout : Layout} {operation : Operation}

/-- The getters return what is stored; the switch of an older version counts when there is no mode. -/
theorem Stored.settings (stored : Stored preferences) :
    preferences.cgroupPolicySetting = preferences.cgroupPolicy.getD cgroupAuto ∧
      preferences.usbPassthroughModeSetting = preferences.usbPassthroughMode.getD
        (if preferences.shareHostUsbLegacy.getD false = true then usbPassthroughDirect
          else usbPassthroughOff) ∧
      preferences.usbExclusiveDeviceIdsSetting = preferences.usbExclusiveDeviceIds.getD [] := by
  refine ⟨?_, ?_, ?_⟩
  · have known := stored.cgroupPolicy
    rw [StoredPreferences.cgroupPolicySetting]
    generalize preferences.cgroupPolicy.getD cgroupAuto = policy at known
    simp only [List.mem_cons, List.not_mem_nil, or_false] at known
    rcases known with rfl | rfl | rfl <;> rfl
  · have known := stored.usbMode
    rw [StoredPreferences.usbPassthroughModeSetting]
    cases result : preferences.usbPassthroughMode with
    | none =>
        by_cases shared : preferences.shareHostUsbLegacy.getD false = true
        · simp [shared]
        · simp [shared, validatedUsbPassthroughMode]
    | some mode =>
        have known := known mode result
        simp only [List.mem_cons, List.not_mem_nil, or_false] at known
        rcases known with rfl | rfl | rfl <;> rfl
  · obtain ⟨ids, listed, same, -⟩ := stored.ids
    rw [StoredPreferences.usbExclusiveDeviceIdsSetting, same, normalize_idList listed]

/-- What the command names of the settings. -/
structure Named (preferences : StoredPreferences) (cgroup : CgroupPolicy) (usb : HostUsbPolicy)
    (ids : List UsbDeviceId) : Prop where
  cgroupPolicy : preferences.cgroupPolicySetting = literal (cgroupPolicyText cgroup)
  usbMode : preferences.usbPassthroughModeSetting = literal (hostUsbPolicyName usb)
  deviceIds : preferences.usbExclusiveDeviceIdsSetting = literal (idList ids)
  listed : Listed ids
  filled : usb = .exclusive → ids ≠ []

/-- Stored preferences name a cgroup policy, a USB policy and a list of device ids. -/
theorem Stored.named (stored : Stored preferences) : ∃ cgroup usb ids, Named preferences cgroup usb ids := by
  obtain ⟨cgroupSame, usbSame, idsSame⟩ := stored.settings
  obtain ⟨ids, listed, same, filled⟩ := stored.ids
  have cgroup : ∃ cgroup, preferences.cgroupPolicySetting = literal (cgroupPolicyText cgroup) := by
    have known := stored.cgroupPolicy
    rw [← cgroupSame] at known
    simp only [List.mem_cons, List.not_mem_nil, or_false] at known
    rcases known with auto | v2 | v1
    · exact ⟨.auto, auto⟩
    · exact ⟨.forceV2, v2⟩
    · exact ⟨.forceV1, v1⟩
  have usb : ∃ usb, preferences.usbPassthroughModeSetting = literal (hostUsbPolicyName usb) ∧
      (usb = .exclusive → preferences.usbPassthroughMode = some usbPassthroughExclusive) := by
    have known := stored.usbMode
    cases result : preferences.usbPassthroughMode with
    | none =>
        rw [result, Option.getD_none] at usbSame
        split at usbSame
        · exact ⟨.direct, usbSame, by simp⟩
        · exact ⟨.off, usbSame, by simp⟩
    | some mode =>
        have known := known mode result
        rw [result, Option.getD_some] at usbSame
        simp only [List.mem_cons, List.not_mem_nil, or_false] at known
        rcases known with off | direct | exclusive
        · exact ⟨.off, usbSame.trans off, by simp⟩
        · exact ⟨.direct, usbSame.trans direct, by simp⟩
        · exact ⟨.exclusive, usbSame.trans exclusive, fun _ => by rw [exclusive]⟩
  obtain ⟨cgroup, cgroupNamed⟩ := cgroup
  obtain ⟨usb, usbNamed, exclusive⟩ := usb
  exact ⟨cgroup, usb, ids, cgroupNamed, usbNamed, idsSame.trans same, listed,
    fun mode => filled (exclusive mode)⟩

/-- A text that is checked character by character is ASCII without NUL. -/
theorem ascii_of_all {text : List Char}
    (all : (text.all fun character => 0 < character.toNat && character.toNat < 0x80) = true) :
    ∀ character ∈ text, 0 < character.toNat ∧ character.toNat < 0x80 := by
  simpa using all

/-- The names of the cgroup policies are ASCII. -/
theorem cgroupPolicyText_ascii (policy : CgroupPolicy) :
    ∀ character ∈ cgroupPolicyText policy, 0 < character.toNat ∧ character.toNat < 0x80 := by
  cases policy <;> exact ascii_of_all (by decide)

/-- The names of the USB policies are ASCII. -/
theorem hostUsbPolicyName_ascii (policy : HostUsbPolicy) :
    ∀ character ∈ hostUsbPolicyName policy, 0 < character.toNat ∧ character.toNat < 0x80 := by
  cases policy <;> exact ascii_of_all (by decide)

theorem idList_ascii {ids : List UsbDeviceId} (listed : Listed ids) :
    ∀ character ∈ idList ids, 0 < character.toNat ∧ character.toNat < 0x80 := by
  have digit : ∀ value < 16, 0 < (hexDigit value).toNat ∧ (hexDigit value).toNat < 0x80 := by decide
  exact forall_idList listed.words digit (by decide) (by decide)

theorem literal_argument (text : List Char)
    (ascii : ∀ character ∈ text, 0 < character.toNat ∧ character.toNat < 0x80) :
    0 ∉ literal text ∧ encoded (literal text) = text := by
  refine ⟨?_, encoded_literal fun character member => (ascii character member).2⟩
  simp only [literal, List.mem_map, not_exists, not_and]
  intro character member zero
  obtain ⟨positive, small⟩ := ascii character member
  have value := congrArg UInt16.toNat zero
  rw [UInt16.toNat_ofNat_of_lt' (Nat.lt_trans small (by decide))] at value
  exact absurd value (Nat.ne_of_gt positive)

/-- The text of the fallback. -/
def fallbackText (allowFallback : Bool) : List Char :=
  if allowFallback then "fallback".toList else "strict".toList

/-- What a start or a restart hands to the launcher. -/
def launchValues (layout : Layout) (cgroup : CgroupPolicy) (allowFallback : Bool) (usb : HostUsbPolicy)
    (ids : List UsbDeviceId) : List (List Char) :=
  [rootfsPath, encoded layout.run, encoded layout.lifecycleLog, cgroupPolicyText cgroup,
    fallbackText allowFallback, hostUsbPolicyName usb, if idList ids = [] then ['-'] else idList ids]

/-- A path that can be an argument. -/
structure Layout.Clean (layout : Layout) : Prop where
  namespaceProbeBinary : 0 ∉ layout.namespaceProbeBinary
  run : 0 ∉ layout.run
  lifecycleLog : 0 ∉ layout.lifecycleLog

/-- The command of a start or a restart is built, and its text is known; everything in it that could
upset the shell is quoted. -/
theorem lifecycleCommand_text {cgroup : CgroupPolicy} {usb : HostUsbPolicy} {ids : List UsbDeviceId}
    (clean : layout.Clean) (named : Named preferences cgroup usb ids)
    (launching : operation = .start ∨ operation = .restart) :
    ∃ command, lifecycleCommand preferences layout operation = some command ∧
      encoded command = launchText motd (rootfsPath ++ "/etc/motd".toList)
        (encoded layout.namespaceProbeBinary) operation.argument
        (launchValues layout cgroup preferences.pidNamespaceFallbackSetting usb ids) := by
  obtain ⟨cgroupClean, cgroupBytes⟩ := literal_argument _ (cgroupPolicyText_ascii cgroup)
  obtain ⟨usbClean, usbBytes⟩ := literal_argument _ (hostUsbPolicyName_ascii usb)
  have fallbackAscii : ∀ character ∈ fallbackText preferences.pidNamespaceFallbackSetting,
      0 < character.toNat ∧ character.toNat < 0x80 := by
    cases preferences.pidNamespaceFallbackSetting <;> exact ascii_of_all (by decide)
  have filterAscii : ∀ character ∈ (if idList ids = [] then ['-'] else idList ids),
      0 < character.toNat ∧ character.toNat < 0x80 := by
    split
    · exact ascii_of_all (by decide)
    · exact idList_ascii named.listed
  obtain ⟨fallbackClean, fallbackBytes⟩ := literal_argument _ fallbackAscii
  obtain ⟨filterClean, filterBytes⟩ := literal_argument _ filterAscii
  obtain ⟨motdClean, motdBytes⟩ := literal_argument motd (ascii_of_all (by decide))
  obtain ⟨fileClean, fileBytes⟩ :=
    literal_argument (rootfsPath ++ "/etc/motd".toList) (ascii_of_all (by decide))
  obtain ⟨rootClean, rootBytes⟩ := literal_argument rootfsPath (ascii_of_all (by decide))
  obtain ⟨message, messageBuilt, messageEncodes⟩ := encodes_shellQuote motdClean
  obtain ⟨file, fileBuilt, fileEncodes⟩ := encodes_shellQuote fileClean
  obtain ⟨binary, binaryBuilt, binaryEncodes⟩ := encodes_shellQuote clean.namespaceProbeBinary
  obtain ⟨root, rootBuilt, rootEncodes⟩ := encodes_quotedArgument rootClean
  obtain ⟨run, runBuilt, runEncodes⟩ := encodes_quotedArgument clean.run
  obtain ⟨log, logBuilt, logEncodes⟩ := encodes_quotedArgument clean.lifecycleLog
  obtain ⟨policy, policyBuilt, policyEncodes⟩ := encodes_quotedArgument cgroupClean
  obtain ⟨fallback, fallbackBuilt, fallbackEncodes⟩ := encodes_quotedArgument fallbackClean
  obtain ⟨mode, modeBuilt, modeEncodes⟩ := encodes_quotedArgument usbClean
  obtain ⟨filter, filterBuilt, filterEncodes⟩ := encodes_quotedArgument filterClean
  rw [motdBytes] at messageEncodes
  rw [fileBytes] at fileEncodes
  rw [rootBytes] at rootEncodes
  rw [cgroupBytes] at policyEncodes
  rw [fallbackBytes] at fallbackEncodes
  rw [usbBytes] at modeEncodes
  rw [filterBytes] at filterEncodes
  have printf : Encodes (literal "printf %s ".toList) "printf %s ".toList := encodes_literal (by decide)
  have redirect : Encodes (literal " > ".toList) " > ".toList := encodes_literal (by decide)
  have both : Encodes (literal " && ".toList) " && ".toList := encodes_literal (by decide)
  have name : Encodes (literal (' ' :: operation.argument)) (' ' :: operation.argument) :=
    encodes_literal (by cases operation <;> decide)
  have greetingBuilt : motdCommand = some (literal "printf %s ".toList ++ message ++
      literal " > ".toList ++ file) := by
    simp only [motdCommand, messageBuilt, fileBuilt, Option.bind_eq_bind, Option.bind_some,
      Option.pure_def]
  have launchBuilt : launcherCommand layout operation =
      some (binary ++ literal (' ' :: operation.argument) ++ root ++ run) := by
    simp only [launcherCommand, binaryBuilt, rootBuilt, runBuilt, Option.bind_eq_bind,
      Option.bind_some, Option.pure_def]
  have filterSame : (if preferences.usbExclusiveDeviceIdsSetting = [] then literal "-".toList
      else preferences.usbExclusiveDeviceIdsSetting) =
      literal (if idList ids = [] then ['-'] else idList ids) := by
    rw [named.deviceIds]
    by_cases none : idList ids = []
    · rw [if_pos none, if_pos (by rw [none]; rfl)]
      rfl
    · rw [if_neg none, if_neg (by simpa [literal] using none)]
  have settingsBuilt : settingsArguments preferences layout =
      some (log ++ policy ++ fallback ++ mode ++ filter) := by
    rw [fallbackText] at fallbackBuilt
    simp only [settingsArguments, named.cgroupPolicy, named.usbMode, filterSame, logBuilt, policyBuilt,
      fallbackBuilt, modeBuilt, filterBuilt, Option.bind_eq_bind, Option.bind_some, Option.pure_def]
  have greeting := ((printf.append messageEncodes).append redirect).append fileEncodes
  have launch := ((binaryEncodes.append name).append rootEncodes).append runEncodes
  have settings := (((logEncodes.append policyEncodes).append fallbackEncodes).append
    modeEncodes).append filterEncodes
  refine ⟨_, ?_, (((greeting.append both).append launch).append settings).bytes.trans ?_⟩
  · simp only [lifecycleCommand, launchBuilt, greetingBuilt, settingsBuilt, if_pos launching,
      Option.bind_eq_bind, Option.bind_some, Option.pure_def]
  · unfold launchText launchValues
    simp only [List.flatMap_cons, List.flatMap_nil, List.append_assoc, List.cons_append, List.append_nil]

/-- With four options the first word decides. -/
theorem launcherMain_launch {binary root controlDir logPath : Text} {options : List Text}
    (four : options.length = 4) (launching : operation = .start ∨ operation = .restart) :
    launcherMain (binary :: operation.argument :: root :: controlDir :: logPath :: options) =
      (parseLaunchArguments root controlDir logPath options).map
        (if operation = .start then Invocation.start else Invocation.restart) := by
  unfold launcherMain
  dsimp only
  rcases launching with rfl | rfl
  · rw [if_pos ⟨Nat.le_of_eq four, rfl⟩, if_pos rfl]
  · rw [if_neg (fun start => absurd start.2 (by decide)), if_pos ⟨Nat.le_of_eq four, rfl⟩,
      if_neg (by decide)]

/-- The launcher accepts these words, and the settings that it starts with are the ones they were made
of. -/
theorem launcherMain_launchValues {cgroup : CgroupPolicy} {usb : HostUsbPolicy} {ids : List UsbDeviceId}
    {binary : List Char} {allowFallback : Bool} (listed : Listed ids)
    (filled : usb = .exclusive → ids ≠ []) (launching : operation = .start ∨ operation = .restart) :
    launcherMain (binary :: operation.argument :: launchValues layout cgroup allowFallback usb ids) =
      .ok ((if operation = .start then Invocation.start else Invocation.restart)
        { root := rootfsPath, controlDir := encoded layout.run, logPath := encoded layout.lifecycleLog,
          cgroupPolicy := cgroup, allowFallback, hostUsbPolicy := usb, usbDeviceFilter := ids }) := by
  have cgroupRead : parseCgroupPolicy (some (cgroupPolicyText cgroup)) = some cgroup := by
    cases cgroup <;> decide
  have explicit : isExplicitLaunchPolicy (some (fallbackText allowFallback)) = true := by
    cases allowFallback <;> decide
  have fallbackRead : parseLaunchPolicy (some (fallbackText allowFallback)) = some allowFallback := by
    cases allowFallback <;> decide
  have usbRead : parseHostUsbPolicy (some (hostUsbPolicyName usb)) = some usb := by
    cases usb <;> decide
  have accepted : ¬ (usb = .exclusive ∧ ids.length = 0) :=
    fun refused => filled refused.1 (List.length_eq_zero_iff.mp refused.2)
  have read : parseLaunchArguments rootfsPath (encoded layout.run) (encoded layout.lifecycleLog)
      [cgroupPolicyText cgroup, fallbackText allowFallback, hostUsbPolicyName usb,
        if idList ids = [] then ['-'] else idList ids] =
      .ok { root := rootfsPath, controlDir := encoded layout.run, logPath := encoded layout.lifecycleLog,
            cgroupPolicy := cgroup, allowFallback, hostUsbPolicy := usb, usbDeviceFilter := ids } := by
    simp only [parseLaunchArguments, List.getElem?_cons_zero, List.getElem?_cons_succ,
      Option.getD_some, explicit, if_true, expectArgument, cgroupRead, fallbackRead, usbRead,
      parseUsbDeviceFilter_idList listed, bind, Except.bind, pure, Except.pure, if_neg accepted]
  rw [launchValues, launcherMain_launch rfl launching, read]
  rfl

/-- Settings that are saved reach the launcher: the command of a start or a restart is split into the
words of the launcher, `main` accepts them and starts with what is stored. -/
theorem settings_reach_launcher (reachable : Reachable preferences) (clean : layout.Clean)
    (launching : operation = .start ∨ operation = .restart) :
    ∃ command argv arguments,
      lifecycleCommand preferences layout operation = some command ∧
        Shell.commands (encoded command) =
          some [⟨["printf".toList, "%s".toList, motd], [rootfsPath ++ "/etc/motd".toList]⟩,
            ⟨encoded layout.namespaceProbeBinary :: argv, []⟩] ∧
        launcherMain (encoded layout.namespaceProbeBinary :: argv) =
          .ok ((if operation = .start then Invocation.start else Invocation.restart) arguments) ∧
        arguments.root = rootfsPath ∧ arguments.controlDir = encoded layout.run ∧
        arguments.logPath = encoded layout.lifecycleLog ∧ Carries preferences arguments := by
  have stored := stored_of_reachable reachable
  obtain ⟨cgroup, usb, ids, named⟩ := stored.named
  obtain ⟨cgroupSame, usbSame, idsSame⟩ := stored.settings
  obtain ⟨command, built, text⟩ := lifecycleCommand_text clean named launching
  have split : operation.argument = "start".toList ∨ operation.argument = "restart".toList :=
    launching.imp (fun start => by rw [start]; rfl) (fun restart => by rw [restart]; rfl)
  have words : Shell.commands (encoded command) = _ :=
    (congrArg Shell.commands text).trans (commands_launchText split)
  refine ⟨command, _, _, built, words,
    launcherMain_launchValues named.listed named.filled launching, rfl, rfl, rfl, ?_⟩
  constructor
  · rw [← cgroupSame, named.cgroupPolicy]
  · rfl
  · rw [← usbSame, named.usbMode]
  · rw [← idsSame, named.deviceIds]

end Settings

/-- One device for Debian alone, as a user may type it. -/
def exclusiveArguments : SaveArguments where
  enabled := true
  allowCeReadableBfu := false
  cgroupPolicy := some (literal "v2".toList)
  pidNamespaceFallback := true
  dockerNetworkPolicy := none
  dockerHostIpcCompatibility := false
  dockerStorageDriver := none
  usbPassthroughMode := some (literal "exclusive".toList)
  usbExclusiveDeviceIds := some (literal " 0BDA:8153,\n0bda:8153 1d6b:0002 ".toList)
  hardwareCodecBridge := false

def exclusivePreferences : StoredPreferences where
  enabled := some true
  allowCeReadableBfu := some false
  cgroupPolicy := some cgroupV2
  pidNamespaceFallback := some true
  dockerNetworkPolicy := some dockerHostOnly
  dockerHostIpcCompatibility := some false
  dockerStorageDriver := some dockerStorageOverlay2
  usbPassthroughMode := some usbPassthroughExclusive
  usbExclusiveDeviceIds := some (literal "0bda:8153,1d6b:0002".toList)
  hardwareCodecBridge := some false

/-- Paths with a blank and a quote in them. -/
def oddLayout : Layout where
  namespaceProbeBinary := literal "/data/it's here/probe".toList
  run := literal "/data/run dir".toList
  lifecycleLog := literal "/data/lifecycle.log".toList

/-- Saving the sample settings stores the sample preferences. -/
theorem save_exclusiveArguments : save exclusiveArguments = .ok exclusivePreferences := by decide +kernel

theorem settings_reach_launcher_exclusive :
    ∃ command argv arguments,
      lifecycleCommand exclusivePreferences oddLayout .restart = some command ∧
        Shell.commands (encoded command) =
          some [⟨["printf".toList, "%s".toList, motd], [rootfsPath ++ "/etc/motd".toList]⟩,
            ⟨encoded oddLayout.namespaceProbeBinary :: argv, []⟩] ∧
        launcherMain (encoded oddLayout.namespaceProbeBinary :: argv) =
          .ok ((if Operation.restart = .start then Invocation.start else Invocation.restart)
            arguments) ∧
        arguments.root = rootfsPath ∧ arguments.controlDir = encoded oddLayout.run ∧
        arguments.logPath = encoded oddLayout.lifecycleLog ∧ Carries exclusivePreferences arguments :=
  settings_reach_launcher (.saved (.fresh none) exclusiveArguments save_exclusiveArguments)
    ⟨by decide, by decide, by decide⟩ (.inr rfl)

end DawnShell.App
