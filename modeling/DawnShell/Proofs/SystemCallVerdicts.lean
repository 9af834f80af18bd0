/-
Module: DawnShell.Proofs.SystemCallVerdicts
Layer: Proofs
Purpose: What the filters of the launcher answer.  Each part of a filter has one rule, and a filter's
  verdict follows from the rules of its parts in their order.  On the architecture of the build the three
  filters together refuse what they name and nothing else; a call of another architecture passes.
Trusted boundary: none
Main exports: filters_return, ipcFilter_verdict, seccomp_verdicts, ipc_refused_iff
-/
import DawnShell.Launcher.SystemCallFilters

namespace DawnShell.Launcher.Filters

open Seccomp

variable {build : Build} {record : Record} {arch nr operand refusal accumulator value : UInt32}
  {test : Test} {number : Option UInt32} {rest : List Instruction}

/-! ### Jumps -/

/-- Behind the gate for the architecture a filter is closed when what follows it is: both of its jumps
stay inside. -/
theorem closed_archGate (occupied : rest ≠ []) (closed : Seccomp.Closed rest) :
    Seccomp.Closed (archGate arch ++ rest) := by
  have remaining := List.length_pos_iff.mpr occupied
  simp [archGate, Seccomp.Closed, Instruction.Inside, archOffset, nrOffset, closed, remaining]

/-- The check of an argument jumps to its own refusal or to what follows it, and nowhere else. -/
theorem closed_argumentCheck (occupied : rest ≠ []) (closed : Seccomp.Closed rest) :
    Seccomp.Closed (argumentCheck test operand refusal nr ++ rest) := by
  have remaining := List.length_pos_iff.mpr occupied
  simp [argumentCheck, Seccomp.Closed, Instruction.Inside, argumentOffset, closed, remaining]

/-- The check of a call jumps to its own refusal or to what follows it, and nowhere else. -/
theorem closed_callCheck (occupied : rest ≠ []) (closed : Seccomp.Closed rest) :
    Seccomp.Closed (callCheck refusal nr ++ rest) := by
  have remaining := List.length_pos_iff.mpr occupied
  simp [callCheck, Seccomp.Closed, Instruction.Inside, closed, remaining]

/-- Loading the number of the call again jumps nowhere. -/
theorem closed_reload (occupied : rest ≠ []) (closed : Seccomp.Closed rest) :
    Seccomp.Closed ([.load nrOffset] ++ rest) := by
  have remaining := List.length_pos_iff.mpr occupied
  simp [Seccomp.Closed, Instruction.Inside, nrOffset, closed, remaining]

/-- A check that is only compiled where the call has a number leaves the filter closed, whether it is
there or not. -/
theorem closed_ifDefined {instructions : UInt32 → List Instruction} (closed : Seccomp.Closed rest)
    (inside : ∀ nr, Seccomp.Closed (instructions nr ++ rest)) :
    Seccomp.Closed (ifDefined number instructions ++ rest) := by
  cases number with
  | none => exact closed
  | some nr => exact inside nr

theorem closed_allow : Seccomp.Closed [.ret allow] := ⟨trivial, trivial⟩

/-- The filter against new IPC namespaces runs off its end for no record, on every build. -/
theorem closed_ipcFilter : Seccomp.Closed (build.ipcFilter arch) := by
  have third :
      Seccomp.Closed (ifDefined (build.number .clone3) (callCheck refuseUnknown) ++ [.ret allow]) :=
    closed_ifDefined closed_allow fun nr => closed_callCheck (by simp) closed_allow
  have second := closed_reload (by simp) third
  have second : Seccomp.Closed (ifDefined (build.number .clone)
      (argumentCheck .anySet cloneNewIpc refusePermission) ++ ([.load nrOffset] ++ _)) :=
    closed_ifDefined second fun nr => closed_argumentCheck (by simp) second
  have first := closed_reload (by simp) second
  have first : Seccomp.Closed (ifDefined (build.number .unshare)
      (argumentCheck .anySet cloneNewIpc refusePermission) ++ ([.load nrOffset] ++ _)) :=
    closed_ifDefined first fun nr => closed_argumentCheck (by simp) first
  have whole : Seccomp.Closed (archGate arch ++ _) := closed_archGate (by simp) first
  simpa [Build.ipcFilter] using whole

/-- The filter for `close_range` runs off its end for no record. -/
theorem closed_closeRangeFilter : Seccomp.Closed (Build.closeRangeFilter arch nr) := by
  have whole : Seccomp.Closed (archGate arch ++ (callCheck refuseUnknown nr ++ [.ret allow])) :=
    closed_archGate (by simp) (closed_callCheck (by simp) closed_allow)
  simpa [Build.closeRangeFilter] using whole

/-- The filter for keyrings runs off its end for no record. -/
theorem closed_keyringFilter : Seccomp.Closed (Build.keyringFilter arch nr) := by
  have whole : Seccomp.Closed (archGate arch ++
      (argumentCheck .equal keyctlJoinSessionKeyring refuseUnknown nr ++ [.ret allow])) :=
    closed_archGate (by simp) (closed_argumentCheck (by simp) closed_allow)
  simpa [Build.keyringFilter] using whole

/-- Every filter has an answer to every call, whatever numbers the headers define. -/
theorem filters_return (record : Record) {filter : List Instruction}
    (installed : filter = build.ipcFilter arch ∨ filter = Build.closeRangeFilter arch nr ∨
      filter = Build.keyringFilter arch nr) : ∃ value, verdict record filter = some value := by
  have inside : Seccomp.Closed filter ∧ filter ≠ [] := by
    rcases installed with rfl | rfl | rfl
    · exact ⟨closed_ipcFilter, by simp [Build.ipcFilter, archGate]⟩
    · exact ⟨closed_closeRangeFilter, by simp [Build.closeRangeFilter, archGate]⟩
    · exact ⟨closed_keyringFilter, by simp [Build.keyringFilter, archGate]⟩
  obtain ⟨value, returned⟩ := @returns_of_closed record filter inside.1 inside.2 0
  exact ⟨value, returned.verdict⟩

/-! ### Parts -/

/-- A record of another architecture gets what the gate gives it, and one of this architecture goes on
with its call number loaded. -/
theorem returns_archGate (foreign : record.arch ≠ arch → value = allow)
    (native : record.arch = arch → Returns record rest record.nr value) :
    Returns record (archGate arch ++ rest) accumulator value := by
  refine .load (word_archOffset record) (.jump ?_)
  by_cases same : record.arch = arch
  · simp only [Test.holds, beq_iff_eq, same, if_true]
    exact .load (word_nrOffset record) (native same)
  · simp only [Test.holds, beq_iff_eq, same, if_false]
    rw [foreign same]
    exact .ret

/-- A call with the argument that is tested for gets the refusal, and every other record goes on. -/
theorem returns_argumentCheck
    (refused : record.nr = nr → test.holds (record.low 0) operand = true → value = refusal)
    (passed : ¬(record.nr = nr ∧ test.holds (record.low 0) operand = true) →
      ∀ accumulator, Returns record rest accumulator value) :
    Returns record (argumentCheck test operand refusal nr ++ rest) record.nr value := by
  refine .jump ?_
  by_cases same : record.nr = nr
  · simp only [Test.holds, beq_iff_eq, same, if_true]
    refine .load (word_argumentOffset record 0) (.jump ?_)
    by_cases holds : test.holds (record.low 0) operand = true
    · rw [if_pos holds, refused same holds]
      exact .ret
    · rw [if_neg holds]
      exact passed (fun both => holds both.2) _
  · simp only [Test.holds, beq_iff_eq, same, if_false]
    exact passed (fun both => same both.1) _

/-- The call that is checked for gets the refusal, and every other one goes on. -/
theorem returns_callCheck (refused : record.nr = nr → value = refusal)
    (passed : record.nr ≠ nr → ∀ accumulator, Returns record rest accumulator value) :
    Returns record (callCheck refusal nr ++ rest) record.nr value := by
  refine .jump ?_
  by_cases same : record.nr = nr
  · simp only [Test.holds, beq_iff_eq, same, if_true]
    rw [refused same]
    exact .ret
  · simp only [Test.holds, beq_iff_eq, same, if_false]
    exact passed same _

/-- The number of the call is loaded again before it is compared again. -/
theorem returns_reload (returned : Returns record rest record.nr value) :
    Returns record ([.load nrOffset] ++ rest) accumulator value :=
  .load (word_nrOffset record) returned

/-- What gets to the end of the filter is allowed. -/
theorem returns_allow (allowed : value = allow) : Returns record [.ret allow] accumulator value := by
  rw [allowed]
  exact .ret

/-! ### Verdicts -/

/-- The record asks for a new IPC namespace by a call with flags. -/
def AsksNewIpc (record : Record) : Prop := record.low 0 &&& cloneNewIpc ≠ 0

instance : Decidable (AsksNewIpc record) := inferInstanceAs (Decidable (_ ≠ _))

/-- The record joins a session keyring, when it is of a `keyctl`. -/
def JoinsSession (record : Record) : Prop := record.low 0 = keyctlJoinSessionKeyring

instance : Decidable (JoinsSession record) := inferInstanceAs (Decidable (_ = _))

/-- The answer of `block_ipc_namespace_creation`, with whatever numbers the headers define. -/
def ipcVerdict (build : Build) (arch : UInt32) (record : Record) : UInt32 :=
  if record.arch ≠ arch then allow
  else if (build.number .unshare = some record.nr ∨ build.number .clone = some record.nr) ∧
      AsksNewIpc record then refusePermission
  else if build.number .clone3 = some record.nr then refuseUnknown
  else allow

/-- The test for set bits is the question whether the call asks for a new IPC namespace. -/
theorem anySet_holds : Test.anySet.holds (record.low 0) cloneNewIpc = true ↔ AsksNewIpc record := by
  simp [Test.holds, AsksNewIpc]

/-- The test for equality is the question whether the call joins a session keyring. -/
theorem equal_holds : Test.equal.holds (record.low 0) keyctlJoinSessionKeyring = true ↔
    JoinsSession record := by
  simp [Test.holds, JoinsSession]

/-- A check of flags of a call that the headers may not define. -/
theorem returns_flagCheck (refused : number = some record.nr → AsksNewIpc record → value = refusal)
    (passed : ¬(number = some record.nr ∧ AsksNewIpc record) → Returns record rest record.nr value) :
    Returns record (ifDefined number (argumentCheck .anySet cloneNewIpc refusal) ++
      ([.load nrOffset] ++ rest)) record.nr value := by
  cases number with
  | none => exact returns_reload (passed (by simp))
  | some nr =>
      simp only [Option.some.injEq, eq_comm (a := nr)] at refused passed
      apply returns_argumentCheck
      · intro same holds
        exact refused same (anySet_holds.mp holds)
      · intro fails _
        rw [anySet_holds] at fails
        exact returns_reload (passed fails)

/-- What the first filter returns for a record, case by case of its architecture, its call and its
flags. -/
theorem ipcFilter_verdict :
    verdict record (build.ipcFilter arch) = some (ipcVerdict build arch record) := by
  apply Returns.verdict
  simp only [Build.ipcFilter, List.append_assoc]
  apply returns_archGate
  · intro foreign
    rw [ipcVerdict, if_pos foreign]
  · intro native
    rw [ipcVerdict, if_neg (not_not.mpr native)]
    apply returns_flagCheck
    · intro unshare asks
      rw [if_pos ⟨.inl unshare, asks⟩]
    · intro notUnshare
      apply returns_flagCheck
      · intro clone asks
        rw [if_pos ⟨.inr clone, asks⟩]
      · intro notClone
        rw [if_neg (by tauto)]
        cases third : build.number .clone3 with
        | none => exact returns_allow (by simp)
        | some nr =>
            apply returns_callCheck
            · rintro rfl
              exact if_pos rfl
            · intro other _
              exact returns_allow (if_neg fun same => other (Option.some.inj same).symm)

/-- On its own architecture the second filter hides `close_range` and allows everything else. -/
theorem closeRangeFilter_verdict (native : record.arch = arch) :
    verdict record (Build.closeRangeFilter arch nr) =
      some (if record.nr = nr then refuseUnknown else allow) := by
  apply Returns.verdict
  simp only [Build.closeRangeFilter, List.append_assoc]
  apply returns_archGate fun foreign => absurd native foreign
  intro _
  apply returns_callCheck
  · exact fun same => if_pos same
  · exact fun other _ => returns_allow (if_neg other)

/-- On its own architecture the third filter hides joining a session keyring and allows everything else.
-/
theorem keyringFilter_verdict (native : record.arch = arch) :
    verdict record (Build.keyringFilter arch nr) =
      some (if record.nr = nr ∧ JoinsSession record then refuseUnknown else allow) := by
  apply Returns.verdict
  simp only [Build.keyringFilter, List.append_assoc]
  apply returns_archGate fun foreign => absurd native foreign
  intro _
  apply returns_argumentCheck
  · exact fun same holds => if_pos ⟨same, equal_holds.mp holds⟩
  · intro fails _
    rw [equal_holds] at fails
    exact returns_allow (if_neg fails)

/-! ### Installed filters -/

/-- What a kernel has installed is the filter that it was given. -/
theorem of_install {kernel : Build.Kernel} {filter installed : List Instruction} {success failure : Int}
    (taken : (Build.install kernel filter success failure).2 = some installed) : installed = filter := by
  rw [Build.install] at taken
  split at taken
  · exact (Option.some.inj taken).symm
  · cases taken

/-- An installed filter of this kind is the one built for the architecture of the target. -/
theorem of_blockIpcNamespaceCreation {kernel : Build.Kernel} {filter : List Instruction}
    (installed : (build.blockIpcNamespaceCreation kernel).2 = some filter) :
    ∃ arch, build.target.auditArch = some arch ∧ filter = build.ipcFilter arch := by
  rw [Build.blockIpcNamespaceCreation] at installed
  cases machine : build.target.auditArch with
  | none => simp [machine] at installed
  | some arch =>
      rw [machine] at installed
      exact ⟨arch, rfl, of_install installed⟩

/-- A guard that was installed is the filter that its guard was called with. -/
theorem of_guardInstall {policy : Option String} {measured : Int} {kernel : Build.Kernel}
    {filter installed : List Instruction}
    (taken : (Build.guardInstall policy measured kernel filter).2 = some installed) :
    installed = filter := by
  rw [Build.guardInstall] at taken
  split at taken
  · cases taken
  · split at taken
    · cases taken
    · exact of_install taken

/-- An installed guard for `close_range` is the filter with the number that this build has for the call.
-/
theorem of_installCloseRangeGuard {policy : Option String} {measured : Int} {kernel : Build.Kernel}
    {filter : List Instruction} (defined : build.number .closeRange = some nr)
    (machine : build.target.auditArch = some arch)
    (installed : (build.installCloseRangeGuard policy measured kernel).2 = some filter) :
    filter = Build.closeRangeFilter arch nr := by
  rw [Build.installCloseRangeGuard, defined, machine] at installed
  exact of_guardInstall installed

/-- An installed guard for keyrings is the filter with the number that this build has for `keyctl`. -/
theorem of_installKeyringGuard {policy : Option String} {measured : Int} {kernel : Build.Kernel}
    {filter : List Instruction} (defined : build.number .keyctl = some nr)
    (machine : build.target.auditArch = some arch)
    (installed : (build.installKeyringGuard policy measured kernel).2 = some filter) :
    filter = Build.keyringFilter arch nr := by
  rw [Build.installKeyringGuard, defined, machine] at installed
  exact of_guardInstall installed

/-! ### Results -/

/-- The calls that the filters answer with `EPERM`. -/
def Forbidden (numbers : SystemCall → UInt32) (record : Record) : Prop :=
  (record.nr = numbers .unshare ∨ record.nr = numbers .clone) ∧ AsksNewIpc record

/-- The calls that the filters answer with `ENOSYS`. -/
def Hidden (numbers : SystemCall → UInt32) (record : Record) : Prop :=
  record.nr = numbers .clone3 ∨ record.nr = numbers .closeRange ∨
    record.nr = numbers .keyctl ∧ JoinsSession record

/-- The verdicts of the three filters for a record of the architecture of the build, the newest first. -/
def nativeVerdicts (numbers : SystemCall → UInt32) (record : Record) : List UInt32 :=
  [if record.nr = numbers .keyctl ∧ JoinsSession record then refuseUnknown else allow,
   if record.nr = numbers .closeRange then refuseUnknown else allow,
   if (record.nr = numbers .unshare ∨ record.nr = numbers .clone) ∧ AsksNewIpc record then refusePermission
   else if record.nr = numbers .clone3 then refuseUnknown
   else allow]

/-- On its own architecture the three filters together return the strictest of their verdicts. -/
theorem combine_native {numbers : SystemCall → UInt32}
    (defined : ∀ call, build.number call = some (numbers call)) :
    combine record [Build.keyringFilter record.arch (numbers .keyctl),
        Build.closeRangeFilter record.arch (numbers .closeRange), build.ipcFilter record.arch] =
      some ((nativeVerdicts numbers record).foldl restrict allow) := by
  have ipc : ipcVerdict build record.arch record =
      if (record.nr = numbers .unshare ∨ record.nr = numbers .clone) ∧ AsksNewIpc record then
        refusePermission
      else if record.nr = numbers .clone3 then refuseUnknown
      else allow := by
    simp only [ipcVerdict, defined, Option.some.injEq, ne_eq, not_true_eq_false, if_false,
      eq_comm (a := numbers _)]
  simp only [combine, List.mapM_cons, List.mapM_nil, keyringFilter_verdict, closeRangeFilter_verdict,
    ipcFilter_verdict, ipc]
  rfl

theorem refusePermission_below : action refusePermission < action allow := by decide
theorem refuseUnknown_below : action refuseUnknown < action allow := by decide

section Native

variable {numbers : SystemCall → UInt32}

/-- A call that is forbidden is refused for want of permission, since no other filter is stricter. -/
theorem verdicts_of_forbidden (distinct : numbers.Injective) (forbidden : Forbidden numbers record) :
    (nativeVerdicts numbers record).foldl restrict allow = refusePermission := by
  obtain ⟨flags, asks⟩ := forbidden
  have others : record.nr ≠ numbers .keyctl ∧ record.nr ≠ numbers .closeRange := by
    rcases flags with same | same <;> rw [same] <;> exact ⟨distinct.ne (by simp), distinct.ne (by simp)⟩
  simp [nativeVerdicts, others, flags, asks, restrict, refusePermission_below]

/-- A call that is hidden fails as one that the kernel does not know. -/
theorem verdicts_of_hidden (distinct : numbers.Injective) (hidden : Hidden numbers record) :
    (nativeVerdicts numbers record).foldl restrict allow = refuseUnknown := by
  have others : record.nr ≠ numbers .unshare ∧ record.nr ≠ numbers .clone := by
    rcases hidden with same | same | ⟨same, _⟩ <;> rw [same] <;>
      exact ⟨distinct.ne (by simp), distinct.ne (by simp)⟩
  have known : ∀ value ∈ nativeVerdicts numbers record, value = allow ∨ value = refuseUnknown := by
    simp only [nativeVerdicts, others, false_or, false_and, if_false, List.forall_mem_cons]
    refine ⟨?_, ?_, ?_, by simp⟩ <;> split <;> simp
  rw [foldl_restrict refuseUnknown_below known (.inl rfl), if_pos]
  apply List.mem_cons_of_mem
  rcases hidden with same | same | ⟨same, joins⟩
  · rw [same] at others
    simp [nativeVerdicts, same, others]
  · simp [nativeVerdicts, same]
  · simp [nativeVerdicts, same, joins]

/-- A call that is neither forbidden nor hidden is allowed by all three filters. -/
theorem verdicts_of_neither (allowed : ¬Forbidden numbers record) (shown : ¬Hidden numbers record) :
    (nativeVerdicts numbers record).foldl restrict allow = allow := by
  simp only [Hidden, not_or] at shown
  rw [Forbidden] at allowed
  simp [nativeVerdicts, shown, allowed, restrict]

/-- On the architecture of the build the three filters together give `EPERM` for the calls that ask for
an IPC namespace by flags, `ENOSYS` for `clone3`, `close_range` and the joining of a session keyring, and
allow every other call. -/
theorem seccomp_verdicts {ipc closeRange keyring : List Instruction}
    {ipcKernel closeRangeKernel keyringKernel : Build.Kernel}
    {closeRangePolicy keyringPolicy : Option String} {pathological breaksWrites : Int}
    (defined : ∀ call, build.number call = some (numbers call)) (distinct : numbers.Injective)
    (ipcInstalled : (build.blockIpcNamespaceCreation ipcKernel).2 = some ipc)
    (closeRangeInstalled :
      (build.installCloseRangeGuard closeRangePolicy pathological closeRangeKernel).2 = some closeRange)
    (keyringInstalled :
      (build.installKeyringGuard keyringPolicy breaksWrites keyringKernel).2 = some keyring)
    (native : build.target.auditArch = some record.arch) :
    (∀ filter ∈ [keyring, closeRange, ipc], Seccomp.Closed filter) ∧
      ∃ value, combine record [keyring, closeRange, ipc] = some value ∧
        (value = refusePermission ↔ Forbidden numbers record) ∧
        (value = refuseUnknown ↔ Hidden numbers record) ∧
        (value = allow ↔ ¬Forbidden numbers record ∧ ¬Hidden numbers record) := by
  obtain ⟨arch, machine, rfl⟩ := of_blockIpcNamespaceCreation ipcInstalled
  cases native.symm.trans machine
  obtain rfl := of_installCloseRangeGuard (defined _) native closeRangeInstalled
  obtain rfl := of_installKeyringGuard (defined _) native keyringInstalled
  refine ⟨by simp [closed_ipcFilter, closed_closeRangeFilter, closed_keyringFilter], ?_⟩
  rw [combine_native defined]
  refine ⟨_, rfl, ?_⟩
  have permission_ne_unknown : refusePermission ≠ refuseUnknown := by decide
  have permission_ne_allow : refusePermission ≠ allow := by decide
  have unknown_ne_allow : refuseUnknown ≠ allow := by decide
  by_cases forbidden : Forbidden numbers record
  · have shown : ¬Hidden numbers record := by
      intro hidden
      have same := verdicts_of_forbidden distinct forbidden
      rw [verdicts_of_hidden distinct hidden] at same
      exact permission_ne_unknown same.symm
    simp [verdicts_of_forbidden distinct forbidden, forbidden, shown, permission_ne_unknown,
      permission_ne_allow]
  · by_cases hidden : Hidden numbers record
    · simp [verdicts_of_hidden distinct hidden, forbidden, hidden, permission_ne_unknown.symm,
        unknown_ne_allow]
    · simp [verdicts_of_neither forbidden hidden, forbidden, hidden, permission_ne_allow.symm,
        unknown_ne_allow.symm]

end Native

/-- The numbers of a 64-bit ARM build. -/
def arm64Numbers : SystemCall → UInt32
  | .unshare => 97
  | .clone => 220
  | .clone3 => 435
  | .closeRange => 436
  | .keyctl => 219

def arm64Build : Build := ⟨.aarch64, fun call => some (arm64Numbers call)⟩

/-- `unshare(CLONE_NEWIPC)` of a 64-bit process. -/
def unshareRecord : Record := ⟨97, 0xC00000B7, 0, fun _ => 0x08000000⟩

theorem seccomp_verdicts_unshare :
    ∃ value, combine unshareRecord [Build.keyringFilter 0xC00000B7 219,
        Build.closeRangeFilter 0xC00000B7 436, arm64Build.ipcFilter 0xC00000B7] = some value ∧
      value = refusePermission := by
  have distinct : arm64Numbers.Injective := by
    intro first second same
    cases first <;> cases second <;> first | rfl | exact absurd same (by decide)
  have ipc : (arm64Build.blockIpcNamespaceCreation ⟨true, false⟩).2 = some _ := rfl
  have closeRange : (arm64Build.installCloseRangeGuard none 1 ⟨true, false⟩).2 = some _ := rfl
  have keyring : (arm64Build.installKeyringGuard none 1 ⟨true, false⟩).2 = some _ := rfl
  have native : arm64Build.target.auditArch = some unshareRecord.arch := rfl
  obtain ⟨-, value, combined, permission, -⟩ :=
    seccomp_verdicts (fun _ => rfl) distinct ipc closeRange keyring native
  exact ⟨value, combined, permission.mpr ⟨.inl rfl, by decide⟩⟩

/-! ### Other architectures -/

/-- The call creates an IPC namespace, or may do so, under the numbers of its architecture. -/
def CreatesIpcNamespace (numbering : UInt32 → UInt32 → Option SystemCall) (record : Record) : Prop :=
  match numbering record.arch record.nr with
  | some .unshare | some .clone => AsksNewIpc record
  | some .clone3 => True
  | _ => False

/-- The headers of the build give the calls the numbers of its architecture. -/
def Build.Honest (build : Build) (numbering : UInt32 → UInt32 → Option SystemCall) : Prop :=
  ∀ arch call nr, build.target.auditArch = some arch → build.number call = some nr →
    numbering arch nr = some call

/-- A call that creates an IPC namespace is refused exactly on the architecture of the build, under a
number that its headers define. -/
theorem ipc_refused_iff {numbering : UInt32 → UInt32 → Option SystemCall} {kernel : Build.Kernel}
    {filter : List Instruction} (honest : build.Honest numbering)
    (installed : (build.blockIpcNamespaceCreation kernel).2 = some filter)
    (creates : CreatesIpcNamespace numbering record) :
    (∃ value, verdict record filter = some value ∧ value ≠ allow) ↔
      build.target.auditArch = some record.arch ∧ ∃ call, build.number call = some record.nr := by
  obtain ⟨arch, machine, rfl⟩ := of_blockIpcNamespaceCreation installed
  have permission_ne_allow : refusePermission ≠ allow := by decide
  have unknown_ne_allow : refuseUnknown ≠ allow := by decide
  simp only [ipcFilter_verdict, Option.some.injEq, exists_eq_left', machine]
  constructor
  · intro refused
    rw [ipcVerdict] at refused
    split at refused
    · exact absurd rfl refused
    next native =>
      refine ⟨(not_not.mp native).symm, ?_⟩
      split at refused
      next flags => exact flags.1.elim (⟨_, ·⟩) (⟨_, ·⟩)
      next =>
        split at refused
        next third => exact ⟨_, third⟩
        next => exact absurd rfl refused
  · rintro ⟨rfl, call, defined⟩
    rw [CreatesIpcNamespace, honest _ call _ machine defined] at creates
    rw [ipcVerdict, if_neg (not_not.mpr rfl)]
    cases call with
    | unshare => rwa [if_pos ⟨.inl defined, creates⟩]
    | clone => rwa [if_pos ⟨.inr defined, creates⟩]
    | clone3 =>
        rw [if_pos defined]
        split
        · exact permission_ne_allow
        · exact unknown_ne_allow
    | closeRange | keyctl => cases creates

/-- The numbers of the 64-bit and of the 32-bit ARM kernel interface. -/
def armNumbering (arch nr : UInt32) : Option SystemCall :=
  if arch = 0xC00000B7 then
    if nr = 97 then some .unshare
    else if nr = 220 then some .clone
    else if nr = 435 then some .clone3
    else if nr = 436 then some .closeRange
    else if nr = 219 then some .keyctl
    else none
  else if arch = 0x40000028 then
    if nr = 337 then some .unshare
    else if nr = 120 then some .clone
    else if nr = 435 then some .clone3
    else if nr = 436 then some .closeRange
    else if nr = 311 then some .keyctl
    else none
  else none

/-- The numbers that the sample build has for its calls are those of the kernel. -/
theorem arm64_honest : arm64Build.Honest armNumbering := by
  intro arch call nr machine defined
  cases machine
  cases defined
  cases call <;> rfl

/-- `unshare(CLONE_NEWIPC)` of a 32-bit process on a 64-bit kernel. -/
def compatUnshareRecord : Record := ⟨337, 0x40000028, 0, fun _ => 0x08000000⟩

theorem ipc_refused_iff_unshare :
    ∃ value, verdict unshareRecord (arm64Build.ipcFilter 0xC00000B7) = some value ∧ value ≠ allow := by
  have installed : (arm64Build.blockIpcNamespaceCreation ⟨true, false⟩).2 = some _ := rfl
  have asks : AsksNewIpc unshareRecord := by decide
  have creates : CreatesIpcNamespace armNumbering unshareRecord := asks
  exact (ipc_refused_iff arm64_honest installed creates).mpr ⟨rfl, .unshare, rfl⟩

/-- A 32-bit process of a 64-bit build makes an IPC namespace, because a record of the other
architecture is allowed unseen. -/
theorem compat_unshare_allowed :
    arm64Build.Honest armNumbering ∧
      (arm64Build.blockIpcNamespaceCreation ⟨true, false⟩).2 = some (arm64Build.ipcFilter 0xC00000B7) ∧
      CreatesIpcNamespace armNumbering compatUnshareRecord ∧
      verdict compatUnshareRecord (arm64Build.ipcFilter 0xC00000B7) = some allow := by
  have asks : AsksNewIpc compatUnshareRecord := by decide
  exact ⟨arm64_honest, rfl, asks, by decide⟩

end DawnShell.Launcher.Filters
