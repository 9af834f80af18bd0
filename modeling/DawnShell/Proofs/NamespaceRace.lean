/-
Module: DawnShell.Proofs.NamespaceRace
Layer: Proofs
Purpose: A command that comes to `setns` enters the namespaces of the process in its state record.  The
  start time is looked at before the namespace files are opened and again after it; a process that is
  gone does not come back, so that the one which was there at both looks was there at every open between
  them, whoever has had the pid since.
Trusted boundary: none
Main exports: Entry.Occupied, Entry.occupied_earlier, Entry.Found, Entry.namespace_entry_race_free
-/
import DawnShell.Launcher.NamespaceEntry

namespace DawnShell.Launcher.Entry

open Interaction Relation

variable {world next : ProcessWorld} {pid : Pid} {ticks : UInt64}

/-! ### Processes do not come back -/

abbrev Later : ProcessWorld → ProcessWorld → Prop := ReflTransGen Environment

/-- The process with this start time is at the pid. -/
def Occupied (world : ProcessWorld) (pid : Pid) (ticks : UInt64) : Prop :=
  ∃ row, world.table pid = some row ∧ row.startTicks = ticks

/-- A process that is at a pid has been born there, with the namespaces it was given. -/
theorem Occupied.known (occupied : Occupied world pid ticks) : (world.born pid ticks).isSome = true := by
  obtain ⟨row, there, rfl⟩ := occupied
  exact world.known pid row there

/-- What a process was born with does not change when the world takes a step around an entry. -/
theorem born_kept (step : Environment world next) {namespaces : NamespaceKind → NamespaceObject}
    (born : world.born pid ticks = some namespaces) : next.born pid ticks = some namespaces := by
  cases step with
  | @spawns other row _ _ fresh _ after =>
      rw [after]
      by_cases samePid : pid = other
      · subst samePid
        by_cases sameTicks : ticks = row.startTicks
        · subst sameTicks
          cases fresh.symm.trans born
        · rw [Function.update_self, Function.update_of_ne sameTicks]
          exact born
      · rw [Function.update_of_ne samePid]
        exact born
  | changes _ _ _ same | reaped _ same | rewrites _ same =>
      rw [same]
      exact born

/-- What a process was born with is the same in every later world. -/
theorem born_later (later : Later world next) {namespaces : NamespaceKind → NamespaceObject}
    (born : world.born pid ticks = some namespaces) : next.born pid ticks = some namespaces := by
  induction later with
  | refl => exact born
  | tail _ step ih => exact born_kept step ih

/-- A process that has been before a step, and is there after it, is there before it. -/
theorem occupied_before (step : Environment world next)
    (known : (world.born pid ticks).isSome = true) (occupied : Occupied next pid ticks) :
    Occupied world pid ticks := by
  obtain ⟨found, there, rfl⟩ := occupied
  cases step with
  | @spawns other row _ _ fresh table =>
      rw [table] at there
      by_cases same : pid = other
      · subst same
        rw [Function.update_self] at there
        cases there
        rw [fresh] at known
        cases known
      · rw [Function.update_of_ne same] at there
        exact ⟨found, there, rfl⟩
  | @changes other row changed before same table =>
      rw [table] at there
      by_cases here : pid = other
      · subst here
        rw [Function.update_self] at there
        cases there
        exact ⟨row, before, same.symm⟩
      · rw [Function.update_of_ne here] at there
        exact ⟨found, there, rfl⟩
  | @reaped other table =>
      rw [table] at there
      by_cases same : pid = other
      · subst same
        rw [Function.update_self] at there
        cases there
      · rw [Function.update_of_ne same] at there
        exact ⟨found, there, rfl⟩
  | rewrites table =>
      rw [table] at there
      exact ⟨found, there, rfl⟩

/-- A process that has been, and is there at last, has been there all the time. -/
theorem occupied_earlier (later : Later world next) (known : (world.born pid ticks).isSome = true)
    (occupied : Occupied next pid ticks) : Occupied world pid ticks := by
  induction later using ReflTransGen.head_induction_on with
  | refl => exact occupied
  | head step rest ih =>
      apply occupied_before step known
      apply ih
      obtain ⟨namespaces, born⟩ := Option.isSome_iff_exists.mp known
      rw [born_kept step born]
      rfl

/-! ### Identity checks -/

/-- Between the two worlds the recorded process was at its pid, and after that with the recorded
executable. -/
def Found (recorded : Recorded) (before after : ProcessWorld) : Prop :=
  ∃ ticksAt exeAt row, Later before ticksAt ∧ Occupied ticksAt recorded.pid recorded.startTicks ∧
    Later ticksAt exeAt ∧ exeAt.table recorded.pid = some row ∧ row.exeDev = recorded.exeDev ∧
    row.exeIno = recorded.exeIno ∧ Later exeAt after

/-- When the start time and then the executable agree, the recorded process was there at the first look
and the executable was its own at the second, whatever happened in between. -/
theorem identity_found (recorded : Recorded) (checks : List (EntryProgram Bool))
    (world : ProcessWorld) :
    Withstands Environment answers world (checkAll (ticksAgree recorded :: exeAgrees recorded :: checks))
      fun last passed => passed = true → Found recorded world last := by
  apply withstands_bind
  apply withstands_call
  intro ticksAt ticks waited looked
  apply withstands_pure
  split
  next same =>
    rw [beq_iff_eq] at same
    subst same
    apply withstands_bind
    apply withstands_call
    intro exeAt identity meanwhile seen
    apply withstands_pure
    split
    next same =>
      rw [beq_iff_eq] at same
      subst same
      obtain ⟨row, there, _, device, inode⟩ := seen
      refine withstands_later.mono ?_
      intro last _ after _
      exact ⟨ticksAt, exeAt, row, waited, looked, meanwhile, there, device, inode, after⟩
    next => exact withstands_pure nofun
  next => exact withstands_pure nofun

/-- A successful check of init, in an environment that may change before each of its looks, finds the
recorded init. -/
theorem validateInitIdentity_found (state : LauncherState) (world : ProcessWorld) :
    Withstands Environment answers world (validateInitIdentity state)
      fun last passed => passed = true → Found state.init world last := by
  rw [validateInitIdentity]
  split
  next => exact identity_found _ _ _
  next => exact withstands_pure nofun

/-- A successful check of the compat service, in an environment that may change before each of its
looks, finds the recorded process. -/
theorem validateCompatServiceIdentity_found (state : LauncherState) (world : ProcessWorld) :
    Withstands Environment answers world (validateCompatServiceIdentity state)
      fun last passed => passed = true → Found state.init world last := by
  rw [validateCompatServiceIdentity]
  split
  next => exact identity_found _ _ _
  next => exact withstands_pure nofun

/-- What one of the checks finds, all of them together find, since all of them have to pass before a
namespace is entered. -/
theorem checkAll_found {recorded : Recorded} {check : EntryProgram Bool}
    (finds : ∀ world, Withstands Environment answers world check
      fun last passed => passed = true → Found recorded world last)
    {checks : List (EntryProgram Bool)} (among : check ∈ checks) (world : ProcessWorld) :
    Withstands Environment answers world (checkAll checks)
      fun last passed => passed = true → Found recorded world last := by
  induction checks generalizing world with
  | nil => cases among
  | cons first checks ih =>
      apply withstands_bind
      rcases List.mem_cons.mp among with rfl | later
      · refine (finds world).mono ?_
        intro middle passed found
        split
        next yes =>
          obtain ⟨ticksAt, exeAt, row, waited, looked, meanwhile, there, device, inode, after⟩ := found yes
          refine withstands_later.mono ?_
          intro last _ rest _
          exact ⟨ticksAt, exeAt, row, waited, looked, meanwhile, there, device, inode, after.trans rest⟩
        next => exact withstands_pure nofun
      · refine withstands_later.mono ?_
        intro middle passed before
        split
        next =>
          refine (ih later middle).mono ?_
          intro last passed found yes
          obtain ⟨ticksAt, exeAt, row, waited, rest⟩ := found yes
          exact ⟨ticksAt, exeAt, row, before.trans waited, rest⟩
        next => exact withstands_pure nofun

/-! ### Descriptors -/

/-- The descriptor has been opened through the pid, between the two worlds. -/
def OpenedBetween (pid : Pid) (before after : ProcessWorld) (descriptor : Descriptor) : Prop :=
  ∃ opened namespaces, Later before opened ∧ Later opened after ∧ opened.shows pid namespaces ∧
    descriptor.target = namespaces descriptor.kind

/-- The descriptors are namespaces of the recorded process, which has been seen with the recorded
executable. -/
def Genuine (recorded : Recorded) (first last : ProcessWorld) (descriptors : List Descriptor) : Prop :=
  ∃ namespaces, last.born recorded.pid recorded.startTicks = some namespaces ∧
    (∀ descriptor ∈ descriptors, descriptor.target = namespaces descriptor.kind) ∧
    ∃ seen row, Later first seen ∧ Later seen last ∧ seen.table recorded.pid = some row ∧
      row.startTicks = recorded.startTicks ∧ row.exeDev = recorded.exeDev ∧
      row.exeIno = recorded.exeIno

/-- What is opened through the pid while the process is there belongs to it. -/
theorem shown_eq_born {namespaces shown : NamespaceKind → NamespaceObject}
    (occupied : Occupied world pid ticks) (born : world.born pid ticks = some namespaces)
    (shows : world.shows pid shown) : shown = namespaces := by
  obtain ⟨row, there, same⟩ := occupied
  obtain ⟨found, here, _, found_born⟩ := shows
  cases there.symm.trans here
  rw [same, born] at found_born
  exact (Option.some.inj found_born).symm

/-- Descriptors that are opened between two checks that both find the recorded process lead to the
namespaces of that process. -/
theorem genuine_of_found {recorded : Recorded} {first checked opened last : ProcessWorld}
    {descriptors : List Descriptor} (before : Found recorded first checked)
    (between : Later checked opened) (after : Found recorded opened last)
    (through : ∀ descriptor ∈ descriptors, OpenedBetween recorded.pid checked opened descriptor) :
    Genuine recorded first last descriptors := by
  obtain ⟨ticksAt, exeAt, row, waited, occupied, meanwhile, there, device, inode, rest⟩ := before
  obtain ⟨againAt, secondExeAt, _, reopened, stillOccupied, onward, _, _, _, ending⟩ := after
  obtain ⟨namespaces, born⟩ := Option.isSome_iff_exists.mp occupied.known
  -- whoever is at the pid between the two looks at its start time is the recorded process
  have resident {here : ProcessWorld} (since : Later ticksAt here) (upTo : Later here againAt) :
      here.born recorded.pid recorded.startTicks = some namespaces ∧
        Occupied here recorded.pid recorded.startTicks := by
    have kept := born_later since born
    refine ⟨kept, occupied_earlier upTo ?_ stillOccupied⟩
    rw [kept]
    rfl
  have toLast : Later opened last := reopened.trans (onward.trans ending)
  refine ⟨namespaces, ?_, ?_, exeAt, row, waited.trans meanwhile, ?_, there, ?_, device, inode⟩
  · exact born_later (meanwhile.trans (rest.trans (between.trans toLast))) born
  · intro descriptor member
    obtain ⟨here, shown, since, upTo, shows, target⟩ := through descriptor member
    obtain ⟨kept, stays⟩ := resident (meanwhile.trans (rest.trans since)) (upTo.trans reopened)
    rw [target, shown_eq_born stays kept shows]
  · exact rest.trans (between.trans toLast)
  · obtain ⟨_, found, here, same⟩ := resident meanwhile (rest.trans (between.trans reopened))
    cases there.symm.trans here
    exact same

/-- A required check attains what its success means, for its failure ends the command. -/
theorem require_attains {program : EntryProgram Bool} {stage text : String} {exit : Nat}
    {post : ProcessWorld → Prop}
    (holds : Withstands Environment answers world program fun last passed =>
      passed = true → post last) :
    Attains Environment answers world (require program stage text exit) fun last _ => post last := by
  apply attains_bind
  apply attains_lift
  refine holds.mono ?_
  intro last passed after
  split
  next yes => exact attains_pure (after yes)
  next => exact attains_throw

/-- A descriptor leads to a namespace that the pid showed at some moment between the beginning and the
end of the call. -/
theorem openNamespace_attains (pid : Pid) (kind : NamespaceKind) {stage : String} {exit : Nat} :
    Attains Environment answers world (openNamespace pid kind stage exit) fun last descriptor =>
      Later world last ∧ OpenedBetween pid world last descriptor := by
  apply attains_bind
  apply attains_lift
  apply withstands_answer
  intro here answer waited answered
  cases answer with
  | ok descriptor =>
      obtain ⟨namespaces, shows, rfl⟩ := answered
      exact attains_pure ⟨waited, here, namespaces, waited, .refl, shows, rfl⟩
  | error errno => exact attains_throw

/-- A descriptor opened within a span of time was opened within every longer one. -/
theorem OpenedBetween.extend {before after earlier later : ProcessWorld} {descriptor : Descriptor}
    (opened : OpenedBetween pid before after descriptor) (since : Later earlier before)
    (upTo : Later after later) : OpenedBetween pid earlier later descriptor := by
  obtain ⟨here, namespaces, waited, rest, shows, target⟩ := opened
  exact ⟨here, namespaces, since.trans waited, rest.trans upTo, shows, target⟩

/-- Descriptors that are genuine since one moment are so since every earlier one. -/
theorem Genuine.since {recorded : Recorded} {earlier first last : ProcessWorld}
    {descriptors : List Descriptor} (genuine : Genuine recorded first last descriptors)
    (start : Later earlier first) : Genuine recorded earlier last descriptors := by
  obtain ⟨namespaces, born, targets, seen, row, waited, rest⟩ := genuine
  exact ⟨namespaces, born, targets, seen, row, start.trans waited, rest⟩

/-- The three descriptors that the Debian entry opens lead into the recorded init, for its identity is
checked before and behind them. -/
theorem openNamespaces_genuine (record : EntryRecord) :
    Attains Environment answers world (openNamespaces record) fun last prepared =>
      Genuine record.state.init world last [prepared.mount, prepared.pid, prepared.cgroup] := by
  apply attains_bind
  refine Attains.mono attains_later ?_
  intro started _ start
  apply attains_bind
  apply require_attains
  refine (checkAll_found (validateInitIdentity_found record.state) (by simp) started).mono ?_
  intro checked _ found passed
  have before := found passed
  apply attains_bind
  refine (openNamespace_attains _ _).mono ?_
  intro mountAt mount ⟨toMount, mountOpened⟩
  apply attains_bind
  refine (openNamespace_attains _ _).mono ?_
  intro pidAt pid ⟨toPid, pidOpened⟩
  apply attains_bind
  refine (openNamespace_attains _ _).mono ?_
  intro cgroupAt cgroup ⟨toCgroup, cgroupOpened⟩
  apply attains_bind
  apply require_attains
  refine (checkAll_found (validateInitIdentity_found record.state) (by simp) cgroupAt).mono ?_
  intro last _ found passed
  have after := found passed
  apply attains_pure
  have between := toMount.trans (toPid.trans toCgroup)
  refine (genuine_of_found before between after ?_).since start
  intro descriptor member
  simp only [List.mem_cons, List.not_mem_nil, or_false] at member
  rcases member with rfl | rfl | rfl
  · exact mountOpened.extend .refl (toPid.trans toCgroup)
  · exact pidOpened.extend toMount toCgroup
  · exact cgroupOpened.extend (toMount.trans toPid) .refl

/-- The two descriptors of the compat entry lead into the recorded process, for its identity is checked
before and behind them. -/
theorem openCompatMountNamespace_genuine (record : EntryRecord) :
    Attains Environment answers world (openCompatMountNamespace record) fun last prepared =>
      Genuine record.state.init world last [prepared.mount, prepared.uts] := by
  apply attains_bind
  apply require_attains
  refine (checkAll_found (validateCompatServiceIdentity_found record.state) (by simp) world).mono ?_
  intro checked _ found passed
  have before := found passed
  apply attains_bind
  refine (openNamespace_attains _ _).mono ?_
  intro mountAt mount ⟨toMount, mountOpened⟩
  apply attains_bind
  refine (openNamespace_attains _ _).mono ?_
  intro utsAt uts ⟨toUts, utsOpened⟩
  apply attains_bind
  apply require_attains
  refine (checkAll_found (validateCompatServiceIdentity_found record.state) (by simp) utsAt).mono ?_
  intro last _ found passed
  have after := found passed
  apply attains_pure
  apply genuine_of_found before (toMount.trans toUts) after
  intro descriptor member
  simp only [List.mem_cons, List.not_mem_nil, or_false] at member
  rcases member with rfl | rfl
  · exact mountOpened.extend .refl toUts
  · exact utsOpened.extend toMount .refl

/-! ### Which calls are made -/

/-- Every call but `setns`. -/
def Looks (request : EntryCall) : Prop := ∀ descriptor, request ≠ .setns descriptor

/-- Checks that only look at the system make a program that only looks. -/
theorem checkAll_looks {checks : List (EntryProgram Bool)}
    (looks : ∀ check ∈ checks, Calls Looks check) : Calls Looks (checkAll checks) := by
  induction checks with
  | nil => exact calls_pure _
  | cons check checks ih =>
      apply calls_bind (looks check (.head _))
      intro passed
      split
      · exact ih fun other member => looks other (.tail _ member)
      · exact calls_pure _

theorem ticksAgree_looks (recorded : Recorded) : Calls Looks (ticksAgree recorded) :=
  calls_bind (calls_call nofun) fun _ => calls_pure _

theorem exeAgrees_looks (recorded : Recorded) : Calls Looks (exeAgrees recorded) :=
  calls_bind (calls_call nofun) fun _ => calls_pure _

/-- The inode of a namespace is read from the link under `/proc` and opens nothing for entry. -/
theorem namespaceInode_looks (pid : Pid) (kind : NamespaceKind) :
    Calls Looks (namespaceInode pid kind) := by
  apply calls_bind (calls_call nofun)
  intro answer
  cases answer <;> exact calls_pure _

theorem optionalNamespaceInode_looks (pid : Pid) (kind : NamespaceKind) :
    Calls Looks (optionalNamespaceInode pid kind) := by
  apply calls_bind (calls_call nofun)
  intro answer
  cases answer <;> exact calls_pure _

theorem namespaceAgrees_looks (state : LauncherState) (kind : NamespaceKind) :
    Calls Looks (namespaceAgrees state kind) :=
  calls_bind (namespaceInode_looks _ _) fun _ => calls_pure _

theorem optionalNamespaceAgrees_looks (state : LauncherState) (kind : NamespaceKind) :
    Calls Looks (optionalNamespaceAgrees state kind) := by
  rw [optionalNamespaceAgrees]
  split
  · exact calls_pure _
  · exact namespaceAgrees_looks _ _

theorem signal_looks (pid : Pid) : Calls Looks (proc (.signal pid)) := calls_call nofun

theorem validateSupervisorIdentity_looks (state : LauncherState) :
    Calls Looks (validateSupervisorIdentity state) := by
  rw [validateSupervisorIdentity]
  split
  · apply checkAll_looks
    simp [ticksAgree_looks, exeAgrees_looks]
    exact signal_looks _
  · exact calls_pure _

theorem validateInitIdentity_looks (state : LauncherState) :
    Calls Looks (validateInitIdentity state) := by
  rw [validateInitIdentity]
  split
  · apply checkAll_looks
    simp [ticksAgree_looks, exeAgrees_looks, namespaceAgrees_looks, optionalNamespaceAgrees_looks]
    exact signal_looks _
  · exact calls_pure _

theorem validateCompatServiceIdentity_looks (state : LauncherState) :
    Calls Looks (validateCompatServiceIdentity state) := by
  rw [validateCompatServiceIdentity]
  split
  · apply checkAll_looks
    simp [ticksAgree_looks, exeAgrees_looks]
    exact signal_looks _
  · exact calls_pure _

/-- Reading several inodes only looks when reading each of them does. -/
theorem readInodes_looks {looks : List (EntryProgram (Option UInt64))}
    (each : ∀ look ∈ looks, Calls Looks look) : Calls Looks (readInodes looks) := by
  induction looks with
  | nil => exact calls_pure _
  | cons look looks ih =>
      apply calls_bind (each look (.head _))
      intro inode
      cases inode with
      | none => exact calls_pure _
      | some inode =>
          apply calls_bind (ih fun other member => each other (.tail _ member))
          exact fun _ => calls_pure _

theorem validateInitNamespaceTopology_looks (state : LauncherState) :
    Calls Looks (validateInitNamespaceTopology state) := by
  apply calls_bind
  · apply readInodes_looks
    simp [namespaceInode_looks, optionalNamespaceInode_looks]
  · intro inodes
    split <;> exact calls_pure _

theorem sharedAgrees_looks (state : LauncherState) (kind : NamespaceKind) :
    Calls Looks (sharedAgrees state kind) := by
  rw [sharedAgrees]
  split
  · exact calls_pure _
  · apply calls_bind
    · apply readInodes_looks
      simp [namespaceInode_looks]
    · intro inodes
      split <;> exact calls_pure _

theorem validateCompatNamespaceTopology_looks (state : LauncherState) :
    Calls Looks (validateCompatNamespaceTopology state) := by
  rw [validateCompatNamespaceTopology]
  split
  · exact calls_pure _
  · apply calls_bind
    · apply readInodes_looks
      simp [namespaceInode_looks]
    · intro inodes
      split
      · split
        · apply checkAll_looks
          simp [sharedAgrees_looks]
        · exact calls_pure _
      · exact calls_pure _

/-- The comparison of opened descriptors with the record enters none of them. -/
theorem descriptorsAgree_looks (state : LauncherState) (descriptors : List Descriptor) :
    Calls Looks (descriptorsAgree state descriptors) := by
  apply calls_bind
  · apply readInodes_looks
    intro look member
    obtain ⟨descriptor, _, rfl⟩ := List.mem_map.mp member
    exact calls_call nofun
  · intro inodes
    cases inodes <;> exact calls_pure _

/-- A required check makes no calls but those of the check. -/
theorem require_calls {allowed : EntryCall → Prop} {program : EntryProgram Bool} {stage text : String}
    {exit : Nat} (calls : Calls allowed program) :
    Calls allowed (require program stage text exit).run := by
  apply calls_except_bind (calls_lift calls)
  intro passed
  split <;> exact calls_pure _

/-- Reporting a failure makes no calls beyond those of the program that finds it. -/
theorem reported_calls {allowed : EntryCall → Prop} {program : EntryProgram (Option Failure)}
    (calls : Calls allowed program) : Calls allowed (reported program).run := by
  apply calls_except_bind (calls_lift calls)
  intro failure
  cases failure <;> exact calls_pure _

/-- An attempt makes no calls beyond those of its program. -/
theorem attemptEntry_calls {allowed : EntryCall → Prop} {program : EntryProgram (Option Errno)}
    {stage : String} {exit : Nat} (calls : Calls allowed program) :
    Calls allowed (attemptEntry program stage exit).run := by
  apply calls_except_bind (calls_lift calls)
  intro errno
  cases errno <;> exact calls_pure _

/-- Before an entry the supervisor is looked for under its lock and in the state file, without entering
anything. -/
theorem findSupervisor_looks (command : String) (exit : Nat) :
    Calls Looks (findSupervisor command exit).run := by
  apply calls_except_bind (reported_calls (calls_call nofun))
  intro _
  apply calls_except_bind (calls_lift (calls_call nofun))
  intro user
  apply calls_except_bind (require_calls (calls_pure _))
  intro _
  apply calls_except_bind (reported_calls (calls_call nofun))
  intro _
  apply calls_except_bind (attemptEntry_calls (calls_call nofun))
  intro _
  apply calls_except_bind (calls_lift (calls_call nofun))
  intro lock
  cases lock <;> exact calls_pure _

/-- Opening a namespace is still a look: only `setns` changes where the command is. -/
theorem openNamespace_looks (pid : Pid) (kind : NamespaceKind) (stage : String) (exit : Nat) :
    Calls Looks (openNamespace pid kind stage exit).run := by
  apply calls_except_bind (calls_lift (calls_call nofun))
  intro answer
  cases answer <;> exact calls_pure _

/-- Up to its last check the Debian entry only looks, so a failure leaves it where it was. -/
theorem openNamespaces_looks (record : EntryRecord) : Calls Looks (openNamespaces record).run := by
  apply calls_except_bind (require_calls (calls_pure _))
  intro _
  apply calls_except_bind
  · apply require_calls
    apply checkAll_looks
    simp [validateSupervisorIdentity_looks, validateInitIdentity_looks,
      validateInitNamespaceTopology_looks]
  intro _
  apply calls_except_bind (openNamespace_looks _ _ _ _)
  intro mount
  apply calls_except_bind (openNamespace_looks _ _ _ _)
  intro pid
  apply calls_except_bind (openNamespace_looks _ _ _ _)
  intro cgroup
  apply calls_except_bind
  · apply require_calls
    apply checkAll_looks
    simp [descriptorsAgree_looks, validateInitIdentity_looks]
  exact fun _ => calls_pure _

/-- Up to its last check the compat entry only looks, so a failure leaves it where it was. -/
theorem openCompatMountNamespace_looks (record : EntryRecord) :
    Calls Looks (openCompatMountNamespace record).run := by
  apply calls_except_bind
  · apply require_calls
    apply checkAll_looks
    simp [validateSupervisorIdentity_looks, validateCompatServiceIdentity_looks,
      validateCompatNamespaceTopology_looks, calls_pure]
  intro _
  apply calls_except_bind (openNamespace_looks _ _ _ _)
  intro mount
  apply calls_except_bind (openNamespace_looks _ _ _ _)
  intro uts
  apply calls_except_bind
  · apply require_calls
    apply checkAll_looks
    simp [descriptorsAgree_looks, validateCompatServiceIdentity_looks,
      validateCompatNamespaceTopology_looks]
  exact fun _ => calls_pure _

/-- No descriptor but these is entered. -/
def Enters (descriptors : List Descriptor) (request : EntryCall) : Prop :=
  ∀ descriptor, request = .setns descriptor → descriptor ∈ descriptors

/-- The one kind of call that enters is `setns` on a descriptor that was opened before. -/
theorem enters_setns {descriptors : List Descriptor} {descriptor : Descriptor}
    (member : descriptor ∈ descriptors) : Enters descriptors (.setns descriptor) := by
  rintro other ⟨⟩
  exact member

/-- The Debian entry enters nothing but its three descriptors. -/
theorem enterNamespaces_enters (prepared : Prepared) :
    Calls (Enters [prepared.mount, prepared.pid, prepared.cgroup]) (enterNamespaces prepared).run := by
  apply calls_except_bind (attemptEntry_calls (calls_call (enters_setns (by simp))))
  intro _
  apply calls_except_bind (attemptEntry_calls (calls_call (enters_setns (by simp))))
  intro _
  apply calls_except_bind (require_calls (calls_pure _))
  intro _
  apply calls_except_bind (reported_calls (calls_call nofun))
  intro _
  apply calls_except_bind (attemptEntry_calls (calls_call (enters_setns (by simp))))
  intro _
  exact calls_call nofun

/-- The compat entry enters nothing but its two descriptors. -/
theorem enterCompatMountNamespace_enters (prepared : PreparedCompat) :
    Calls (Enters [prepared.mount, prepared.uts]) (enterCompatMountNamespace prepared).run := by
  apply calls_except_bind (attemptEntry_calls (calls_call (enters_setns (by simp))))
  intro _
  apply calls_except_bind (attemptEntry_calls (calls_call (enters_setns (by simp))))
  intro _
  exact calls_call nofun

/-! ### Whole runs -/

/-- Reading the state record for an entry opens nothing that could be entered. -/
theorem stateRecord_looks (stage text : String) (exit : Nat) :
    Calls Looks (stateRecord stage text exit).run := by
  apply calls_except_bind (calls_lift (calls_call nofun))
  intro record
  cases record <;> exact calls_pure _

theorem stateRecord_read {first last : ProcessWorld} {log : List (ProcessWorld × EntryExchange)}
    {record : EntryRecord} {stage text : String} {exit : Nat}
    (run : Interleaved Environment answers first (stateRecord stage text exit).run log last (.ok record)) :
    ∃ world, (world, ⟨.readState, some record⟩) ∈ log := by
  cases run with
  | ask meanwhile answered after =>
      rename_i answer
      cases answer with
      | none => cases after
      | some found =>
          cases after
          exact ⟨_, .head _⟩

/-- The command has come to a `setns`. -/
def Reaches (log : List (ProcessWorld × EntryExchange)) : Prop :=
  ∃ entry ∈ log, ∃ descriptor, entry.2.call = .setns descriptor

/-- A command that comes to a `setns` has been through the steps before it that only look. -/
theorem reaches_after {α β : Type} {program : EntrySteps α} {rest : α → EntrySteps β}
    {first last : ProcessWorld} {log : List (ProcessWorld × EntryExchange)} {result : Except Failure β}
    (looks : Calls Looks program.run)
    (run : Interleaved Environment answers first (program >>= rest).run log last result)
    (reached : Reaches log) :
    ∃ before middle value after, Interleaved Environment answers first program.run before middle
        (.ok value) ∧
      Interleaved Environment answers middle (rest value).run after last result ∧
      log = before ++ after ∧ (∀ entry ∈ before, Looks entry.2.call) ∧ Reaches after := by
  obtain ⟨before, middle, outcome, after, one, two, rfl⟩ := run.of_bind
  have looking := one.calls looks
  obtain ⟨entry, member, descriptor, call⟩ := reached
  have late : entry ∈ after := by
    rcases List.mem_append.mp member with early | late
    · exact absurd call (looking entry early descriptor)
    · exact late
  cases outcome with
  | error failure =>
      cases two
      cases late
  | ok value => exact ⟨before, middle, value, after, one, two, rfl, looking, entry, late, descriptor, call⟩

section Entries

variable {Opened : Type} {find : EntrySteps Unit} {openAll : EntryRecord → EntrySteps Opened}
  {enter : Opened → EntrySteps Nat} {descriptors : Opened → List Descriptor} {stage text : String}
  {exit : Nat}

/-- Every descriptor that the command enters is a namespace of the process of the record, which has been
seen with the recorded executable. -/
def EntersRecorded (first : ProcessWorld) (log : List (ProcessWorld × EntryExchange))
    (recorded : Recorded) : Prop :=
  ∃ namespaces : NamespaceKind → NamespaceObject,
    (∃ seen row, Later first seen ∧ seen.table recorded.pid = some row ∧
      row.startTicks = recorded.startTicks ∧ row.exeDev = recorded.exeDev ∧
      row.exeIno = recorded.exeIno) ∧
    ∀ world descriptor failure, (world, ⟨.setns descriptor, failure⟩) ∈ log →
      world.born recorded.pid recorded.startTicks = some namespaces ∧
        descriptor.target = namespaces descriptor.kind

/-- A command that only looks until it has opened genuine descriptors, and enters no others. -/
theorem enters_recorded (finds : Calls Looks find.run)
    (opens : ∀ record, Calls Looks (openAll record).run)
    (genuine : ∀ world record, Attains Environment answers world (openAll record) fun last opened =>
      Genuine record.state.init world last (descriptors opened))
    (enters : ∀ opened, Calls (Enters (descriptors opened)) (enter opened).run)
    {first last : ProcessWorld} {log : List (ProcessWorld × EntryExchange)} {result : Except Failure Nat}
    (run : Interleaved Environment answers first
      (do
        find
        let record ← stateRecord stage text exit
        let opened ← openAll record
        enter opened).run log last result)
    (reached : Reaches log) :
    ∃ world record, (world, ⟨.readState, some record⟩) ∈ log ∧
      EntersRecorded first log record.state.init := by
  obtain ⟨findLog, found, _, _, findRun, afterFind, rfl, findLooks, toRead⟩ :=
    reaches_after finds run reached
  obtain ⟨readLog, read, record, _, readRun, afterRead, rfl, readLooks, toOpen⟩ :=
    reaches_after (stateRecord_looks stage text exit) afterFind toRead
  obtain ⟨openLog, opened, prepared, enterLog, openRun, afterOpen, rfl, openLooks, _⟩ :=
    reaches_after (opens record) afterRead toOpen
  obtain ⟨world, member⟩ := stateRecord_read readRun
  obtain ⟨namespaces, born, targets, seen, row, waited, _, rest⟩ := genuine read record _ _ _ openRun
  refine ⟨world, record, by simp [member], namespaces, ?_, ?_⟩
  · exact ⟨seen, row, findRun.later.trans (readRun.later.trans waited), rest⟩
  · intro here descriptor failure entered
    simp only [List.mem_append] at entered
    rcases entered with early | early | early | entered
    · exact absurd rfl (findLooks _ early descriptor)
    · exact absurd rfl (readLooks _ early descriptor)
    · exact absurd rfl (openLooks _ early descriptor)
    · have among := afterOpen.calls (enters prepared) _ entered descriptor rfl
      exact ⟨born_later (afterOpen.entry_later _ entered) born, targets descriptor among⟩

end Entries

/-- Whatever processes come and go and whatever is written to the state file meanwhile: when a command
comes to a `setns`, it has read a record, and everything that it enters is a namespace of the one process
with the recorded pid and start time. -/
theorem namespace_entry_race_free {command : EntryCommand} {first last : ProcessWorld}
    {log : List (ProcessWorld × EntryExchange)} {result : Except Failure Nat}
    (run : Interleaved Environment answers first command.program.run log last result)
    (reached : ∃ entry ∈ log, ∃ descriptor, entry.2.call = .setns descriptor) :
    ∃ world record, (world, ⟨.readState, some record⟩) ∈ log ∧
      ∃ namespaces : NamespaceKind → NamespaceObject,
        (∃ seen row, Later first seen ∧ seen.table record.state.init.pid = some row ∧
          row.startTicks = record.state.init.startTicks ∧ row.exeDev = record.state.init.exeDev ∧
          row.exeIno = record.state.init.exeIno) ∧
        ∀ here descriptor failure, (here, ⟨.setns descriptor, failure⟩) ∈ log →
          here.born record.state.init.pid record.state.init.startTicks = some namespaces ∧
            descriptor.target = namespaces descriptor.kind := by
  cases command with
  | namespaces =>
      exact enters_recorded (findSupervisor_looks _ _) openNamespaces_looks
        (fun _ record => openNamespaces_genuine record) enterNamespaces_enters run reached
  | compatMountNamespace =>
      exact enters_recorded (findSupervisor_looks _ _) openCompatMountNamespace_looks
        (fun _ record => openCompatMountNamespace_genuine record) enterCompatMountNamespace_enters run
        reached

/-! ### A health command -/

/-- Android init, a supervisor and Debian init. -/
def debianTable (pid : Pid) : Option Row :=
  if pid = 1 then some ⟨1, 1, 1, true⟩
  else if pid = 100 then some ⟨5, 1, 2, true⟩
  else if pid = 101 then some ⟨6, 1, 3, true⟩
  else none

/-- Namespaces whose inode numbers begin at the given one. -/
def numberedNamespaces (base : Nat) : NamespaceKind → NamespaceObject
  | .pid => ⟨base, .ofNat base⟩
  | .mnt => ⟨base + 1, .ofNat (base + 1)⟩
  | .uts => ⟨base + 2, .ofNat (base + 2)⟩
  | .ipc => ⟨base + 3, .ofNat (base + 3)⟩
  | .cgroup => ⟨base + 4, .ofNat (base + 4)⟩
  | .net => ⟨base + 5, .ofNat (base + 5)⟩

def debianRecord : EntryRecord :=
  { state :=
      { state := .running
        supervisor := ⟨100, 5, 1, 2⟩
        init := ⟨101, 6, 1, 3⟩
        initNamespaces := { pid := 20, mnt := 21, uts := 22, cgroup := 24 } }
    cgroupMode := .v2 }

def debianWorld : ProcessWorld where
  table := debianTable
  born pid ticks := (debianTable pid).bind fun row =>
    if row.startTicks = ticks then some (numberedNamespaces (if pid = 101 then 20 else 10)) else none
  file := some debianRecord
  known pid row there := by
    rw [there]
    simp

/-- What is exchanged for one look at the identity of Debian init. -/
def initIdentityLog : List EntryExchange :=
  [ ⟨.startTicks 101, some 6⟩, ⟨.exeIdentity 101, some (1, 3)⟩, ⟨.namespaceInode 101 .pid, .ok 20⟩,
    ⟨.namespaceInode 101 .mnt, .ok 21⟩, ⟨.namespaceInode 101 .uts, .ok 22⟩,
    ⟨.namespaceInode 101 .cgroup, .ok 24⟩, ⟨.signal 101, true⟩ ]

/-- The record is read. -/
def findingLog : List EntryExchange :=
  [ ⟨.validateRootfs, none⟩, ⟨.geteuid, 0⟩, ⟨.validateControlDirectory, none⟩, ⟨.openLockFile, none⟩,
    ⟨.tryLock, .held⟩, ⟨.readState, some debianRecord⟩ ]

/-- The namespaces are opened between two looks at Debian init. -/
def openingLog : List EntryExchange :=
  [ ⟨.startTicks 100, some 5⟩, ⟨.exeIdentity 100, some (1, 2)⟩, ⟨.signal 100, true⟩ ] ++
  initIdentityLog ++
  [ ⟨.namespaceInode 1 .pid, .ok 10⟩, ⟨.namespaceInode 1 .mnt, .ok 11⟩,
    ⟨.namespaceInode 1 .uts, .ok 12⟩, ⟨.namespaceInode 1 .ipc, .error enoent⟩,
    ⟨.namespaceInode 1 .cgroup, .ok 14⟩, ⟨.namespaceInode 1 .net, .error enoent⟩,
    ⟨.openNamespace 101 .mnt, .ok ⟨.mnt, 21, 21⟩⟩, ⟨.openNamespace 101 .pid, .ok ⟨.pid, 20, 20⟩⟩,
    ⟨.openNamespace 101 .cgroup, .ok ⟨.cgroup, 24, 24⟩⟩, ⟨.fstat ⟨.mnt, 21, 21⟩, some 21⟩,
    ⟨.fstat ⟨.pid, 20, 20⟩, some 20⟩, ⟨.fstat ⟨.cgroup, 24, 24⟩, some 24⟩ ] ++
  initIdentityLog

/-- They are entered. -/
def enteringLog : List EntryExchange :=
  [ ⟨.setns ⟨.pid, 20, 20⟩, none⟩, ⟨.setns ⟨.mnt, 21, 21⟩, none⟩, ⟨.moveToDelegatedCommand .v2, none⟩,
    ⟨.setns ⟨.cgroup, 24, 24⟩, none⟩, ⟨.runChild, .ok 0⟩ ]

/-- The state file has been removed. -/
def rewrittenWorld : ProcessWorld := { debianWorld with file := none }

/-- Debian init is gone. -/
def reapedWorld : ProcessWorld where
  table := Function.update debianTable 101 none
  born := debianWorld.born
  file := none
  known pid row there := by
    by_cases gone : pid = 101
    · rw [gone, Function.update_self] at there
      cases there
    · rw [Function.update_of_ne gone] at there
      exact debianWorld.known pid row there

/-- Another process has its pid. -/
def reusedWorld : ProcessWorld where
  table := Function.update reapedWorld.table 101 (some ⟨9, 1, 7, true⟩)
  born := Function.update debianWorld.born 101
    (Function.update (debianWorld.born 101) 9 (some (numberedNamespaces 40)))
  file := none
  known pid row there := by
    by_cases reused : pid = 101
    · subst reused
      rw [Function.update_self] at there
      cases there
      rfl
    · rw [Function.update_of_ne reused] at there ⊢
      exact reapedWorld.known pid row there

/-- A state file that is written again leaves all processes where they are. -/
theorem rewritten_later : Later debianWorld rewrittenWorld := .single (.rewrites rfl rfl)

/-- Debian ends and its pid goes to another process, which is a step of the environment. -/
theorem reused_later : Later rewrittenWorld reusedWorld := by
  have reaped : Environment rewrittenWorld reapedWorld := .reaped rfl rfl rfl
  have spawned : Environment reapedWorld reusedWorld :=
    .spawns (Function.update_self ..) rfl rfl rfl rfl
  exact (ReflTransGen.single reaped).tail spawned

/-- The calls of the command, each in the world in which it is made. -/
def healthEntries : List (ProcessWorld × EntryExchange) :=
  findingLog.map (debianWorld, ·) ++ (openingLog.map (rewrittenWorld, ·) ++
    enteringLog.map (reusedWorld, ·))

/-- Along this log the entry for a health check gets through all its checks and returns the status of
its command. -/
theorem health_log_runs :
    runInDebianNamespaces.run.replay (healthEntries.map Prod.snd) = some (.ok 0) := rfl

theorem opening_answered : ∀ exchange ∈ openingLog, answers rewrittenWorld exchange := by
  simp only [openingLog, initIdentityLog, List.cons_append, List.nil_append, List.forall_mem_cons]
  repeat' apply And.intro
  all_goals first
    | exact trivial
    | exact rfl
    | exact ⟨_, rfl, rfl⟩
    | exact ⟨_, rfl, rfl, rfl, rfl⟩
    | exact ⟨_, ⟨_, rfl, rfl, rfl⟩, rfl⟩
    | nofun

/-- Every answer of that log is true of the world at the moment it is given. -/
theorem health_log_answered : ∀ entry ∈ healthEntries, answers entry.1 entry.2 := by
  simp only [healthEntries, List.forall_mem_append, List.forall_mem_map]
  refine ⟨?_, opening_answered, ?_⟩
  · simp [findingLog, answers, debianWorld]
  · simp [enteringLog, answers]

/-- These worlds follow each other as the environment may change them. -/
theorem health_worlds_ordered :
    (debianWorld :: healthEntries.map Prod.fst).IsChain Later := by
  simp only [healthEntries, findingLog, openingLog, enteringLog, initIdentityLog, List.cons_append,
    List.nil_append, List.map_cons, List.map_nil, List.isChain_cons_cons]
  repeat' apply And.intro
  all_goals first
    | exact ReflTransGen.refl
    | exact rewritten_later
    | exact reused_later
    | exact .singleton _

/-- The state file goes away once it has been read, and Debian init ends before the first `setns`, with
its pid used again; what is entered are the namespaces of the process that had it. -/
theorem namespace_entry_race_free_reused :
    ∃ log last, Interleaved Environment answers debianWorld EntryCommand.namespaces.program.run log last
        (.ok 0) ∧
      (∃ here, (here, ⟨.setns ⟨.pid, 20, 20⟩, none⟩) ∈ log ∧ ¬Occupied here 101 6) ∧
      ∃ world record, (world, ⟨.readState, some record⟩) ∈ log ∧
        ∃ namespaces : NamespaceKind → NamespaceObject,
          ∀ here descriptor failure, (here, ⟨.setns descriptor, failure⟩) ∈ log →
            here.born record.state.init.pid record.state.init.startTicks = some namespaces ∧
              descriptor.target = namespaces descriptor.kind := by
  have entered : (reusedWorld, ⟨.setns ⟨.pid, 20, 20⟩, none⟩) ∈ healthEntries :=
    List.mem_append_right _ (List.mem_append_right _ (.head _))
  have unoccupied : ¬Occupied reusedWorld 101 6 := by
    rintro ⟨row, there, ticks⟩
    have found : reusedWorld.table 101 = some ⟨9, 1, 7, true⟩ := rfl
    cases there.symm.trans found
    cases ticks
  obtain ⟨last, run⟩ : ∃ last, Interleaved Environment answers debianWorld
      EntryCommand.namespaces.program.run healthEntries last (.ok 0) :=
    interleaved_of_runs (runs_of_replay health_log_runs) health_log_answered health_worlds_ordered
  obtain ⟨world, record, read, namespaces, -, targets⟩ :=
    namespace_entry_race_free run ⟨_, entered, _, rfl⟩
  exact ⟨_, _, run, ⟨_, entered, unoccupied⟩, world, record, read, namespaces, targets⟩

end DawnShell.Launcher.Entry
