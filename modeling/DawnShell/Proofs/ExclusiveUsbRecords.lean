/-
Module: DawnShell.Proofs.ExclusiveUsbRecords
Layer: Proofs
Purpose: What the table of the exclusive USB policy says.  The attempts to unbind and the scans that find
  an interface gone make a ledger of the drivers that are owed to Android; after every scan the detached
  records of the table are the entries of that ledger, and the restoration binds exactly those that are
  still there without a driver.
Trusted boundary: none
Main exports: Ledger, ledgerOf, Represents, Scans, exclusive_usb_bookkeeping
-/
import DawnShell.Launcher.ExclusiveUsb
import DawnShell.Lib.Keyed
import DawnShell.Lib.Observer

namespace DawnShell.Launcher

open Interaction

/-! ### The ledger -/

/-- For every interface the driver that it is to be given back to. -/
abbrev Ledger := Text → Option Text

/-- An attempt to unbind an interface makes or cancels its entry; an interface that a scan finds gone
has none. -/
def Ledger.after (ledger : Ledger) : UsbExchange → Ledger
  | ⟨.writeControl driver .unbind name, none⟩ => Function.update ledger name (some driver)
  | ⟨.writeControl _ .unbind name, some _⟩ => Function.update ledger name none
  | ⟨.lstatInterface name, failure⟩ =>
      if failure = some enoent then Function.update ledger name none else ledger
  | _ => ledger

/-- The ledger of a log. -/
def ledgerOf (log : List UsbExchange) : Ledger := log.foldl Ledger.after fun _ => none

def Ledger.observe (ledger : Ledger) (exchange : UsbExchange) : Option Ledger :=
  some (ledger.after exchange)

/-- Every log can be entered into the ledger, one exchange after another. -/
theorem observed_ledger (ledger : Ledger) (log : List UsbExchange) :
    observed Ledger.observe ledger log = some (log.foldl Ledger.after ledger) := by
  induction log generalizing ledger with
  | nil => rfl
  | cons exchange log ih => exact ih (ledger.after exchange)

/-! ### The table against the ledger -/

/-- The detached records are the entries of the ledger. -/
structure Represents (records : List UsbInterfaceRecord) (ledger : Ledger) : Prop where
  bounded : records.length ≤ maxUsbInterfaceRecords
  distinct : Keyed.Distinct UsbInterfaceRecord.interfaceName records
  safe : ∀ record ∈ records, isSafeUsbSysfsName record.interfaceName = true ∧
    (record.detached = true → isSafeUsbSysfsName record.driverName = true)
  owed : ∀ name driver, ledger name = some driver ↔ ∃ record ∈ records,
    record.interfaceName = name ∧ record.detached = true ∧ record.driverName = driver

variable {records : List UsbInterfaceRecord} {record : UsbInterfaceRecord} {ledger : Ledger}
  {index : Nat} {name driver : Text}

theorem represents_empty : Represents [] fun _ => none where
  bounded := Nat.zero_le _
  distinct := List.nodup_nil
  safe := List.forall_mem_nil _
  owed := by simp

namespace Represents

/-- Removing a record strikes its interface from the ledger, and the records that are left still stand
for the rest. -/
theorem remove (represents : Represents records ledger) (here : records[index]? = some record) :
    Represents (removeUsbInterfaceRecord records index)
      (Function.update ledger record.interfaceName none) where
  bounded := Nat.le_trans (List.length_eraseIdx_le records index) represents.bounded
  distinct := represents.distinct.eraseIdx index
  safe other member := represents.safe other (List.mem_of_mem_eraseIdx member)
  owed name driver := by
    simp only [removeUsbInterfaceRecord, represents.distinct.mem_eraseIdx here]
    by_cases same : name = record.interfaceName
    · subst same
      rw [Function.update_self]
      constructor
      · nofun
      · rintro ⟨other, ⟨-, different⟩, equal, -⟩
        exact absurd equal different
    · rw [Function.update_of_ne same, represents.owed]
      constructor
      · rintro ⟨other, member, rfl, marked⟩
        exact ⟨other, ⟨member, same⟩, rfl, marked⟩
      · rintro ⟨other, ⟨member, -⟩, marked⟩
        exact ⟨other, member, marked⟩

/-- A new record, which is detached from nothing, leaves the ledger as it is. -/
theorem create (represents : Represents records ledger) (safe : isSafeUsbSysfsName name = true)
    (room : records.length < maxUsbInterfaceRecords)
    (fresh : findUsbInterfaceRecord records name = none) :
    Represents (records ++ [{ interfaceName := name }]) ledger where
  bounded := by
    rw [List.length_append]
    exact room
  distinct := by
    apply represents.distinct.concat
    intro other member same
    rw [findUsbInterfaceRecord, List.findIdx?_eq_none_iff] at fresh
    simpa [same] using fresh other member
  safe other member := by
    rw [List.mem_append, List.mem_singleton] at member
    rcases member with member | rfl
    · exact represents.safe other member
    · exact ⟨safe, nofun⟩
  owed name driver := by
    rw [represents.owed]
    constructor
    · rintro ⟨other, member, marked⟩
      exact ⟨other, List.mem_append_left _ member, marked⟩
    · rintro ⟨other, member, same, marked, carries⟩
      rw [List.mem_append, List.mem_singleton] at member
      rcases member with member | rfl
      · exact ⟨other, member, same, marked, carries⟩
      · cases marked

/-- A record of an attempt to unbind enters the driver exactly if the attempt has succeeded. -/
theorem attempt (represents : Represents records ledger) (here : records[index]? = some record)
    (safe : isSafeUsbSysfsName driver = true) (now : Int) (failure : Option Errno) :
    Represents (records.set index (record.attempted driver now failure))
      (ledger.after ⟨.writeControl driver .unbind record.interfaceName, failure⟩) := by
  have named : (record.attempted driver now failure).interfaceName = record.interfaceName := by
    cases failure <;> rfl
  have carries : (record.attempted driver now failure).driverName = driver := by
    cases failure <;> rfl
  have member := List.mem_of_getElem? here
  refine ⟨?_, represents.distinct.set here named, ?_, ?_⟩
  · rw [List.length_set]
    exact represents.bounded
  · intro other among
    rcases (represents.distinct.mem_set here).mp among with rfl | ⟨before, -⟩
    · rw [named, carries]
      exact ⟨(represents.safe record member).1, fun _ => safe⟩
    · exact represents.safe other before
  · intro name wanted
    simp only [represents.distinct.mem_set here]
    by_cases same : name = record.interfaceName
    · subst same
      cases failure with
      | none =>
          rw [show ledger.after _ = Function.update ledger _ (some driver) from rfl, Function.update_self]
          constructor
          · intro equal
            exact ⟨_, .inl rfl, rfl, rfl, Option.some.inj equal⟩
          · rintro ⟨other, rfl | ⟨-, different⟩, equal, -, rfl⟩
            · rfl
            · exact absurd equal different
      | some errno =>
          rw [show ledger.after _ = Function.update ledger _ none from rfl, Function.update_self]
          constructor
          · nofun
          · rintro ⟨other, rfl | ⟨-, different⟩, equal, marked, -⟩
            · cases marked
            · exact absurd equal different
    · have unchanged : ledger.after ⟨.writeControl driver .unbind record.interfaceName, failure⟩ name =
          ledger name := by
        cases failure <;> exact Function.update_of_ne same _ _
      rw [unchanged, represents.owed]
      constructor
      · rintro ⟨other, before, rfl, marked⟩
        exact ⟨other, .inr ⟨before, same⟩, rfl, marked⟩
      · rintro ⟨other, rfl | ⟨before, -⟩, equal, marked⟩
        · exact absurd (equal.symm.trans named) same
        · exact ⟨other, before, equal, marked⟩

end Represents

/-! ### One scan -/

/-- Pruning removes the records of interfaces that are gone, each with its entry in the ledger. -/
theorem pruneFrom_tracks (remaining : Nat) (represents : Represents records ledger) :
    Tracks Ledger.observe ledger (pruneFrom remaining records index) fun ledger records =>
      Represents records ledger := by
  induction remaining generalizing records ledger index with
  | zero => exact tracks_pure represents
  | succ remaining ih =>
      unfold pruneFrom
      split
      next => exact tracks_pure represents
      next record here =>
        apply tracks_call
        rintro failure next ⟨⟩
        split
        next gone =>
          rw [Ledger.after, if_pos gone]
          exact ih (represents.remove here)
        next there =>
          rw [Ledger.after, if_neg there]
          exact ih represents

/-- Reading the ids of a device enters nothing. -/
theorem readUsbDeviceId_tracks (device : Text) :
    Tracks Ledger.observe ledger (readUsbDeviceId device) fun after _ => after = ledger := by
  unfold readUsbDeviceId
  split
  · exact tracks_pure rfl
  · refine tracks_quiet (fun _ => rfl) fun vendor => ?_
    split
    next => exact tracks_pure rfl
    next =>
      refine tracks_quiet (fun _ => rfl) fun product => ?_
      split <;> exact tracks_pure rfl

/-- The names of drivers that are read can be written to sysfs again. -/
theorem safe_of_driverOfLink {link : Option Text} (read : driverOfLink link = some driver) :
    isSafeUsbSysfsName driver = true :=
  (Option.filter_eq_some_iff.mp read).2

/-- Reading the driver of an interface enters nothing, and what is read is a safe name. -/
theorem readUsbInterfaceDriver_tracks (name : Text) :
    Tracks Ledger.observe ledger (readUsbInterfaceDriver name) fun after read =>
      after = ledger ∧ ∀ driver, read = some driver → isSafeUsbSysfsName driver = true := by
  unfold readUsbInterfaceDriver
  split
  · exact tracks_pure ⟨rfl, nofun⟩
  · exact tracks_quiet (fun _ => rfl) fun link =>
      tracks_pure ⟨rfl, fun _ read => safe_of_driverOfLink read⟩

/-- For a safe name the driver is the last part of the link, if this is a safe name too. -/
theorem readUsbInterfaceDriver_eq (safe : isSafeUsbSysfsName name = true) :
    readUsbInterfaceDriver name = sysfs (.readDriverLink name) >>= fun link =>
      pure (driverOfLink link) := by
  simp [readUsbInterfaceDriver, safe]

/-- Between two safe names the control file is always written. -/
theorem writeUsbDriverControl_eq {control : UsbControl} (safeDriver : isSafeUsbSysfsName driver = true)
    (safeName : isSafeUsbSysfsName name = true) :
    writeUsbDriverControl driver control name = sysfs (.writeControl driver control name) := by
  simp [writeUsbDriverControl, safeDriver, safeName]

/-- A record that is found bears the name that was looked for. -/
theorem findUsbInterfaceRecord_some (found : findUsbInterfaceRecord records name = some index) :
    ∃ record, records[index]? = some record ∧ record.interfaceName = name := by
  obtain ⟨inside, named, -⟩ := List.findIdx?_eq_some_iff_getElem.mp found
  exact ⟨records[index], List.getElem?_eq_getElem inside, beq_iff_eq.mp named⟩

/-- A record that was there or is made for a safe name leaves the ledger as it is. -/
theorem getOrCreateUsbInterfaceRecord_represents {table : List UsbInterfaceRecord}
    (represents : Represents records ledger) (safe : isSafeUsbSysfsName name = true)
    (found : getOrCreateUsbInterfaceRecord records name = some (table, index)) :
    Represents table ledger ∧ ∃ record, table[index]? = some record ∧ record.interfaceName = name := by
  unfold getOrCreateUsbInterfaceRecord at found
  split at found
  next existing there =>
    cases found
    exact ⟨represents, findUsbInterfaceRecord_some there⟩
  next fresh =>
    split at found
    · cases found
    next room =>
      cases found
      refine ⟨represents.create safe (Nat.lt_of_not_le room) fresh, { interfaceName := name }, ?_, rfl⟩
      simp

/-- Unbinding an interface enters its driver when the kernel has done it, and notes the time otherwise.
-/
theorem unbindInterface_tracks (represents : Represents records ledger)
    (safeName : isSafeUsbSysfsName name = true) (safeDriver : isSafeUsbSysfsName driver = true) :
    Tracks Ledger.observe ledger (unbindInterface records name driver) fun ledger records =>
      Represents records ledger := by
  unfold unbindInterface
  split
  next => exact tracks_pure represents
  next table index found =>
    obtain ⟨represents, record, here, rfl⟩ :=
      getOrCreateUsbInterfaceRecord_represents represents safeName found
    refine tracks_quiet (fun _ => rfl) fun now => ?_
    rw [here]
    dsimp only
    split
    · exact tracks_pure represents
    · rw [writeUsbDriverControl_eq safeDriver safeName]
      apply tracks_call
      rintro failure next ⟨⟩
      exact tracks_pure (represents.attempt here safeDriver now failure)

/-- One interface is looked at, and unbound if the filter asks for it, with records and ledger in step.
-/
theorem reconcileInterface_tracks (filter : UsbDeviceFilter) (represents : Represents records ledger) :
    Tracks Ledger.observe ledger (reconcileInterface filter records name) fun ledger records =>
      Represents records ledger := by
  unfold reconcileInterface
  split
  next => exact tracks_pure represents
  next device _ =>
    split
    · exact tracks_pure represents
    next accepted =>
      apply tracks_bind
      refine (readUsbDeviceId_tracks device).mono ?_
      rintro after id rfl
      split
      next => exact tracks_pure represents
      next =>
        split
        · exact tracks_pure represents
        · apply tracks_bind
          refine (readUsbInterfaceDriver_tracks name).mono ?_
          rintro after read ⟨rfl, safe⟩
          split
          next => exact tracks_pure represents
          next driver =>
            exact unbindInterface_tracks represents (by simpa using accepted) (safe driver rfl)

/-- All interfaces of a scan are gone through with records and ledger in step. -/
theorem reconcileInterfaces_tracks (filter : UsbDeviceFilter) (names : List Text)
    (represents : Represents records ledger) :
    Tracks Ledger.observe ledger (reconcileInterfaces filter names records) fun ledger records =>
      Represents records ledger := by
  induction names generalizing records ledger with
  | nil => exact tracks_pure represents
  | cons name names ih =>
      apply tracks_bind
      exact (reconcileInterface_tracks filter represents).mono fun _ _ represents => ih represents

/-- A whole scan, with its pruning, keeps records and ledger in step. -/
theorem reconcileExclusiveUsb_tracks (filter : UsbDeviceFilter) {state : ExclusiveUsbState}
    (represents : Represents state.records ledger) :
    Tracks Ledger.observe ledger (reconcileExclusiveUsb filter state) fun ledger state =>
      Represents state.records ledger := by
  apply tracks_bind
  refine (pruneFrom_tracks _ represents).mono fun _ _ represents => ?_
  refine tracks_quiet (fun _ => rfl) fun listed => ?_
  cases listed with
  | error errno => exact tracks_pure represents
  | ok names =>
      apply tracks_bind
      exact (reconcileInterfaces_tracks filter names represents).mono fun _ _ represents =>
        tracks_pure represents

/-! ### Every sequence of scans -/

/-- Scans of one supervisor, with everything they have exchanged with sysfs. -/
inductive Scans (filter : UsbDeviceFilter) : List UsbExchange → ExclusiveUsbState → Prop where
  | none : Scans filter [] {}
  | scan {log more : List UsbExchange} {state next : ExclusiveUsbState} (scans : Scans filter log state)
      (run : Runs (reconcileExclusiveUsb filter state) more next) : Scans filter (log ++ more) next

/-- After any number of scans the records stand for what was unbound and not bound since. -/
theorem Scans.represents {filter : UsbDeviceFilter} {log : List UsbExchange}
    {state : ExclusiveUsbState} (scans : Scans filter log state) :
    Represents state.records (ledgerOf log) := by
  induction scans with
  | none => exact represents_empty
  | scan scans run represents =>
      apply run.of_tracks (reconcileExclusiveUsb_tracks filter represents)
      rw [observed_ledger, ledgerOf, ledgerOf, List.foldl_append]

/-! ### The restoration -/

/-- The binds of a log, in order: the driver and the interface. -/
def bindsOf (log : List UsbExchange) : List (Text × Text) :=
  log.filterMap fun
    | ⟨.writeControl driver .bind name, _⟩ => some (driver, name)
    | _ => none

/-- The interface that a call names. -/
def UsbCall.interface : UsbCall → Option Text
  | .lstatInterface name | .readDriverLink name | .writeControl _ _ name => some name
  | .listInterfaces | .readDeviceId .. | .monotonicMillis => none

/-- The record is detached, its interface is there, and no driver of it can be read. -/
def UsbInterfaceRecord.restorable (environment : (call : UsbCall) → call.Answer)
    (record : UsbInterfaceRecord) : Bool :=
  record.detached && (environment (.lstatInterface record.interfaceName)).isNone &&
    (driverOfLink (environment (.readDriverLink record.interfaceName))).isNone

/-- The binds along two logs are those of the first and then those of the second. -/
theorem bindsOf_append (first second : List UsbExchange) :
    bindsOf (first ++ second) = bindsOf first ++ bindsOf second :=
  List.filterMap_append

/-- One record is bound if and only if it is to be, and each of its files is used once. -/
theorem restoreInterface_binds (safeName : isSafeUsbSysfsName record.interfaceName = true)
    (safeDriver : record.detached = true → isSafeUsbSysfsName record.driverName = true) :
    (restoreInterface record).All fun log _ =>
      (log.map Exchange.call).Nodup ∧
      (∀ exchange ∈ log, exchange.call.interface = some record.interfaceName) ∧
      ∀ environment, AnsweredBy environment log → bindsOf log =
        if record.restorable environment then [(record.driverName, record.interfaceName)] else [] := by
  unfold restoreInterface
  split
  next kept =>
    refine all_pure.mpr ⟨List.nodup_nil, List.forall_mem_nil _, fun environment _ => ?_⟩
    simp [UsbInterfaceRecord.restorable, kept, bindsOf]
  next detached =>
    rw [Bool.not_eq_false] at detached
    rw [all_bind, all_call]
    intro failure
    cases failure with
    | some errno =>
        refine all_pure.mpr ⟨by simp, by simp [UsbCall.interface], fun environment answered => ?_⟩
        have absent : some errno = environment (.lstatInterface record.interfaceName) :=
          answered _ (.head _)
        simp [UsbInterfaceRecord.restorable, ← absent, bindsOf]
    | none =>
        simp only [readUsbInterfaceDriver_eq safeName, all_bind, all_call, all_pure]
        intro link
        split
        next current read =>
          refine all_pure.mpr ⟨by simp, by simp [UsbCall.interface], fun environment answered => ?_⟩
          have bound : link = environment (.readDriverLink record.interfaceName) :=
            answered _ (.tail _ (.head _))
          simp [UsbInterfaceRecord.restorable, ← bound, bindsOf, read]
        next read =>
          rw [writeUsbDriverControl_eq (safeDriver detached) safeName, all_bind, all_call]
          intro outcome
          refine all_pure.mpr ⟨by simp, by simp [UsbCall.interface], fun environment answered => ?_⟩
          have present : none = environment (.lstatInterface record.interfaceName) :=
            answered _ (.head _)
          have driverless : link = environment (.readDriverLink record.interfaceName) :=
            answered _ (.tail _ (.head _))
          simp [UsbInterfaceRecord.restorable, ← present, ← driverless, bindsOf, detached, read]

/-- The loop of the restoration looks at each detached record and binds exactly those that are present
without a driver. -/
theorem restoreInterfaces_binds (records : List UsbInterfaceRecord)
    (distinct : Keyed.Distinct UsbInterfaceRecord.interfaceName records)
    (safe : ∀ record ∈ records, isSafeUsbSysfsName record.interfaceName = true ∧
      (record.detached = true → isSafeUsbSysfsName record.driverName = true)) :
    (restoreInterfaces records).All fun log _ =>
      (log.map Exchange.call).Nodup ∧
      (∀ exchange ∈ log, ∃ record ∈ records, exchange.call.interface = some record.interfaceName) ∧
      ∀ environment, AnsweredBy environment log → bindsOf log =
        (records.filter (UsbInterfaceRecord.restorable environment)).map fun record =>
          (record.driverName, record.interfaceName) := by
  induction records with
  | nil => exact all_pure.mpr ⟨List.nodup_nil, List.forall_mem_nil _, fun _ _ => rfl⟩
  | cons record records ih =>
      obtain ⟨apart, distinct⟩ := List.nodup_cons.mp distinct
      obtain ⟨here, there⟩ := List.forall_mem_cons.mp safe
      rw [restoreInterfaces, all_bind]
      refine (restoreInterface_binds here.1 here.2).mono ?_
      rintro first - ⟨onceFirst, aboutFirst, bindsFirst⟩
      refine (ih distinct there).mono ?_
      rintro second - ⟨onceSecond, aboutSecond, bindsSecond⟩
      refine ⟨?_, ?_, ?_⟩
      · rw [List.map_append, List.nodup_append]
        refine ⟨onceFirst, onceSecond, ?_⟩
        -- The calls for the other records name other interfaces.
        rintro call former other latter rfl
        obtain ⟨one, member, rfl⟩ := List.mem_map.mp former
        obtain ⟨two, among, same⟩ := List.mem_map.mp latter
        obtain ⟨later, listed, named⟩ := aboutSecond two among
        have equal : record.interfaceName = later.interfaceName := by
          rw [← Option.some.injEq, ← aboutFirst one member, ← named, same]
        exact apart (equal ▸ List.mem_map_of_mem listed)
      · intro exchange member
        rcases List.mem_append.mp member with former | latter
        · exact ⟨record, List.mem_cons_self, aboutFirst exchange former⟩
        · obtain ⟨later, listed, named⟩ := aboutSecond exchange latter
          exact ⟨later, List.mem_cons_of_mem _ listed, named⟩
      · intro environment answered
        obtain ⟨former, latter⟩ := answeredBy_append.mp answered
        rw [bindsOf_append, bindsFirst environment former, bindsSecond environment latter,
          List.filter_cons]
        split <;> rfl

/-- An environment in which every interface is there without a driver. -/
def quietEnvironment : (call : UsbCall) → call.Answer
  | .lstatInterface _ => none
  | .listInterfaces => .ok []
  | .readDeviceId .. => none
  | .readDriverLink _ => none
  | .monotonicMillis => 0
  | .writeControl .. => none

/-- A restoration binds exactly what the ledger owes and the host shows present without a driver. -/
theorem restoreExclusiveUsb_binds {state : ExclusiveUsbState}
    (represents : Represents state.records ledger) {log : List UsbExchange} {after : ExclusiveUsbState}
    (run : Runs (restoreExclusiveUsb state) log after) :
    (∃ environment, AnsweredBy environment log ∧
        ∀ call, call ∉ log.map Exchange.call → environment call = quietEnvironment call) ∧
      (∀ environment, AnsweredBy environment log → bindsOf log =
        (state.records.reverse.filter (UsbInterfaceRecord.restorable environment)).map fun record =>
          (record.driverName, record.interfaceName)) ∧
      after = {} := by
  obtain ⟨restoring, value, last, restored, returned, rfl⟩ := run.of_bind
  obtain ⟨rfl, rfl⟩ := returned.of_pure
  have distinct : Keyed.Distinct UsbInterfaceRecord.interfaceName state.records.reverse := by
    rw [Keyed.Distinct, List.map_reverse, List.nodup_reverse]
    exact represents.distinct
  obtain ⟨once, -, binds⟩ := restored.of_all (restoreInterfaces_binds _ distinct fun record member =>
    represents.safe record (List.mem_reverse.mp member))
  rw [List.append_nil]
  exact ⟨exists_answeredBy quietEnvironment once, binds, rfl⟩

/-! ### Interfaces that stay as they were left -/

/-- Whenever the interface is looked at, it is there and has no driver that can be read. -/
def Stays (name : Text) (log : List UsbExchange) : Prop :=
  (∀ failure, ⟨.lstatInterface name, failure⟩ ∈ log → failure = none) ∧
    ∀ link, ⟨.readDriverLink name, link⟩ ∈ log → driverOfLink link = none

/-- Nobody tries to unbind the interface. -/
def Unattempted (name : Text) (log : List UsbExchange) : Prop :=
  ∀ driver failure, ⟨.writeControl driver .unbind name, failure⟩ ∉ log

/-- What stays along a log stays along its end. -/
theorem Stays.tail {exchange : UsbExchange} {log : List UsbExchange}
    (stays : Stays name (exchange :: log)) : Stays name log :=
  ⟨fun failure seen => stays.1 failure (.tail _ seen), fun link seen => stays.2 link (.tail _ seen)⟩

/-- The entry of an interface that stays is kept as long as no new attempt is made on it, whatever
happens to the others. -/
theorem ledger_stays {log : List UsbExchange} (owed : ledger name = some driver)
    (unattempted : Unattempted name log) (stays : Stays name log) :
    log.foldl Ledger.after ledger name = some driver := by
  induction log generalizing ledger with
  | nil => exact owed
  | cons exchange log ih =>
      refine ih ?_ (fun driver failure seen => unattempted driver failure (.tail _ seen)) stays.tail
      obtain ⟨call, answer⟩ := exchange
      cases call with
      | writeControl other control seen =>
          cases control with
          | bind => exact owed
          | unbind =>
              have different : name ≠ seen := by
                rintro rfl
                exact unattempted other answer (.head _)
              cases answer <;> exact (Function.update_of_ne different _ _).trans owed
      | lstatInterface seen =>
          rw [Ledger.after]
          split
          next gone =>
            rw [Function.update_of_ne, owed]
            rintro rfl
            rw [stays.1 answer (.head _)] at gone
            cases gone
          next => exact owed
      | listInterfaces | readDeviceId | readDriverLink | monotonicMillis => exact owed

/-- The binds of a log are the writes to `bind`, whether they have succeeded or not. -/
theorem mem_bindsOf {log : List UsbExchange} :
    (driver, name) ∈ bindsOf log ↔ ∃ failure, ⟨.writeControl driver .bind name, failure⟩ ∈ log := by
  rw [bindsOf, List.mem_filterMap]
  constructor
  · rintro ⟨⟨call, answer⟩, member, matched⟩
    cases call with
    | writeControl other control seen =>
        cases control with
        | bind =>
            cases matched
            exact ⟨answer, member⟩
        | unbind => cases matched
    | lstatInterface | listInterfaces | readDeviceId | readDriverLink | monotonicMillis =>
        cases matched
  · rintro ⟨failure, member⟩
    exact ⟨_, member, rfl⟩

/-- An interface whose last attempt succeeded and that has stayed as it was is bound to the driver it
was taken from. -/
theorem restored_of_stays {filter : UsbDeviceFilter} {before after restoring : List UsbExchange}
    {state last : ExclusiveUsbState}
    (scans : Scans filter (before ++ ⟨.writeControl driver .unbind name, none⟩ :: after) state)
    (unattempted : Unattempted name after) (stays : Stays name after)
    (run : Runs (restoreExclusiveUsb state) restoring last) (stayed : Stays name restoring) :
    (driver, name) ∈ bindsOf restoring := by
  have owed : ledgerOf (before ++ ⟨.writeControl driver .unbind name, none⟩ :: after) name =
      some driver := by
    rw [ledgerOf, List.foldl_append, List.foldl_cons]
    exact ledger_stays (Function.update_self _ _ _) unattempted stays
  obtain ⟨record, member, rfl, detached, rfl⟩ := (scans.represents.owed name driver).mp owed
  obtain ⟨⟨environment, answered, elsewhere⟩, binds, -⟩ :=
    restoreExclusiveUsb_binds scans.represents run
  -- An interface that is not looked at may be taken to be there without a driver.
  have present : environment (.lstatInterface record.interfaceName) = none := by
    by_cases asked : UsbCall.lstatInterface record.interfaceName ∈ restoring.map Exchange.call
    · obtain ⟨⟨call, answer⟩, seen, rfl⟩ := List.mem_map.mp asked
      exact (answered _ seen).symm.trans (stayed.1 answer seen)
    · exact elsewhere _ asked
  have driverless :
      driverOfLink (environment (.readDriverLink record.interfaceName)) = none := by
    by_cases asked : UsbCall.readDriverLink record.interfaceName ∈ restoring.map Exchange.call
    · obtain ⟨⟨call, answer⟩, seen, rfl⟩ := List.mem_map.mp asked
      rw [← answered _ seen]
      exact stayed.2 answer seen
    · rw [elsewhere _ asked]
      rfl
  rw [binds environment answered]
  refine List.mem_map.mpr ⟨record, List.mem_filter.mpr ⟨List.mem_reverse.mpr member, ?_⟩, rfl⟩
  simp [UsbInterfaceRecord.restorable, detached, present, driverless]

/-- After every sequence of scans the table has at most 64 records of different interfaces, and its
detached records are the interfaces whose last attempt to be unbound succeeded and that no scan has found
gone since, each with the driver of that attempt.  The restoration then binds exactly those of them that
are there without a driver when it looks, which it does once for each, and leaves the table empty. -/
theorem exclusive_usb_bookkeeping {filter : UsbDeviceFilter} {log : List UsbExchange}
    {state : ExclusiveUsbState} (scans : Scans filter log state) :
    state.records.length ≤ maxUsbInterfaceRecords ∧
      (state.records.map UsbInterfaceRecord.interfaceName).Nodup ∧
      (∀ name driver, ledgerOf log name = some driver ↔ ∃ record ∈ state.records,
        record.interfaceName = name ∧ record.detached = true ∧ record.driverName = driver) ∧
      ∀ restoring after, Runs (restoreExclusiveUsb state) restoring after →
        (∃ environment, AnsweredBy environment restoring) ∧
        (∀ environment, AnsweredBy environment restoring → bindsOf restoring =
          (state.records.reverse.filter fun record => record.detached &&
            (environment (.lstatInterface record.interfaceName)).isNone &&
            (driverOfLink (environment (.readDriverLink record.interfaceName))).isNone).map
              (fun record => (record.driverName, record.interfaceName))) ∧
        after = {} := by
  have represents := scans.represents
  refine ⟨represents.bounded, represents.distinct, represents.owed, ?_⟩
  intro restoring after run
  obtain ⟨⟨environment, answered, -⟩, binds, empty⟩ := restoreExclusiveUsb_binds represents run
  exact ⟨⟨environment, answered⟩, binds, empty⟩

/-- The interface `1-1:1.0`. -/
def keyboardInterface : Text := ['1', '-', '1', ':', '1', '.', '0']

/-- The interface `1-2:1.0`, which is gone before it is given back. -/
def mouseInterface : Text := ['1', '-', '2', ':', '1', '.', '0']

/-- The driver `hid`. -/
def keyboardDriver : Text := ['h', 'i', 'd']

/-- What a scan asks of an interface of the filter, and that it is unbound. -/
def unbinding (device interface : Text) : List UsbExchange :=
  [ ⟨.readDeviceId device .idVendor, some ['0', '4', '6', 'd', '\n']⟩,
    ⟨.readDeviceId device .idProduct, some ['c', '3', '1', 'c', '\n']⟩,
    ⟨.readDriverLink interface, some ('/' :: keyboardDriver)⟩,
    ⟨.monotonicMillis, 5000⟩,
    ⟨.writeControl keyboardDriver .unbind interface, none⟩ ]

/-- A scan that finds two devices of the filter and unbinds them. -/
def keyboardScan : List UsbExchange :=
  ⟨.listInterfaces, .ok [keyboardInterface, mouseInterface]⟩ ::
    (unbinding ['1', '-', '1'] keyboardInterface ++ unbinding ['1', '-', '2'] mouseInterface)

def keyboardState : ExclusiveUsbState :=
  { records :=
      [ { interfaceName := keyboardInterface, driverName := keyboardDriver, detached := true },
        { interfaceName := mouseInterface, driverName := keyboardDriver, detached := true } ] }

/-- Along this log a scan with the keyboard in its filter unbinds it. -/
theorem keyboard_scan_runs :
    (reconcileExclusiveUsb [⟨0x046d, 0xc31c⟩] {}).replay keyboardScan = some keyboardState := rfl

/-- The mouse is gone, and the keyboard is there without a driver. -/
def unpluggedMouse : (call : UsbCall) → call.Answer
  | .lstatInterface name => if name = mouseInterface then some enoent else none
  | call => quietEnvironment call

/-- The restoration binds the keyboard and leaves the mouse alone. -/
theorem exclusive_usb_bookkeeping_keyboard :
    ledgerOf keyboardScan keyboardInterface = some keyboardDriver ∧
      bindsOf ((restoreExclusiveUsb keyboardState).respond unpluggedMouse).1 =
        [(keyboardDriver, keyboardInterface)] := by
  have scans : Scans [⟨0x046d, 0xc31c⟩] keyboardScan keyboardState :=
    Scans.none.scan (runs_of_replay keyboard_scan_runs)
  obtain ⟨-, -, owed, restores⟩ := exclusive_usb_bookkeeping scans
  refine ⟨(owed keyboardInterface keyboardDriver).mpr ⟨_, .head _, rfl, rfl, rfl⟩, ?_⟩
  have run := runs_respond unpluggedMouse (restoreExclusiveUsb keyboardState)
  rw [(restores _ _ run).2.1 unpluggedMouse (answeredBy_respond unpluggedMouse _)]
  rfl

end DawnShell.Launcher
