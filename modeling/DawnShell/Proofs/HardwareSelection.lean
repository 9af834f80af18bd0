/-
Module: DawnShell.Proofs.HardwareSelection
Layer: Proofs
Purpose: Which components a session can come to hold.  A platform is known by what its store lists and by
  the names that its components report; what it creates, configures and starts is up to it.  No session
  holds a component that calls itself software or secure exactly when the platform has no such component
  behind a name that `new_codec` takes for proven, and selects no secure one with a hardware name.
Trusted boundary: a codec that is handed out is not one of those that have not been deleted
Main exports: storeNames, Naming, watchNames, HardwareOnly, Naming.Honest, Naming.Safe, hardware_only_iff
-/
import Mathlib.Data.List.ReduceOption
import DawnShell.App.HardwareCodecProbe
import DawnShell.Lib.Observer
import DawnShell.Proofs.HandleAccounting

namespace DawnShell

open Wire Interaction App

/-! ### Names -/

/-- A letter of a stem is what a letter of the name became in both lower cases. -/
theorem lowerCharacter_of_lowerLetter {character letter : Char} (ascii : letter.toNat < 128)
    (same : lowerLetter character = letter) : lowerCharacter character = [letter] := by
  rw [lowerLetter] at same
  rw [lowerCharacter]
  split at same
  next upper =>
    have shifted : character.toNat - 'A'.toNat + 'a'.toNat = character.toNat + 32 := by
      have low : 'A'.toNat ≤ character.toNat := upper.1
      change 65 ≤ character.toNat at low
      change character.toNat - 65 + 97 = _
      omega
    rw [if_pos upper, ← same, shifted]
  next other =>
    subst same
    have kelvin : character ≠ Char.ofNat 0x212a := by
      rintro rfl
      exact absurd ascii (by decide)
    have dotted : character ≠ Char.ofNat 0x130 := by
      rintro rfl
      exact absurd ascii (by decide)
    rw [if_neg other, if_neg kelvin, if_neg dotted]

/-- An ASCII stem that is found after lowering ASCII letters alone is found after lowering all
characters too. -/
theorem prefix_lowerCase {stem characters : List Char} (ascii : ∀ letter ∈ stem, letter.toNat < 128)
    (found : stem <+: characters.map lowerLetter) : stem <+: characters.flatMap lowerCharacter := by
  induction stem generalizing characters with
  | nil => exact List.nil_prefix
  | cons letter stem ih =>
      cases characters with
      | nil => exact absurd found (by simp)
      | cons character characters =>
          rw [List.map_cons, List.cons_prefix_cons] at found
          obtain ⟨same, rest⟩ := found
          rw [List.flatMap_cons, lowerCharacter_of_lowerLetter (ascii letter (.head _)) same.symm]
          exact (List.prefix_append_right_inj [letter]).mpr
            (ih (fun other member => ascii other (.tail _ member)) rest)

/-- The stems of `hardware_name`. -/
def nativeStems : List String :=
  ["omx.exynos.", "omx.sec.", "c2.exynos.", "omx.qcom.", "c2.qti.", "omx.intel.", "omx.nvidia.",
    "omx.rk.", "omx.amlogic.", "omx.allwinner."]

/-- A name that `hardware_name` accepts begins with one of its stems in lower case. -/
theorem hardwareName_stem {name : String} (hardware : hardwareName name = true) :
    ∃ stem ∈ nativeStems, stem.toList <+: lowerCase name := by
  have found : ∃ stem ∈ nativeStems,
      stem.toList <+: (fitting (maxCodecName - 1) name.toList).map lowerLetter := by
    simpa [hardwareName, startsWith, nativeStems, or_assoc] using hardware
  obtain ⟨stem, member, begins⟩ := found
  refine ⟨stem, member, prefix_lowerCase ?_ (begins.trans ?_)⟩
  · have ascii : (nativeStems.all fun stem => stem.toList.all fun letter => letter.toNat < 128) = true := by
      decide
    simp only [List.all_eq_true, decide_eq_true_eq] at ascii
    exact ascii stem member
  · exact (fitting_begins _ _).map lowerLetter

/-- A name that `hardware_name` accepts is one of hardware to the probe, whose list has two makers
more. -/
theorem probeHardware_of_hardwareName {name : String} (hardware : hardwareName name = true) :
    isConservativeHardwareCodecName name = true := by
  obtain ⟨stem, member, begins⟩ := hardwareName_stem hardware
  have listed : nativeStems ⊆ hardwareStems := by decide
  exact List.any_eq_true.mpr ⟨stem, listed member, List.isPrefixOf_iff_prefix.mpr begins⟩

/-- No name is one of hardware and one of software to the probe. -/
theorem not_software_of_probeHardware {name : String}
    (hardware : isConservativeHardwareCodecName name = true) :
    isConservativeSoftwareCodecName name = false := by
  rw [isConservativeHardwareCodecName, startsWithAny, List.any_eq_true] at hardware
  obtain ⟨stem, member, begins⟩ := hardware
  rw [List.isPrefixOf_iff_prefix] at begins
  rw [Bool.eq_false_iff]
  intro software
  rw [isConservativeSoftwareCodecName, startsWithAny, List.any_eq_true] at software
  obtain ⟨other, listed, also⟩ := software
  rw [List.isPrefixOf_iff_prefix] at also
  -- Of two stems of one name the shorter would be a stem of the longer.
  have apart : ∀ stem ∈ hardwareStems, ∀ other ∈ softwareStems,
      ¬stem.toList <+: other.toList ∧ ¬other.toList <+: stem.toList := by decide
  rcases List.prefix_or_prefix_of_prefix begins also with shorter | shorter
  · exact (apart stem member other listed).1 shorter
  · exact (apart stem member other listed).2 shorter

/-- A name that `hardware_name` accepts is not one of software. -/
theorem not_software_of_hardwareName {name : String} (hardware : hardwareName name = true) :
    isConservativeSoftwareCodecName name = false :=
  not_software_of_probeHardware (probeHardware_of_hardwareName hardware)

/-! ### Candidates -/

/-- The names that `collect_candidates` takes from a store: the first different ones of type 2 that fit
its table, with the byte that ends them. -/
def storeNames (store : List (Option String × Int32)) : List String :=
  (((store.filter (·.2 = 2)).filterMap Prod.fst).filter (strlen · < maxCodecName)).eraseDups.take
    maxCandidates

/-- A name at the end of a table that has a limit and no name twice. -/
def keepName (names : List String) (name : String) : List String :=
  if maxCandidates ≤ names.length ∨ name ∈ names then names else names ++ [name]

/-- A table that is filled so has the first different names, in the order in which they came and up to
its size. -/
theorem foldl_keepName {names more : List String} (room : names.length ≤ maxCandidates) :
    more.foldl keepName names =
      (names ++ (more.filter (· ∉ names)).eraseDups).take maxCandidates := by
  induction more generalizing names with
  | nil => simp [List.take_of_length_le room]
  | cons name more ih =>
      rw [List.foldl_cons, keepName]
      by_cases listed : name ∈ names
      · rw [if_pos (.inr listed), ih room, List.filter_cons_of_neg (by simpa using listed)]
      · rw [List.filter_cons_of_pos (by simpa using listed)]
        by_cases full : maxCandidates ≤ names.length
        · rw [if_pos (.inl full), ih room, List.take_append_of_le_length full,
            List.take_append_of_le_length full]
        · have added : (names ++ [name]).length ≤ maxCandidates := by
            rw [List.length_append, List.length_singleton]
            omega
          rw [if_neg (by simp [full, listed]), ih added, List.eraseDups_cons, List.filter_filter,
            List.append_assoc, List.singleton_append]
          congr 4
          apply List.filter_congr
          intro other _
          simp [and_comm, beq_eq_decide]

/-- A table of proven candidates. -/
def proven (names : List String) : List CodecCandidate := names.map fun name => ⟨name, true⟩

/-- A proven name joins a table of proven candidates when its bytes fit an entry, the table has room and
the name is not in it. -/
theorem addCandidate_proven (names : List String) (name : String) :
    addCandidate (proven names) (some name) true =
      proven (if strlen name < maxCodecName then keepName names name else names) := by
  have same : duplicateCandidate (proven names) name = true ↔ name ∈ names := by
    simp [duplicateCandidate, proven]
  rw [addCandidate, keepName]
  by_cases short : strlen name < maxCodecName
  · by_cases listed : name ∈ names
    · simp [same.mpr listed, listed, short]
    · by_cases full : maxCandidates ≤ names.length
      · simp [full, short, proven]
      · have other : duplicateCandidate (proven names) name = false := by simpa [listed] using same
        have size : (proven names).length = names.length := List.length_map ..
        rw [other, size, if_neg (by simp [full, short]), if_pos short, if_neg (by simp [full, listed])]
        simp [proven]
  · simp [short, Nat.not_lt.mp short]

/-- The candidates of a store are the first different names of type 2, each of them marked as proven by
the store. -/
theorem addStoreCandidates_eq (store : List (Option String × Int32)) :
    addStoreCandidates store = proven (storeNames store) := by
  -- The table under way holds the names kept so far.
  have filled : ∀ names, store.foldl (fun found info =>
      if info.2 = 2 then addCandidate found info.1 true else found) (proven names) =
      proven ((((store.filter (·.2 = 2)).filterMap Prod.fst).filter
        (strlen · < maxCodecName)).foldl keepName names) := by
    induction store with
    | nil => exact fun _ => rfl
    | cons info store ih =>
        intro names
        obtain ⟨name, type⟩ := info
        rw [List.foldl_cons]
        by_cases hardware : type = 2
        · rw [if_pos hardware, List.filter_cons_of_pos (by simpa using hardware)]
          cases name with
          | none => exact ih names
          | some name =>
              rw [addCandidate_proven, ih, List.filterMap_cons]
              dsimp only
              by_cases short : strlen name < maxCodecName
              · rw [if_pos short, List.filter_cons_of_pos (by simpa using short), List.foldl_cons]
              · rw [if_neg short, List.filter_cons_of_neg (by simpa using short)]
        · rw [if_neg hardware, ih, List.filter_cons_of_neg (by simpa using hardware)]
  have empty := filled []
  rw [foldl_keepName (Nat.zero_le _)] at empty
  simpa [addStoreCandidates, storeNames, proven] using empty

/-! ### Platforms -/

/-- What a platform lists and what its components call themselves. -/
structure Naming where
  /-- What the store lists, for the encoders or the decoders of a type. -/
  store : Bool → String → List (Option String × Int32)
  /-- Whether a component that is created on a request can report a name. -/
  reports : CodecRequest → String → Bool

/-- A codec that has not been deleted: what it was requested as, and the name that it has reported. -/
structure Component where
  request : CodecRequest
  name : Option String := none
deriving DecidableEq

abbrev Components := Handle → Option Component

/-- What is known of the components after an exchange.  The platform lists what its store has, hands out no
codec a second time before it is deleted, and reports only names that it has for the request. -/
def watchNames (platform : Naming) (state : Components) :
    Exchange Platform.Call Platform.Answer → Option Components
  | ⟨.codecStore encoder mime, listed⟩ =>
      if listed = platform.store encoder mime then some state else none
  | ⟨.createCodec request, some codec⟩ =>
      match state codec with
      | none => some (Function.update state codec (some ⟨request, none⟩))
      | some _ => none
  | ⟨.getName codec, some name⟩ =>
      match state codec with
      | none => some state
      | some component =>
          if platform.reports component.request name then
            some (Function.update state codec (some ⟨component.request, some name⟩))
          else none
  | ⟨.deleteCodec codec, _⟩ => some (Function.update state codec none)
  | _ => some state

/-- A name that the probe takes neither for software nor for secure. -/
def ProbeAccepts (name : String) : Prop :=
  isConservativeSoftwareCodecName name = false ∧ isSecureCodec name = false

/-- The name of a component, when it has reported one. -/
def Component.Accepted (component : Component) : Prop :=
  ∀ name, component.name = some name → ProbeAccepts name

/-- The codecs that a session holds. -/
def CodecSession.codecs (session : CodecSession) : List Handle :=
  [session.codec, session.decoder, session.transcodeEncoder].reduceOption

/-- No codec of the session has reported a name of software or of a secure component. -/
def HardwareOnly (state : Components) (session : CodecSession) : Prop :=
  ∀ codec ∈ session.codecs, ∀ component, state codec = some component → component.Accepted

/-- How a candidate is requested; the empty name asks for the type. -/
def nameRequest (encoder : Bool) (mime name : String) : CodecRequest :=
  if name = "" then if encoder then .encoderByType mime else .decoderByType mime
  else .byName name

/-- What the platform puts behind the names that `new_codec` goes by. -/
structure Naming.Honest (platform : Naming) : Prop where
  /-- No component behind a name that the store lists as hardware is software or secure. -/
  listed : ∀ encoder codec mime, mimeForCodec codec = some mime →
    ∀ name ∈ storeNames (platform.store encoder mime), ∀ runtime,
      platform.reports (nameRequest encoder mime name) runtime = true → ProbeAccepts runtime
  /-- Nor is one behind a legacy name. -/
  legacy : ∀ encoder codec, ∀ name ∈ legacyCandidates codec encoder, ∀ runtime,
    platform.reports (.byName name) runtime = true → ProbeAccepts runtime
  /-- Of its own choice for a type the platform makes no secure component with a hardware name. -/
  chosen : ∀ encoder codec mime, mimeForCodec codec = some mime → ∀ runtime,
    platform.reports (nameRequest encoder mime "") runtime = true → hardwareName runtime = true →
      isSecureCodec runtime = false

/-! ### What a creation comes to hold -/

section Sound

variable {platform : Naming} {state : Components} {candidate : CodecCandidate} {encoder : Bool}
  {mime : String}

/-- What `new_codec` accepts of a candidate, the probe accepts. -/
def Trusted (platform : Naming) (encoder : Bool) (mime : String) (candidate : CodecCandidate) : Prop :=
  ∀ runtime, platform.reports (nameRequest encoder mime candidate.name) runtime = true →
    candidate.hardwareProven = true ∨ hardwareName runtime = true → ProbeAccepts runtime

/-- The components as they were, or one more that the probe accepts. -/
def Gains (before after : Components) : Option Handle → Prop
  | none => after = before
  | some codec => before codec = none ∧ ∃ component : Component, component.Accepted ∧
      after = Function.update before codec (some component)

/-- Deleting a component that was just created leaves the components as they were before. -/
theorem update_delete {codec : Handle} {component : Option Component} (fresh : state codec = none) :
    Function.update (Function.update state codec component) codec none = state := by
  rw [Function.update_idem, Function.update_eq_self_iff, fresh]

/-- The name that a component reports is one that the platform allows for the request it was created by.
-/
theorem runtimeName_watched {codec : Handle} {request : CodecRequest} :
    Tracks (watchNames platform) (Function.update state codec (some ⟨request, none⟩)) (runtimeName codec)
      fun after reported => after = Function.update state codec (some ⟨request, reported⟩) ∧
        ∀ name, reported = some name → platform.reports request name = true := by
  rw [runtimeName]
  refine tracks_quiet (fun _ => rfl) fun getName => ?_
  refine tracks_quiet (fun _ => rfl) fun releaseName => ?_
  split
  · intro reported last seen
    cases reported with
    | none =>
        cases seen
        exact ⟨rfl, by simp⟩
    | some name =>
        simp only [observed, watchNames, Function.update_self] at seen
        split at seen
        next possible =>
          cases seen
          rw [Function.update_idem]
          exact ⟨rfl, fun other same => by cases same; exact possible⟩
        next => cases seen
  · exact tracks_pure ⟨rfl, by simp⟩

/-- From a trusted candidate `new_codec` gets a component that is neither software nor secure, or
releases what it got. -/
theorem newCodec_gains (trusted : Trusted platform encoder mime candidate) :
    Tracks (watchNames platform) state (newCodec candidate encoder mime) fun after selected =>
      Gains state after (selected.map Prod.fst) := by
  rw [newCodec, ← nameRequest]
  apply tracks_call
  intro created next moved
  cases created with
  | none =>
      cases moved
      exact tracks_pure rfl
  | some codec =>
      cases fresh : state codec with
      | some component =>
          rw [watchNames, fresh] at moved
          cases moved
      | none =>
          rw [watchNames, fresh] at moved
          cases moved
          apply tracks_bind
          refine runtimeName_watched.mono fun after reported known => ?_
          obtain ⟨rfl, possible⟩ := known
          dsimp only
          split
          next accepted =>
            refine tracks_pure ⟨fresh, _, ?_, rfl⟩
            intro name same
            subst same
            rw [Option.getD_some, Bool.or_eq_true] at accepted
            exact trusted name (possible name rfl) accepted
          next =>
            refine tracks_call fun deleted next moved => ?_
            cases moved
            exact tracks_pure (update_delete fresh)

/-- Configuring and starting a component changes no name. -/
theorem configureStart_watched {codec : Handle} {format : VideoFormat} {surface : Option Handle}
    {encode : Bool} :
    Tracks (watchNames platform) state (configureStart codec format surface encode)
      fun after _ => after = state := by
  rw [configureStart]
  refine tracks_quiet (fun _ => rfl) fun configured => ?_
  split
  · exact tracks_quiet (fun _ => rfl) fun started => tracks_pure rfl
  · exact tracks_pure rfl

theorem tracks_delete {α : Type} {codec : Handle} {component : Option Component}
    {rest : Unit → Platform α} {post : Components → α → Prop} (fresh : state codec = none)
    (holds : Tracks (watchNames platform) state (rest ()) post) :
    Tracks (watchNames platform) (Function.update state codec component)
      (Platform.call (.deleteCodec codec) >>= rest) post := by
  apply tracks_call
  intro deleted next moved
  cases moved
  rw [update_delete fresh]
  exact holds

/-! ### Byte-buffer sessions -/

def Attempt.codec {α : Type} (codec : α → Handle) : Attempt α → Option Handle
  | .built value => some (codec value)
  | .next | .failed _ => none

def resultCodec {α : Type} (codec : α → Handle) : Except Failure α → Option Handle
  | .error _ => none
  | .ok value => some (codec value)

/-- Whichever color format is accepted in the end, the encoder loop holds at most one component and this
one is trusted. -/
theorem tryEncoderColors_gains {parameters : EncoderParameters}
    (trusted : Trusted platform true parameters.mime candidate) (colors : List UInt32) :
    Tracks (watchNames platform) state (tryEncoderColors parameters candidate colors)
      fun after attempt => Gains state after (attempt.codec StartedEncoder.codec) := by
  induction colors with
  | nil => exact tracks_pure rfl
  | cons listed colors ih =>
      rw [tryEncoderColors]
      apply tracks_bind
      refine (newCodec_gains trusted).mono fun after selected gained => ?_
      cases selected with
      | none =>
          cases gained
          dsimp only
          split
          · exact tracks_pure rfl
          · exact ih
      | some selected =>
          obtain ⟨fresh, component, accepted, rfl⟩ := gained
          refine tracks_quiet (fun _ => rfl) fun format => ?_
          split
          · exact tracks_delete fresh (tracks_pure rfl)
          apply tracks_bind
          refine configureStart_watched.mono fun _ running same => ?_
          subst same
          split
          · exact tracks_pure ⟨fresh, component, accepted, rfl⟩
          apply tracks_delete fresh
          split
          · exact tracks_pure rfl
          · exact ih

/-- Over all candidates of an encoder at most one component is held, and it is trusted. -/
theorem tryEncoders_gains {parameters : EncoderParameters} (candidates : List CodecCandidate)
    (trusted : ∀ candidate ∈ candidates, Trusted platform true parameters.mime candidate) :
    Tracks (watchNames platform) state (tryEncoders parameters candidates)
      fun after found => Gains state after (resultCodec StartedEncoder.codec found) := by
  induction candidates with
  | nil => exact tracks_pure rfl
  | cons candidate candidates ih =>
      rw [tryEncoders]
      apply tracks_bind
      refine (tryEncoderColors_gains (trusted candidate (.head _)) _).mono
        fun after attempt gained => ?_
      cases attempt with
      | next =>
          cases gained
          exact ih fun other member => trusted other (.tail _ member)
      | failed error => exact tracks_pure gained
      | built encoder => exact tracks_pure gained

section Decoders

variable {width height frameRate : UInt32}

/-- Trying a decoder holds its component only when it was configured and started. -/
theorem tryDecoder_gains (trusted : Trusted platform false mime candidate) :
    Tracks (watchNames platform) state (tryDecoder mime width height frameRate candidate)
      fun after attempt => Gains state after (attempt.codec StartedDecoder.codec) := by
  rw [tryDecoder]
  refine tracks_quiet (fun _ => rfl) fun opened => ?_
  split
  · exact tracks_pure rfl
  refine tracks_quiet (fun _ => rfl) fun shown => ?_
  split
  · exact tracks_quiet (fun _ => rfl) fun deleted => tracks_pure rfl
  apply tracks_bind
  refine (newCodec_gains trusted).mono fun after selected gained => ?_
  cases selected with
  | none =>
      cases gained
      exact tracks_quiet (fun _ => rfl) fun deleted => tracks_pure rfl
  | some selected =>
      obtain ⟨fresh, component, accepted, rfl⟩ := gained
      refine tracks_quiet (fun _ => rfl) fun format => ?_
      split
      · exact tracks_delete fresh (tracks_quiet (fun _ => rfl) fun deleted => tracks_pure rfl)
      apply tracks_bind
      refine configureStart_watched.mono fun _ running same => ?_
      subst same
      split
      · exact tracks_pure ⟨fresh, component, accepted, rfl⟩
      · exact tracks_delete fresh (tracks_quiet (fun _ => rfl) fun deleted => tracks_pure rfl)

/-- Over all candidates of a decoder at most one component is held, and it is trusted. -/
theorem tryDecoders_gains (candidates : List CodecCandidate)
    (trusted : ∀ candidate ∈ candidates, Trusted platform false mime candidate) :
    Tracks (watchNames platform) state (tryDecoders mime width height frameRate candidates)
      fun after found => Gains state after (resultCodec StartedDecoder.codec found) := by
  induction candidates with
  | nil => exact tracks_pure rfl
  | cons candidate candidates ih =>
      rw [tryDecoders]
      apply tracks_bind
      refine (tryDecoder_gains (trusted candidate (.head _))).mono fun after attempt gained => ?_
      cases attempt with
      | next =>
          cases gained
          exact ih fun other member => trusted other (.tail _ member)
      | failed error => exact tracks_pure gained
      | built decoder => exact tracks_pure gained

end Decoders

/-- What is in a table after an addition was there before or is the candidate that was added. -/
theorem mem_addCandidate {candidates : List CodecCandidate} {name : String} {hardwareProven : Bool}
    (member : candidate ∈ addCandidate candidates (some name) hardwareProven) :
    candidate ∈ candidates ∨ candidate = ⟨name, hardwareProven⟩ := by
  rw [addCandidate] at member
  split at member
  · exact .inl member
  · simpa using member

/-- Behind those found before, the table has the legacy names of the codec, all of them proven. -/
theorem mem_addLegacyCandidates {codec : UInt32} {found : List CodecCandidate}
    (member : candidate ∈ addLegacyCandidates found codec encoder) :
    candidate ∈ found ∨ ∃ name ∈ legacyCandidates codec encoder, candidate = ⟨name, true⟩ := by
  rw [addLegacyCandidates] at member
  generalize legacyCandidates codec encoder = names at member ⊢
  induction names generalizing found with
  | nil => exact .inl member
  | cons name names ih =>
      rcases ih member with known | ⟨other, listed, same⟩
      · rcases mem_addCandidate known with known | same
        · exact .inl known
        · exact .inr ⟨name, .head _, same⟩
      · exact .inr ⟨other, .tail _ listed, same⟩

/-- No legacy name is empty, so that none of them leaves the choice to the platform. -/
theorem legacyCandidates_named {codec : UInt32} {name : String}
    (member : name ∈ legacyCandidates codec encoder) : name ≠ "" := by
  rintro rfl
  rw [legacyCandidates] at member
  split at member
  · simp at member
  split at member
  · simp at member
  split at member
  · simp at member
  split at member
  · simp at member
  · simp at member

/-- The candidates of an honest platform: whether the store can be read or not, each of them is one
whose components call themselves what they are taken for. -/
theorem collectCandidates_trusted (honest : platform.Honest) {codec : UInt32}
    (known : mimeForCodec codec = some mime) :
    Tracks (watchNames platform) state (collectCandidates codec encoder) fun after candidates =>
      after = state ∧ ∀ candidate ∈ candidates, Trusted platform encoder mime candidate := by
  rw [collectCandidates]
  refine tracks_quiet (fun _ => rfl) fun find => ?_
  refine tracks_quiet (fun _ => rfl) fun infoName => ?_
  refine tracks_quiet (fun _ => rfl) fun infoType => ?_
  apply tracks_bind
  have store : Tracks (watchNames platform) state
      (storeCandidates codec encoder (find && infoName && infoType)) fun after found =>
        after = state ∧ ∀ candidate ∈ found, candidate.hardwareProven = true ∧
          candidate.name ∈ storeNames (platform.store encoder mime) := by
    rw [storeCandidates, known]
    dsimp only
    split
    · refine tracks_quiet (fun _ => rfl) fun format => ?_
      split
      · refine tracks_call fun listed next moved => ?_
        rw [watchNames] at moved
        split at moved
        next same =>
          cases moved
          rw [same, addStoreCandidates_eq]
          refine tracks_pure ⟨rfl, ?_⟩
          simp [proven]
        next => cases moved
      · exact tracks_pure ⟨rfl, by simp⟩
    · exact tracks_pure ⟨rfl, by simp⟩
  refine store.mono fun after found listed => ?_
  obtain ⟨rfl, listed⟩ := listed
  refine tracks_pure ⟨rfl, fun candidate member runtime possible accepted => ?_⟩
  rcases mem_addCandidate member with member | rfl
  · rcases mem_addLegacyCandidates member with member | ⟨name, legacy, rfl⟩
    · exact honest.listed encoder codec mime known _ (listed candidate member).2 runtime possible
    · rw [nameRequest, if_neg (legacyCandidates_named legacy)] at possible
      exact honest.legacy encoder codec name legacy runtime possible
  · have hardware : hardwareName runtime = true := accepted.resolve_left Bool.false_ne_true
    exact ⟨not_software_of_hardwareName hardware,
      honest.chosen encoder codec mime known runtime possible hardware⟩

/-- What holds of the value of a result that is no error. -/
def OnSuccess {α : Type} (holds : α → Prop) : Except Failure α → Prop
  | .error _ => True
  | .ok value => holds value

/-- A session with one codec holds what was gained. -/
theorem hardwareOnly_of_gains {after : Components} {codec : Handle} {session : CodecSession}
    (gained : Gains state after (some codec)) (only : session.codecs = [codec]) :
    HardwareOnly after session := by
  obtain ⟨_, component, accepted, rfl⟩ := gained
  intro other member found present
  rw [only, List.mem_singleton] at member
  subst member
  rw [Function.update_self] at present
  cases present
  exact accepted

/-- On an honest platform a byte-buffer session of either mode holds hardware components only. -/
theorem createByMode_hardwareOnly (honest : platform.Honest) {mode codec : UInt32}
    {parameters : EncoderParameters} {session : CodecSession} (nothing : session.HoldsNothing)
    (known : mimeForCodec codec = some parameters.mime) :
    Tracks (watchNames platform) state (createByMode mode codec parameters session)
      fun after built => OnSuccess (HardwareOnly after) built := by
  rw [createByMode]
  split
  · rw [createEncoder]
    apply tracks_bind
    refine (collectCandidates_trusted honest known).mono fun _ candidates collected => ?_
    obtain ⟨rfl, trusted⟩ := collected
    apply tracks_bind
    refine (tryEncoders_gains candidates trusted).mono fun after found gained => ?_
    cases found with
    | error failure => exact tracks_pure trivial
    | ok encoder =>
        refine tracks_pure (hardwareOnly_of_gains gained ?_)
        simp [CodecSession.codecs, nothing.decoder, nothing.transcodeEncoder]
  · rw [createDecoder]
    apply tracks_bind
    refine (collectCandidates_trusted honest known).mono fun _ candidates collected => ?_
    obtain ⟨rfl, trusted⟩ := collected
    apply tracks_bind
    refine (tryDecoders_gains candidates trusted).mono fun after found gained => ?_
    cases found with
    | error failure => exact tracks_pure trivial
    | ok decoder =>
        refine tracks_pure (hardwareOnly_of_gains gained ?_)
        simp [CodecSession.codecs, nothing.decoder, nothing.transcodeEncoder]

theorem tracks_gives_up {program : Platform Unit} {failure : Failure} {post : Components → Created → Prop} :
    Tracks (watchNames platform) state (do program; pure (Except.error failure))
      fun after result => OnSuccess (post after) result := by
  rw [Tracks, all_iff_forall_runs]
  intro log result run last _
  obtain ⟨_, _, _, _, rest, _⟩ := run.of_bind
  obtain ⟨_, rfl⟩ := rest.of_pure
  trivial

/-- On an honest platform `dscw_codec_create` succeeds with hardware components only, whatever its
parameters are. -/
theorem dscwCodecCreate_hardwareOnly (honest : platform.Honest)
    (mode codec width height frameRate bitrate color : UInt32) (descriptionSize : Nat) :
    Tracks (watchNames platform) state
      (dscwCodecCreate mode codec width height frameRate bitrate color descriptionSize)
      fun after result => OnSuccess (fun created => HardwareOnly after created.session) result := by
  rw [dscwCodecCreate]
  split
  · exact tracks_pure trivial
  next mime known =>
    split
    · exact tracks_pure trivial
    split
    · exact tracks_pure trivial
    refine tracks_quiet (fun _ => rfl) fun allocated => ?_
    split
    · exact tracks_pure trivial
    refine tracks_quiet (fun _ => rfl) fun startedNs => ?_
    have nothing : CodecSession.HoldsNothing { width, height, frameRate, startedNs } :=
      ⟨rfl, rfl, rfl, rfl, rfl⟩
    apply tracks_bind
    refine (createByMode_hardwareOnly honest nothing known).mono fun after built hardware => ?_
    cases built with
    | error failure => exact tracks_gives_up
    | ok session =>
        dsimp only
        split
        · exact tracks_gives_up
        · exact tracks_pure hardware

/-! ### Surface transcoders -/

section Transcoders

variable {inputMime outputMime : String} {width height frameRate bitrate : UInt32}

/-- Starting an encoder on its surface changes no name. -/
theorem startSurfaceEncoder_watched {codec : Handle} {made : MediaStatus} :
    Tracks (watchNames platform) state (startSurfaceEncoder codec made) fun after _ => after = state := by
  rw [startSurfaceEncoder]
  split
  · exact tracks_quiet (fun _ => rfl) fun status => tracks_pure rfl
  · exact tracks_pure rfl

/-- A Surface encoder that is configured holds a trusted component, and one that is not holds none. -/
theorem configureSurfaceEncoder_gains (trusted : Trusted platform true outputMime candidate) :
    Tracks (watchNames platform) state
      (configureSurfaceEncoder candidate outputMime width height frameRate bitrate)
      fun after configured => Gains state after (configured.map SurfaceEncoder.codec) := by
  rw [configureSurfaceEncoder]
  refine tracks_quiet (fun _ => rfl) fun available => ?_
  split
  · exact tracks_pure rfl
  apply tracks_bind
  refine (newCodec_gains trusted).mono fun after selected gained => ?_
  cases selected with
  | none => exact tracks_pure gained
  | some selected =>
      obtain ⟨fresh, component, accepted, rfl⟩ := gained
      refine tracks_quiet (fun _ => rfl) fun format => ?_
      split
      · exact tracks_delete fresh (tracks_pure rfl)
      refine tracks_quiet (fun _ => rfl) fun status => ?_
      split
      · exact tracks_delete fresh (tracks_pure rfl)
      refine tracks_quiet (fun _ => rfl) fun made => ?_
      split
      · exact tracks_delete fresh (tracks_pure rfl)
      apply tracks_bind
      refine startSurfaceEncoder_watched.mono fun _ started same => ?_
      subst same
      split
      · exact tracks_pure ⟨fresh, component, accepted, rfl⟩
      · exact tracks_quiet (fun _ => rfl) fun released => tracks_delete fresh (tracks_pure rfl)

/-- The decoder loop for one surface holds at most one component, and it is trusted. -/
theorem trySurfaceDecoders_gains (surface : Handle) (candidates : List CodecCandidate)
    (trusted : ∀ candidate ∈ candidates, Trusted platform false inputMime candidate) :
    Tracks (watchNames platform) state
      (trySurfaceDecoders inputMime width height frameRate surface candidates)
      fun after found => Gains state after (found.map Prod.fst) := by
  induction candidates with
  | nil => exact tracks_pure rfl
  | cons candidate candidates ih =>
      have others := ih fun other member => trusted other (.tail _ member)
      rw [trySurfaceDecoders]
      apply tracks_bind
      refine (newCodec_gains (trusted candidate (.head _))).mono fun after selected gained => ?_
      cases selected with
      | none =>
          cases gained
          exact others
      | some selected =>
          obtain ⟨fresh, component, accepted, rfl⟩ := gained
          refine tracks_quiet (fun _ => rfl) fun format => ?_
          split
          · exact tracks_delete fresh others
          apply tracks_bind
          refine configureStart_watched.mono fun _ running same => ?_
          subst same
          split
          · exact tracks_pure ⟨fresh, component, accepted, rfl⟩
          · exact tracks_delete fresh others

/-- The two codecs of a pair are gained one after the other. -/
def GainsPair (before after : Components) (pair : SurfacePair) : Prop :=
  ∃ middle, Gains before middle (some pair.encoder.codec) ∧ Gains middle after (some pair.decoder)

/-- A pair is held as a whole: an encoder without a decoder is released before the next one is tried. -/
theorem trySurfacePairs_gains (decoders candidates : List CodecCandidate)
    (encoding : ∀ candidate ∈ candidates, Trusted platform true outputMime candidate)
    (decoding : ∀ candidate ∈ decoders, Trusted platform false inputMime candidate) :
    Tracks (watchNames platform) state
      (trySurfacePairs inputMime outputMime width height frameRate bitrate decoders candidates)
      fun after found => ∀ pair, found = some pair → GainsPair state after pair := by
  induction candidates with
  | nil => exact tracks_pure nofun
  | cons candidate candidates ih =>
      have others := ih fun other member => encoding other (.tail _ member)
      rw [trySurfacePairs]
      apply tracks_bind
      refine (configureSurfaceEncoder_gains (encoding candidate (.head _))).mono
        fun middle configured gained => ?_
      cases configured with
      | none =>
          cases gained
          exact others
      | some encoder =>
          apply tracks_bind
          refine (trySurfaceDecoders_gains encoder.surface decoders decoding).mono
            fun after found also => ?_
          cases found with
          | some found =>
              refine tracks_pure fun pair same => ?_
              cases same
              exact ⟨middle, gained, also⟩
          | none =>
              cases also
              obtain ⟨fresh, component, _, rfl⟩ := gained
              apply tracks_bind
              refine tracks_quiet (fun _ => rfl) fun stopped => ?_
              refine tracks_delete fresh (tracks_pure ?_)
              exact tracks_quiet (fun _ => rfl) fun released => others

/-- A transcoder holds the two codecs that were gained. -/
theorem hardwareOnly_of_gainsPair {after : Components} {pair : SurfacePair} {session : CodecSession}
    (gained : GainsPair state after pair)
    (both : session.codecs = [pair.decoder, pair.encoder.codec]) : HardwareOnly after session := by
  obtain ⟨middle, ⟨_, encoder, encoderAccepted, rfl⟩, fresh, decoder, decoderAccepted, rfl⟩ := gained
  intro codec member component present
  rw [both, List.mem_pair] at member
  by_cases decoding : codec = pair.decoder
  · subst decoding
    rw [Function.update_self] at present
    cases present
    exact decoderAccepted
  · have encoding : codec = pair.encoder.codec := member.resolve_left decoding
    subst encoding
    rw [Function.update_of_ne decoding, Function.update_self] at present
    cases present
    exact encoderAccepted

/-- On an honest platform `dscw_codec_create_transcoder` succeeds with two hardware components. -/
theorem dscwCodecCreateTranscoder_hardwareOnly (honest : platform.Honest)
    (inputCodec outputCodec : UInt32) (descriptionSize : Nat) :
    Tracks (watchNames platform) state
      (dscwCodecCreateTranscoder inputCodec outputCodec width height frameRate bitrate
        descriptionSize)
      fun after result => OnSuccess (fun created => HardwareOnly after created.session) result := by
  rw [dscwCodecCreateTranscoder]
  split
  next inputMime outputMime input output =>
    split
    · exact tracks_pure trivial
    refine tracks_quiet (fun _ => rfl) fun createInputSurface => ?_
    refine tracks_quiet (fun _ => rfl) fun signalInputEos => ?_
    split
    · exact tracks_pure trivial
    rw [createTranscoderChecked]
    apply tracks_bind
    refine (collectCandidates_trusted honest output).mono fun _ encoders collected => ?_
    obtain ⟨rfl, encoding⟩ := collected
    apply tracks_bind
    refine (collectCandidates_trusted honest input).mono fun _ decoders collected => ?_
    obtain ⟨rfl, decoding⟩ := collected
    refine tracks_quiet (fun _ => rfl) fun allocated => ?_
    split
    · exact tracks_pure trivial
    refine tracks_quiet (fun _ => rfl) fun startedNs => ?_
    apply tracks_bind
    refine (trySurfacePairs_gains decoders encoders encoding decoding).mono fun after found gained => ?_
    cases found with
    | none => exact tracks_gives_up
    | some pair =>
        dsimp only
        split
        · exact tracks_pure (hardwareOnly_of_gainsPair (gained pair rfl) rfl)
        · exact tracks_gives_up
  · exact tracks_pure trivial

end Transcoders

/-- On an honest platform each of the two create calls returns hardware components only. -/
theorem Creation.hardwareOnly (honest : platform.Honest) (creation : Creation) :
    Tracks (watchNames platform) state creation.perform
      fun after result => OnSuccess (fun created => HardwareOnly after created.session) result := by
  cases creation with
  | bytebuffer => exact dscwCodecCreate_hardwareOnly honest ..
  | transcoder => exact dscwCodecCreateTranscoder_hardwareOnly honest ..

end Sound

/-! ### What a creation can be made to hold -/

section Exact

variable {platform : Naming} {state : Components} {candidate : CodecCandidate} {encoder : Bool}
  {mime runtime : String} {codec : Handle} {candidates : List CodecCandidate}

/-- A component that a candidate is tried with, and that has reported its name. -/
def reportedAs (encoder : Bool) (mime : String) (candidate : CodecCandidate) (runtime : String) :
    Component :=
  ⟨nameRequest encoder mime candidate.name, some runtime⟩

/-- The platform has a component for the candidate, and `new_codec` accepts it under that name. -/
structure Offered (platform : Naming) (encoder : Bool) (mime : String) (candidate : CodecCandidate)
    (runtime : String) : Prop where
  possible : platform.reports (nameRequest encoder mime candidate.name) runtime = true
  accepted : candidate.hardwareProven = true ∨ hardwareName runtime = true

/-- The platform may refuse to create a component, and then nothing is held. -/
theorem newCodec_refused :
    Reaches (watchNames platform) state (newCodec candidate encoder mime) state none := by
  rw [newCodec, ← nameRequest]
  exact reaches_call none rfl reaches_pure

/-- A candidate that the platform offers under a name is taken when it is proven or the name proves it.
-/
theorem newCodec_offered (fresh : state codec = none)
    (offered : Offered platform encoder mime candidate runtime) :
    Reaches (watchNames platform) state (newCodec candidate encoder mime)
      (Function.update state codec (some (reportedAs encoder mime candidate runtime)))
      (some (codec, boundedName runtime maxCodecName)) := by
  rw [newCodec, ← nameRequest]
  refine reaches_call (some codec) (by rw [watchNames, fresh]) ?_
  have named : Reaches (watchNames platform)
      (Function.update state codec (some ⟨nameRequest encoder mime candidate.name, none⟩))
      (runtimeName codec)
      (Function.update state codec (some (reportedAs encoder mime candidate runtime)))
      (some runtime) := by
    rw [runtimeName]
    refine reaches_call true rfl (reaches_call true rfl ?_)
    refine ⟨[⟨.getName codec, some runtime⟩], runs_call _ _, ?_⟩
    simp [observed, watchNames, offered.possible, reportedAs]
  refine reaches_bind named ?_
  rw [Option.getD_some, if_pos (Bool.or_eq_true_iff.mpr offered.accepted)]
  exact reaches_pure

/-- The platform may configure and start whatever component there is. -/
theorem configureStart_succeeds {format : VideoFormat} {surface : Option Handle} {encode : Bool} :
    Reaches (watchNames platform) state (configureStart codec format surface encode) state true := by
  rw [configureStart]
  exact reaches_call amediaOk rfl (reaches_call amediaOk rfl reaches_pure)

/-- The platform may refuse a candidate in every color format, and the loop goes on to the next one. -/
theorem tryEncoderColors_refused (parameters : EncoderParameters) (colors : List UInt32) :
    Reaches (watchNames platform) state (tryEncoderColors parameters candidate colors) state .next := by
  induction colors with
  | nil => exact reaches_pure
  | cons listed colors ih =>
      rw [tryEncoderColors]
      refine reaches_bind newCodec_refused ?_
      dsimp only
      split
      · exact reaches_pure
      · exact ih

/-- A candidate that is offered may be started in the first color format. -/
theorem tryEncoderColors_offered {parameters : EncoderParameters} (fresh : state codec = none)
    (offered : Offered platform true parameters.mime candidate runtime) (listed : UInt32)
    (colors : List UInt32) :
    Reaches (watchNames platform) state (tryEncoderColors parameters candidate (listed :: colors))
      (Function.update state codec (some (reportedAs true parameters.mime candidate runtime)))
      (.built ⟨codec, boundedName runtime maxCodecName,
        if parameters.requestedColor = 0 then listed else parameters.requestedColor⟩) := by
  rw [tryEncoderColors]
  refine reaches_bind (newCodec_offered fresh offered) ?_
  refine reaches_call true rfl ?_
  exact reaches_bind configureStart_succeeds reaches_pure

/-- Any candidate of the list may be the one that is started, for the platform can refuse all those
before it. -/
theorem tryEncoders_offered {parameters : EncoderParameters} (fresh : state codec = none)
    (member : candidate ∈ candidates)
    (offered : Offered platform true parameters.mime candidate runtime) :
    ∃ encoder : StartedEncoder, encoder.codec = codec ∧
      Reaches (watchNames platform) state (tryEncoders parameters candidates)
        (Function.update state codec (some (reportedAs true parameters.mime candidate runtime)))
        (.ok encoder) := by
  induction candidates with
  | nil => cases member
  | cons first candidates ih =>
      cases member with
      | head =>
          exact ⟨_, rfl, reaches_bind (tryEncoderColors_offered fresh offered _ _) reaches_pure⟩
      | tail _ member =>
          obtain ⟨encoder, same, reached⟩ := ih member
          exact ⟨encoder, same, reaches_bind (tryEncoderColors_refused parameters _) reached⟩

/-- A decoder that is offered may be configured and started. -/
theorem tryDecoder_offered {width height frameRate : UInt32} (fresh : state codec = none)
    (offered : Offered platform false mime candidate runtime) :
    Reaches (watchNames platform) state (tryDecoder mime width height frameRate candidate)
      (Function.update state codec (some (reportedAs false mime candidate runtime)))
      (.built ⟨codec, 0, boundedName runtime maxCodecName⟩) := by
  rw [tryDecoder]
  refine reaches_call (amediaOk, some 0) rfl ?_
  refine reaches_call (amediaOk, some 0) rfl ?_
  refine reaches_bind (newCodec_offered fresh offered) ?_
  refine reaches_call true rfl ?_
  exact reaches_bind configureStart_succeeds reaches_pure

/-- Any candidate of the list may be the decoder that is started, for the platform can refuse all those
before it. -/
theorem tryDecoders_offered {width height frameRate : UInt32} (fresh : state codec = none)
    (member : candidate ∈ candidates) (offered : Offered platform false mime candidate runtime) :
    ∃ decoder : StartedDecoder, decoder.codec = codec ∧
      Reaches (watchNames platform) state (tryDecoders mime width height frameRate candidates)
        (Function.update state codec (some (reportedAs false mime candidate runtime)))
        (.ok decoder) := by
  induction candidates with
  | nil => cases member
  | cons first candidates ih =>
      cases member with
      | head =>
          exact ⟨_, rfl, reaches_bind (tryDecoder_offered fresh offered) reaches_pure⟩
      | tail _ member =>
          obtain ⟨decoder, same, reached⟩ := ih member
          have refused : Reaches (watchNames platform) state
              (tryDecoder mime width height frameRate first) state .next := by
            rw [tryDecoder]
            exact reaches_call (amediaOk, none) rfl reaches_pure
          exact ⟨decoder, same, reaches_bind refused reached⟩

/-- The candidates when the store can be read. -/
theorem collectCandidates_listed {codec : UInt32} (known : mimeForCodec codec = some mime) :
    Reaches (watchNames platform) state (collectCandidates codec encoder) state
      (addCandidate (addLegacyCandidates (proven (storeNames (platform.store encoder mime))) codec
        encoder) (some "") false) := by
  have store : Reaches (watchNames platform) state (storeCandidates codec encoder true) state
      (proven (storeNames (platform.store encoder mime))) := by
    rw [storeCandidates, known]
    refine reaches_call true rfl ?_
    rw [← addStoreCandidates_eq]
    exact reaches_call (platform.store encoder mime) (if_pos rfl) reaches_pure
  rw [collectCandidates]
  refine reaches_call true rfl (reaches_call true rfl (reaches_call true rfl ?_))
  exact reaches_bind store reaches_pure

theorem collectCandidates_unlisted {codec : UInt32} :
    Reaches (watchNames platform) state (collectCandidates codec encoder) state
      (addCandidate (addLegacyCandidates [] codec encoder) (some "") false) := by
  have store : Reaches (watchNames platform) state (storeCandidates codec encoder false) state [] := by
    rw [storeCandidates]
    split
    · exact reaches_pure
    · exact reaches_pure
  rw [collectCandidates]
  refine reaches_call false rfl (reaches_call true rfl (reaches_call true rfl ?_))
  exact reaches_bind store reaches_pure

/-- An addition takes nothing out of the table. -/
theorem mem_addCandidate_of_mem {name : Option String} {hardwareProven : Bool}
    (member : candidate ∈ candidates) : candidate ∈ addCandidate candidates name hardwareProven := by
  unfold addCandidate
  split
  · exact member
  split
  · exact member
  · exact List.mem_append_left _ member

/-- The legacy names take nothing out of the table. -/
theorem mem_addLegacyCandidates_of_mem {codec : UInt32} (member : candidate ∈ candidates) :
    candidate ∈ addLegacyCandidates candidates codec encoder := by
  rw [addLegacyCandidates]
  generalize legacyCandidates codec encoder = names
  induction names generalizing candidates with
  | nil => exact member
  | cons name names ih => exact ih (mem_addCandidate_of_mem member)

theorem codec_of_mime {codec : UInt32} (known : mimeForCodec codec = some mime) :
    codec = codecAvc ∨ codec = codecHevc := by
  rw [mimeForCodec] at known
  split at known
  next same => exact .inl same
  split at known
  next same => exact .inr same
  cases known

theorem mime_of_legacy {codec : UInt32} {name : String}
    (member : name ∈ legacyCandidates codec encoder) : ∃ mime, mimeForCodec codec = some mime := by
  by_cases avc : codec = codecAvc
  · exact ⟨_, if_pos avc⟩
  by_cases hevc : codec = codecHevc
  · exact ⟨"video/hevc", by rw [mimeForCodec, if_neg avc, if_pos hevc]⟩
  · simp [legacyCandidates, avc, hevc] at member

/-- A store that cannot be read leaves every legacy name and the platform's own choice. -/
theorem unlisted_candidates {codec : UInt32} (known : mimeForCodec codec = some mime) :
    (∀ name ∈ legacyCandidates codec encoder, ⟨name, true⟩ ∈
      addCandidate (addLegacyCandidates [] codec encoder) (some "") false) ∧
      ⟨"", false⟩ ∈ addCandidate (addLegacyCandidates [] codec encoder) (some "") false := by
  rcases codec_of_mime known with rfl | rfl <;> cases encoder <;> decide

/-- A create call in the mode of an offered candidate may succeed with just that component. -/
theorem createByMode_offered {codecId : UInt32} (parameters : EncoderParameters)
    {allocated : CodecSession} (nothing : allocated.HoldsNothing) (fresh : state codec = none)
    (collected : Reaches (watchNames platform) state (collectCandidates codecId encoder) state candidates)
    (member : candidate ∈ candidates)
    (offered : Offered platform encoder parameters.mime candidate runtime) :
    ∃ session : CodecSession, session.codecs = [codec] ∧
      Reaches (watchNames platform) state
        (createByMode (if encoder then modeEncode else modeDecode) codecId parameters allocated)
        (Function.update state codec (some (reportedAs encoder parameters.mime candidate runtime)))
        (.ok session) := by
  cases encoder with
  | true =>
      obtain ⟨started, rfl, reached⟩ := tryEncoders_offered fresh member offered
      refine ⟨_, ?_, reaches_bind collected (reaches_bind reached reaches_pure)⟩
      simp [CodecSession.codecs, nothing.decoder, nothing.transcodeEncoder]
  | false =>
      obtain ⟨started, rfl, reached⟩ := tryDecoders_offered fresh member offered
      refine ⟨_, ?_, reaches_bind collected (reaches_bind reached reaches_pure)⟩
      simp [CodecSession.codecs, nothing.decoder, nothing.transcodeEncoder]

/-- Some creation comes to hold the component that is offered: one that asks for the codec of its type,
on a platform that answers as the naming allows. -/
theorem creation_offered (codec : Handle) {codecId : UInt32}
    (known : mimeForCodec codecId = some mime) (fresh : state codec = none)
    (collected : Reaches (watchNames platform) state (collectCandidates codecId encoder) state candidates)
    (member : candidate ∈ candidates) (offered : Offered platform encoder mime candidate runtime) :
    ∃ (creation : Creation) (created : Created), created.session.codecs = [codec] ∧
      Reaches (watchNames platform) state creation.perform
        (Function.update state codec (some (reportedAs encoder mime candidate runtime)))
        (.ok created) := by
  have nothing : CodecSession.HoldsNothing { width := 16, height := 16, frameRate := 1, startedNs := 0 } :=
    ⟨rfl, rfl, rfl, rfl, rfl⟩
  obtain ⟨session, holds, reached⟩ := createByMode_offered
    { mime, width := 16, height := 16, frameRate := 1, bitrate := 1000, requestedColor := 0 }
    nothing fresh collected member offered
  refine ⟨.bytebuffer (if encoder then modeEncode else modeDecode) codecId 16 16 1 1000 0
    (strlen (createDescription session mime) + 1), ⟨session, createDescription session mime⟩, holds, ?_⟩
  have mode : ¬((if encoder then modeEncode else modeDecode) ≠ modeDecode ∧
      (if encoder then modeEncode else modeDecode) ≠ modeEncode) := by
    cases encoder <;> decide
  rw [Creation.perform, dscwCodecCreate, known]
  dsimp only
  rw [if_neg mode, if_neg (by decide)]
  refine reaches_call true rfl (reaches_call 0 rfl ?_)
  refine reaches_bind reached ?_
  dsimp only
  rw [if_neg (by omega)]
  exact reaches_pure

end Exact

/-- No creation on the platform, whatever is created, configured and started, returns a session with a
component that reports a name of software or of a secure component. -/
def Naming.Safe (platform : Naming) : Prop :=
  ∀ (creation : Creation) (log : Platform.Log) (created : Created) (last : Components),
    creation.perform.Runs log (.ok created) →
    observed (watchNames platform) (fun _ => none) log = some last →
    HardwareOnly last created.session

/-- On a safe platform every candidate that may be offered under a name has a name that is neither of
software nor secure, since some create call would return it. -/
theorem Naming.Safe.accepts {platform : Naming} {encoder : Bool} {mime runtime : String}
    {codecId : UInt32} {candidate : CodecCandidate} {candidates : List CodecCandidate}
    (safe : platform.Safe) (known : mimeForCodec codecId = some mime)
    (collected : Reaches (watchNames platform) (fun _ => none) (collectCandidates codecId encoder)
      (fun _ => none) candidates)
    (member : candidate ∈ candidates) (offered : Offered platform encoder mime candidate runtime) :
    ProbeAccepts runtime := by
  obtain ⟨creation, created, holds, log, run, seen⟩ :=
    creation_offered 1 known rfl collected member offered
  have accepted := safe creation log created _ run seen 1 (by rw [holds]; exact .head _)
  exact accepted _ (Function.update_self ..) runtime rfl

/-- No create call on a platform returns a component that reports a name of software or of a secure
component, whatever is created, configured and started, exactly if the platform reports none for a
type-2 or legacy name that is tried and selects no secure component of a maker on the list. -/
theorem hardware_only_iff (platform : Naming) : platform.Safe ↔ platform.Honest := by
  constructor
  · intro safe
    constructor
    case listed =>
      intro encoder codec mime known name member runtime possible
      have tried : (⟨name, true⟩ : CodecCandidate) ∈ proven (storeNames (platform.store encoder mime)) :=
        List.mem_map_of_mem member
      exact safe.accepts known (collectCandidates_listed known)
        (mem_addCandidate_of_mem (mem_addLegacyCandidates_of_mem tried)) ⟨possible, .inl rfl⟩
    case legacy =>
      intro encoder codec name member runtime possible
      obtain ⟨mime, known⟩ := mime_of_legacy member
      have same : nameRequest encoder mime name = .byName name := if_neg (legacyCandidates_named member)
      exact safe.accepts known collectCandidates_unlisted ((unlisted_candidates known).1 name member)
        ⟨same ▸ possible, .inl rfl⟩
    case chosen =>
      intro encoder codec mime known runtime possible hardware
      have accepts := safe.accepts known collectCandidates_unlisted (unlisted_candidates known).2
        ⟨possible, .inr hardware⟩
      exact accepts.2
  · intro honest creation log created last run seen
    exact run.of_tracks (creation.hardwareOnly honest) seen

/-- A store that lists a secure decoder as hardware accelerated, as the component calls itself. -/
def secureStore : Naming where
  store encoder mime :=
    if encoder = false ∧ mime = "video/avc" then [(some "c2.qti.avc.decoder.secure", 2)] else []
  reports request name :=
    request = .byName "c2.qti.avc.decoder.secure" && name = "c2.qti.avc.decoder.secure"

/-- A device with that store on which every call succeeds. -/
def secureDevice : (call : Platform.Call) → Platform.Answer call
  | .codecStore encoder mime => secureStore.store encoder mime
  | .getName _ => some "c2.qti.avc.decoder.secure"
  | call => Platform.allSucceed call

def smallDecoder : Creation := .bytebuffer modeDecode codecAvc 64 64 30 1000000 0 512

@[irreducible] def createdDecoder : Platform.Log × Except Failure Created :=
  smallDecoder.perform.respond secureDevice

/-- The decoder that the session holds there is the secure one, although the session was created as any
other is. -/
theorem secure_decoder_held :
    ∃ log created last, smallDecoder.perform.Runs log (.ok created) ∧
      observed (watchNames secureStore) (fun _ => none) log = some last ∧
      created.session.codec = some 1 ∧
      last 1 = some ⟨.byName "c2.qti.avc.decoder.secure", some "c2.qti.avc.decoder.secure"⟩ ∧
      isSecureCodec "c2.qti.avc.decoder.secure" = true ∧ ¬HardwareOnly last created.session := by
  have run : smallDecoder.perform.Runs createdDecoder.1 createdDecoder.2 := by
    rw [createdDecoder]
    exact runs_respond secureDevice smallDecoder.perform
  have held : createdDecoder.2.toOption.map (·.session.codec) = some (some 1) := by decide +kernel
  have named : (observed (watchNames secureStore) (fun _ => none) createdDecoder.1).map (· 1) =
      some (some ⟨.byName "c2.qti.avc.decoder.secure", some "c2.qti.avc.decoder.secure"⟩) := by
    decide +kernel
  obtain ⟨created, ok, codec⟩ := Option.map_eq_some_iff.mp held
  obtain ⟨last, seen, component⟩ := Option.map_eq_some_iff.mp named
  have result : createdDecoder.2 = .ok created := by
    cases outcome : createdDecoder.2 with
    | error failure =>
        rw [outcome] at ok
        cases ok
    | ok value =>
        rw [outcome] at ok
        cases ok
        rfl
  rw [result] at run
  refine ⟨createdDecoder.1, created, last, run, seen, codec, component, by decide +kernel, ?_⟩
  intro hardware
  have member : 1 ∈ created.session.codecs := by
    rw [CodecSession.codecs, codec]
    exact .head _
  have accepted := (hardware 1 member _ component _ rfl).2
  exact absurd accepted (by decide +kernel)

end DawnShell
