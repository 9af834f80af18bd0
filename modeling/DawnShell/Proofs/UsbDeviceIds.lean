/-
Module: DawnShell.Proofs.UsbDeviceIds
Layer: Proofs
Purpose: The list of VID:PID pairs as a text, on its way from the settings to the launcher.  Whatever the
  settings accept they store as the list of at most 32 distinct pairs in lower case; reading it back
  changes nothing, and the launcher reads exactly these pairs from it, in order.
Trusted boundary: none
Main exports: vidPid, idList, Listed, normalized_listed, normalize_idList, parseUsbDeviceFilter_idList
-/
import Mathlib.Data.List.Nodup
import DawnShell.App.Preferences
import DawnShell.Launcher.Arguments

namespace DawnShell.App

open Java Launcher

/-! ### The text of a list -/

/-- A hexadecimal digit, in lower case. -/
def hexDigit (value : Nat) : Char :=
  if value < 10 then Char.ofNat (0x30 + value) else Char.ofNat (0x57 + value)

/-- A word of sixteen bits. -/
def hexWord (word : Nat) : List Char :=
  [hexDigit (word / 4096), hexDigit (word / 256 % 16), hexDigit (word / 16 % 16), hexDigit (word % 16)]

/-- `VID:PID`. -/
def vidPid (id : UsbDeviceId) : List Char := hexWord id.vendor ++ ':' :: hexWord id.product

/-- The pairs with commas between them. -/
def idList : List UsbDeviceId → List Char
  | [] => []
  | [id] => vidPid id
  | id :: rest => vidPid id ++ ',' :: idList rest

/-- The lists that are stored. -/
structure Listed (ids : List UsbDeviceId) : Prop where
  words : ∀ id ∈ ids, id.vendor < 65536 ∧ id.product < 65536
  distinct : (ids.map fun id => literal (vidPid id)).Nodup
  few : ids.length ≤ 32

section Digits

variable {value : Nat}

/-- What both sides make of a digit. -/
structure DigitText (value : Nat) : Prop where
  hex : isHexUnit (UInt16.ofNat (hexDigit value).toNat) = true
  lower : lowerUnit (UInt16.ofNat (hexDigit value).toNat) = UInt16.ofNat (hexDigit value).toNat
  joined : separatesEntries (UInt16.ofNat (hexDigit value).toNat) = false
  above : 0x20 < UInt16.ofNat (hexDigit value).toNat
  ascii : (hexDigit value).toNat < 0x80
  read : hexDigitValue (hexDigit value) = some value

/-- Each of the sixteen digits is one character in lower case. -/
theorem digitText (small : value < 16) : DigitText value := by
  constructor
  all_goals
    revert value
    decide

/-- A digit of either case is, in lower case, the digit of its value. -/
theorem exists_hexDigit {unit : UInt16} (hex : isHexUnit unit = true) :
    ∃ value < 16, lowerUnit unit = UInt16.ofNat (hexDigit value).toNat := by
  have digits : ∀ number < 0x67, isHexUnit (UInt16.ofNat number) = true →
      ∃ value < 16, lowerUnit (UInt16.ofNat number) = UInt16.ofNat (hexDigit value).toNat := by
    decide +kernel
  have below : unit.toNat < 0x67 := by
    simp only [isHexUnit, Bool.or_eq_true, Bool.and_eq_true, decide_eq_true_eq,
      UInt16.le_iff_toNat_le, UInt16.reduceToNat] at hex
    omega
  have same : UInt16.ofNat unit.toNat = unit := UInt16.ofNat_toNat
  rw [← same] at hex ⊢
  exact digits unit.toNat below hex

theorem digits_lt {word : Nat} (small : word < 65536) :
    word / 4096 < 16 ∧ word / 256 % 16 < 16 ∧ word / 16 % 16 < 16 ∧ word % 16 < 16 := by
  omega

theorem parseUsbHexWord_hexWord {word : Nat} (small : word < 65536) (rest : List Char) :
    parseUsbHexWord (hexWord word ++ rest) = some word := by
  obtain ⟨one, two, three, four⟩ := digits_lt small
  simp only [hexWord, List.cons_append, parseUsbHexWord, (digitText one).read, (digitText two).read,
    (digitText three).read, (digitText four).read, Option.bind_eq_bind, Option.bind_some,
    Option.pure_def, Option.some.injEq]
  omega

end Digits

section Ids

variable {id : UsbDeviceId} {ids before : List UsbDeviceId}

/-- A pair of words. -/
def IsPair (id : UsbDeviceId) : Prop := id.vendor < 65536 ∧ id.product < 65536

/-- What holds of every digit and of the colon holds of every unit of a pair. -/
theorem forall_vidPid {P : Char → Prop} (pair : IsPair id) (digit : ∀ value < 16, P (hexDigit value))
    (colon : P ':') : ∀ character ∈ vidPid id, P character := by
  obtain ⟨one, two, three, four⟩ := digits_lt pair.1
  obtain ⟨five, six, seven, eight⟩ := digits_lt pair.2
  simp [vidPid, hexWord, digit _ one, digit _ two, digit _ three, digit _ four, digit _ five,
    digit _ six, digit _ seven, digit _ eight, colon]

/-- The text of a pair of ids has the form that the settings accept. -/
theorem matchesVidPid_vidPid (pair : IsPair id) : matchesVidPid (literal (vidPid id)) = true := by
  obtain ⟨one, two, three, four⟩ := digits_lt pair.1
  obtain ⟨five, six, seven, eight⟩ := digits_lt pair.2
  simp only [literal, vidPid, hexWord, List.map_cons, List.map_nil, List.cons_append,
    List.nil_append, matchesVidPid, List.all_cons, List.all_nil,
    (digitText one).hex, (digitText two).hex, (digitText three).hex, (digitText four).hex,
    (digitText five).hex, (digitText six).hex, (digitText seven).hex, (digitText eight).hex]
  decide

/-- The text of a pair of ids is in lower case already. -/
theorem toLowerCase_vidPid (pair : IsPair id) :
    toLowerCase (literal (vidPid id)) = literal (vidPid id) := by
  rw [toLowerCase, literal, List.map_map]
  refine List.map_congr_left (forall_vidPid pair (fun value small => ?_) (by decide))
  exact (digitText small).lower

/-- An entry that is accepted is, in lower case, the text of a pair; upper case is the only other
spelling. -/
theorem exists_vidPid {entry : JavaString} (accepted : matchesVidPid entry = true) :
    ∃ id, IsPair id ∧ toLowerCase entry = literal (vidPid id) := by
  match entry, accepted with
  | [v1, v2, v3, v4, colon, p1, p2, p3, p4], accepted =>
    simp only [matchesVidPid, List.all_cons, List.all_nil, Bool.and_true, Bool.and_eq_true,
      beq_iff_eq] at accepted
    obtain ⟨⟨⟨a1, a2, a3, a4⟩, rfl⟩, b1, b2, b3, b4⟩ := accepted
    obtain ⟨d1, s1, e1⟩ := exists_hexDigit a1
    obtain ⟨d2, s2, e2⟩ := exists_hexDigit a2
    obtain ⟨d3, s3, e3⟩ := exists_hexDigit a3
    obtain ⟨d4, s4, e4⟩ := exists_hexDigit a4
    obtain ⟨c1, t1, f1⟩ := exists_hexDigit b1
    obtain ⟨c2, t2, f2⟩ := exists_hexDigit b2
    obtain ⟨c3, t3, f3⟩ := exists_hexDigit b3
    obtain ⟨c4, t4, f4⟩ := exists_hexDigit b4
    have word : ∀ {w1 w2 w3 w4 : Nat}, w1 < 16 → w2 < 16 → w3 < 16 → w4 < 16 →
        hexWord (((w1 * 16 + w2) * 16 + w3) * 16 + w4) =
          [hexDigit w1, hexDigit w2, hexDigit w3, hexDigit w4] := by
      intro w1 w2 w3 w4 one two three four
      rw [hexWord, show (((w1 * 16 + w2) * 16 + w3) * 16 + w4) / 4096 = w1 by omega,
        show (((w1 * 16 + w2) * 16 + w3) * 16 + w4) / 256 % 16 = w2 by omega,
        show (((w1 * 16 + w2) * 16 + w3) * 16 + w4) / 16 % 16 = w3 by omega,
        show (((w1 * 16 + w2) * 16 + w3) * 16 + w4) % 16 = w4 by omega]
    refine ⟨⟨((d1 * 16 + d2) * 16 + d3) * 16 + d4, ((c1 * 16 + c2) * 16 + c3) * 16 + c4⟩,
      ⟨by dsimp only; omega, by dsimp only; omega⟩, ?_⟩
    simp only [toLowerCase, vidPid, word s1 s2 s3 s4, word t1 t2 t3 t4, literal, List.map_cons,
      List.map_nil, List.cons_append, List.nil_append, e1, e2, e3, e4, f1, f2, f3, f4]
    rfl

/-! ### What is stored -/

/-- The text of a pair, as the settings keep it. -/
def entryOf (id : UsbDeviceId) : JavaString := literal (vidPid id)

/-- The units of two texts in sequence are those of the first and then those of the second. -/
theorem literal_append (first second : List Char) :
    literal (first ++ second) = literal first ++ literal second := by
  simp [literal]

/-- A list of ids is written as its entries with commas in between. -/
theorem literal_idList : literal (idList ids) = join 0x2c (ids.map entryOf) := by
  induction ids with
  | nil => rfl
  | cons id ids ih =>
      cases ids with
      | nil => rfl
      | cons next ids =>
          rw [idList, literal_append, show literal (',' :: idList (next :: ids)) =
            0x2c :: literal (idList (next :: ids)) by rfl, ih]
          · rfl
          · simp

theorem Listed.front (listed : Listed (before ++ ids)) : Listed before := by
  obtain ⟨words, distinct, few⟩ := listed
  rw [List.map_append] at distinct
  rw [List.length_append] at few
  exact ⟨fun id member => words id (List.mem_append_left _ member), (List.nodup_append.mp distinct).1, by omega⟩

theorem listed_nil : Listed [] := ⟨by simp, by simp, by simp⟩

/-- Adding an entry that is accepted leaves a list of different pairs, longer by one unless the pair was
there. -/
theorem addDistinct_listed {entry : JavaString} (listed : Listed before)
    (accepted : matchesVidPid entry = true)
    (few : (addDistinct (before.map entryOf) (toLowerCase entry)).length ≤ 32) :
    ∃ ids, Listed ids ∧ addDistinct (before.map entryOf) (toLowerCase entry) = ids.map entryOf := by
  obtain ⟨id, pair, same⟩ := exists_vidPid accepted
  rw [same] at few ⊢
  by_cases known : (before.map entryOf).contains (literal (vidPid id)) = true
  · exact ⟨before, listed, by rw [addDistinct, if_pos known]⟩
  · rw [addDistinct, if_neg known] at few ⊢
    refine ⟨before ++ [id], ⟨?_, ?_, ?_⟩, ?_⟩
    · intro other member
      rcases List.mem_append.mp member with old | new
      · exact listed.words other old
      · rw [List.mem_singleton.mp new]
        exact pair
    · rw [List.map_append]
      refine List.Nodup.append listed.distinct (List.nodup_singleton _) ?_
      rw [List.map_singleton, List.disjoint_singleton]
      simpa [entryOf] using known
    · simpa using few
    · rw [List.map_append]
      rfl

/-- What the loop over the entries leaves is a list again: different pairs, at most 32 of them, in the
order of their first mention. -/
theorem normalizeEntries_listed {entries result : List JavaString} (listed : Listed before)
    (accepted : normalizeEntries (before.map entryOf) entries = .ok result) :
    ∃ ids, Listed ids ∧ result = ids.map entryOf := by
  induction entries generalizing before with
  | nil =>
      simp only [normalizeEntries, Except.ok.injEq] at accepted
      exact ⟨before, listed, accepted.symm⟩
  | cons entry entries ih =>
      rw [normalizeEntries] at accepted
      split at accepted
      · simp at accepted
      · next matched =>
        simp only [Bool.not_eq_false] at matched
        dsimp only at accepted
        split at accepted
        · simp at accepted
        · next few =>
          obtain ⟨ids, kept, same⟩ := addDistinct_listed listed matched (Nat.not_lt.mp few)
          rw [same] at accepted
          exact ih kept accepted

/-- Whatever is accepted is stored as a list, which is what the launcher is given later. -/
theorem normalized_listed {value : Option JavaString} {stored : JavaString}
    (accepted : normalizeUsbExclusiveDeviceIds value = .ok stored) :
    ∃ ids, Listed ids ∧ stored = literal (idList ids) := by
  have empty : stored = [] → ∃ ids, Listed ids ∧ stored = literal (idList ids) :=
    fun none => ⟨[], listed_nil, none⟩
  cases value with
  | none =>
      simp only [normalizeUsbExclusiveDeviceIds, Except.ok.injEq] at accepted
      exact empty accepted.symm
  | some value =>
      simp only [normalizeUsbExclusiveDeviceIds] at accepted
      split at accepted
      · exact empty (Except.ok.inj accepted).symm
      · split at accepted
        · simp at accepted
        · cases result : normalizeEntries [] (split separatesEntries (trim value)) with
          | error rejection => simp [result, Except.map] at accepted
          | ok entries =>
              obtain ⟨ids, listed, same⟩ := normalizeEntries_listed listed_nil result
              rw [result, same] at accepted
              exact ⟨ids, listed, by rw [literal_idList]; exact (Except.ok.inj accepted).symm⟩

/-! ### Reading it back -/

/-- The text of a pair of ids has nine characters. -/
theorem vidPid_length : (vidPid id).length = 9 := rfl

/-- A list of ids takes ten characters for each of them at the most. -/
theorem idList_length_le : (idList ids).length ≤ 10 * ids.length := by
  induction ids with
  | nil => simp [idList]
  | cons id ids ih =>
      cases ids with
      | nil => simp [idList, vidPid_length]
      | cons next ids =>
          simp only [idList, List.length_append, vidPid_length, List.length_cons] at ih ⊢
          omega

/-- What holds of digits, colons and commas holds of every character of a list. -/
theorem forall_idList {P : Char → Prop} (words : ∀ id ∈ ids, IsPair id)
    (digit : ∀ value < 16, P (hexDigit value)) (colon : P ':') (comma : P ',') :
    ∀ character ∈ idList ids, P character := by
  induction ids with
  | nil => simp [idList]
  | cons id ids ih =>
      have here := forall_vidPid (words id (.head _)) digit colon
      cases ids with
      | nil => exact here
      | cons next ids =>
          have rest := ih fun other member => words other (.tail _ member)
          rw [idList]
          · intro character member
            rcases List.mem_append.mp member with first | later
            · exact here character first
            · rcases List.mem_cons.mp later with rfl | later
              · exact comma
              · exact rest character later
          · simp

/-- The entries of a list are taken over as they are, being different and few enough. -/
theorem normalizeEntries_map (listed : Listed (before ++ ids)) :
    normalizeEntries (before.map entryOf) (ids.map entryOf) = .ok ((before ++ ids).map entryOf) := by
  induction ids generalizing before with
  | nil => simp [normalizeEntries]
  | cons id ids ih =>
      have pair : IsPair id := listed.words id (by simp)
      have again : Listed ((before ++ [id]) ++ ids) := by simpa using listed
      have unknown : (before.map entryOf).contains (entryOf id) = false := by
        have distinct := again.front.distinct
        rw [List.map_append, List.map_singleton] at distinct
        have apart := List.disjoint_of_nodup_append distinct
        rw [List.disjoint_singleton] at apart
        simpa [entryOf] using apart
      have added : addDistinct (before.map entryOf) (toLowerCase (entryOf id)) =
          (before ++ [id]).map entryOf := by
        rw [entryOf, toLowerCase_vidPid pair, addDistinct, ← entryOf, unknown]
        simp
      have few : ¬ 32 < ((before ++ [id]).map entryOf).length := by
        have := again.front.few
        simpa using this
      rw [List.map_cons, normalizeEntries, if_neg (by simp [entryOf, matchesVidPid_vidPid pair])]
      dsimp only
      rw [added, if_neg few, ih again]
      simp

/-- A list that is stored is read back as it is, so that saving the settings again changes nothing. -/
theorem normalize_idList (listed : Listed ids) :
    normalizeUsbExclusiveDeviceIds (some (literal (idList ids))) = .ok (literal (idList ids)) := by
  have above : ∀ unit ∈ literal (idList ids), 0x20 < unit := by
    simp only [literal, List.mem_map, forall_exists_index, and_imp, forall_apply_eq_imp_iff₂]
    exact forall_idList listed.words (fun _ small => (digitText small).above) (by decide) (by decide)
  rw [normalizeUsbExclusiveDeviceIds]
  cases ids with
  | nil => rfl
  | cons id rest =>
      have filled : literal (idList (id :: rest)) ≠ [] := by
        rw [literal_idList]
        cases rest <;> simp [join, entryOf, vidPid, hexWord, literal]
      have short : ¬ 512 < (literal (idList (id :: rest))).length := by
        have bound : (idList (id :: rest)).length ≤ 10 * (id :: rest).length := idList_length_le
        have few := listed.few
        rw [literal, List.length_map]
        omega
      have cut : Pieces separatesEntries ((id :: rest).map entryOf) := by
        constructor
        · simp only [List.mem_map, forall_exists_index, and_imp, forall_apply_eq_imp_iff₂, entryOf,
            literal]
          intro other member
          exact forall_vidPid (listed.words other member)
            (fun _ small => (digitText small).joined) (by decide)
        · simp [entryOf, vidPid, hexWord, literal]
      rw [trim_of_above above, if_neg filled, if_neg short, literal_idList,
        split_join cut (by decide) (by simp),
        show ([] : List JavaString) = ([] : List UsbDeviceId).map entryOf by rfl,
        normalizeEntries_map listed]
      rfl

/-! ### The launcher -/

/-- The ids of an accepted list are all different. -/
theorem distinct_ids (listed : Listed ids) : ids.Nodup := listed.distinct.of_map _

/-- One entry in front of the end or of a comma: the launcher reads the pair and goes on behind the
comma. -/
theorem parseFilterEntries_vidPid {filter : UsbDeviceFilter} {fuel : Nat}
    (pair : IsPair id) (new : id ∉ filter) (few : filter.length < 32) :
    parseFilterEntries (fuel + 1) (vidPid id) filter = some (filter ++ [id]) ∧
      ∀ rest, rest ≠ [] → parseFilterEntries (fuel + 1) (vidPid id ++ ',' :: rest) filter =
        parseFilterEntries fuel rest (filter ++ [id]) := by
  have vendor : ∀ behind, parseUsbHexWord (vidPid id ++ behind) = some id.vendor := by
    intro behind
    rw [vidPid, List.append_assoc]
    exact parseUsbHexWord_hexWord pair.1 _
  have product : ∀ behind, parseUsbHexWord ((vidPid id ++ behind).drop 5) = some id.product := by
    intro behind
    have := parseUsbHexWord_hexWord pair.2 behind
    simpa [vidPid, hexWord] using this
  have added : (if filter.contains (⟨id.vendor, id.product⟩ : UsbDeviceId) then filter
      else filter ++ [⟨id.vendor, id.product⟩]) = filter ++ [id] := by
    rw [if_neg (by simpa using new)]
  have room : ¬ maxUsbDeviceFilters ≤ filter.length := by
    rw [maxUsbDeviceFilters]
    omega
  constructor
  · have first := vendor []
    have second := product []
    rw [List.append_nil] at first second
    have shape : vidPid id = hexDigit (id.vendor / 4096) :: (vidPid id).drop 1 := rfl
    have colon : (vidPid id)[4]? = some ':' := rfl
    rw [shape, parseFilterEntries, ← shape]
    · rw [first, second]
      simp [room, colon, vidPid_length, new]
    · simp
  · intro rest filled
    have shape : vidPid id ++ ',' :: rest =
        hexDigit (id.vendor / 4096) :: ((vidPid id).drop 1 ++ ',' :: rest) := rfl
    have colon : (vidPid id ++ ',' :: rest)[4]? = some ':' := rfl
    have comma : (vidPid id ++ ',' :: rest)[9]? = some ',' := rfl
    have length : (vidPid id ++ ',' :: rest).length = rest.length + 10 := by
      simp [vidPid_length]
      omega
    have behind : (vidPid id ++ ',' :: rest).drop 10 = rest := rfl
    have some : 0 < rest.length := List.length_pos_iff.mpr filled
    rw [shape, parseFilterEntries, ← shape]
    · rw [vendor, product]
      simp only [colon, comma, length, behind, added, room, ne_eq, not_true_eq_false, or_false,
        false_or]
      rw [if_neg (by omega), if_neg (by simp), if_neg (by omega), if_neg (by omega)]
    · simp

/-- The launcher reads the pairs in order, behind those that it has already, as long as they make a list
together. -/
theorem parseFilterEntries_idList {filter : UsbDeviceFilter} {fuel : Nat}
    (listed : Listed (filter ++ ids)) (some : ids ≠ []) (enough : ids.length ≤ fuel) :
    parseFilterEntries fuel (idList ids) filter = .some (filter ++ ids) := by
  induction ids generalizing filter fuel with
  | nil => exact absurd rfl some
  | cons id ids ih =>
      obtain ⟨fuel, rfl⟩ : ∃ less, fuel = less + 1 := ⟨fuel - 1, by simp at enough; omega⟩
      have pair : IsPair id := listed.words id (by simp)
      have few : filter.length < 32 := by
        have := listed.few
        simp at this
        omega
      have new : id ∉ filter := by
        have apart := List.disjoint_of_nodup_append (distinct_ids listed)
        exact fun old => apart old (by simp)
      cases ids with
      | nil => exact (parseFilterEntries_vidPid pair new few).1
      | cons next ids =>
          have filled : idList (next :: ids) ≠ [] := by
            cases ids <;> simp [idList, vidPid, hexWord]
          have again : Listed ((filter ++ [id]) ++ (next :: ids)) := by simpa using listed
          have rest := ih again (by simp) (by simpa using enough)
          rw [idList, (parseFilterEntries_vidPid pair new few).2 _ filled, rest]
          · simp
          · simp

/-- What the launcher makes of a list that is stored: exactly its pairs, where a dash stands for the
empty list. -/
theorem parseUsbDeviceFilter_idList (listed : Listed ids) :
    parseUsbDeviceFilter (some (if idList ids = [] then ['-'] else idList ids)) = some ids := by
  cases ids with
  | nil => rfl
  | cons id rest =>
      have long : 9 ≤ (idList (id :: rest)).length := by
        cases rest <;> simp [idList, vidPid_length]
      have filled : idList (id :: rest) ≠ [] := by
        intro none
        simp [none] at long
      have dash : idList (id :: rest) ≠ ['-'] := by
        intro none
        simp [none] at long
      have short : ¬ 512 < (idList (id :: rest)).length := by
        have bound : (idList (id :: rest)).length ≤ 10 * (id :: rest).length := idList_length_le
        have few := listed.few
        omega
      have enough : (id :: rest).length ≤ (idList (id :: rest)).length := by
        clear long filled dash short listed
        induction rest generalizing id with
        | nil => simp [idList, vidPid_length]
        | cons next rest ih =>
            have others : (next :: rest).length ≤ (idList (next :: rest)).length := ih next
            simp only [idList, List.length_append, vidPid_length, List.length_cons] at others ⊢
            omega
      have whole : Listed ([] ++ id :: rest) := listed
      rw [if_neg filled, parseUsbDeviceFilter, if_neg (by simp [filled, dash]), if_neg short,
        parseFilterEntries_idList whole (by simp) enough]
      rfl

end Ids

end DawnShell.App
