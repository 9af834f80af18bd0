/-
Module: DawnShell.Proofs.AccessUnitScan
Layer: Proofs
Purpose: The search for access-unit delimiters finds each delimiter once.  Behind a delimiter that was
  found the next search starts at a byte whose predecessor is not zero, so that a start code with three
  zeros is never met at its second one; the boundaries then cut the file into packets.
Trusted boundary: none
Main exports: DelimiterCode, Delimiter, mem_audPositions, access_unit_scan, vector_checks_agree_iff
-/
import Mathlib.Data.Set.Card
import DawnShell.Codec.AccessUnits

namespace DawnShell

open Wire

variable {data : Bytes} {index search : Nat}

/-! ### Delimiters -/

/-- A start code of three bytes, the header of an access-unit delimiter and one more byte. -/
structure DelimiterCode (data : Bytes) (index : Nat) : Prop where
  first : data[index]? = some 0
  second : data[index + 1]? = some 0
  third : data[index + 2]? = some 1
  header : ∃ header, data[index + 3]? = some header ∧ header &&& 0x1f = 9
  more : index + 4 < data.length

/-- The byte before an index, if there is one, is not zero. -/
def Fresh (data : Bytes) (index : Nat) : Prop := ∀ before, before + 1 = index → data[before]? ≠ some 0

/-- An access-unit delimiter: its start code has three bytes, or four and begins at the first zero. -/
def Delimiter (data : Bytes) (index : Nat) : Prop :=
  DelimiterCode data index ∧ Fresh data index ∨ data[index]? = some 0 ∧ DelimiterCode data (index + 1)

/-- The header byte of a delimiter is not zero, so that it cannot be part of a start code. -/
theorem header_ne_zero {header : UInt8} (type : header &&& 0x1f = 9) : header ≠ 0 := by
  rintro rfl
  cases type

/-- The test of a header that may be missing asks for one of the type of delimiters. -/
theorem any_header_iff {byte : Option UInt8} :
    (byte.any fun header => header &&& 0x1f == 9) = true ↔
      ∃ header, byte = some header ∧ header &&& 0x1f = 9 := by
  simp [Option.any_eq_true]

/-- The two start codes at an index exclude each other. -/
theorem not_code_of_third (third : data[index + 2]? = some 1) : ¬DelimiterCode data (index + 1) := by
  intro code
  have second := code.second
  rw [third] at second
  cases second

/-- What the loop tests at an index inside its bound: a delimiter's code begins there, or one with four
bytes begins one byte later behind a zero. -/
theorem isAud_iff (inside : index + 4 < data.length) :
    isAud data index = true ↔
      DelimiterCode data index ∨ data[index]? = some 0 ∧ DelimiterCode data (index + 1) := by
  rw [isAud, startCodeLength]
  by_cases three : data[index]? = some 0 ∧ data[index + 1]? = some 0 ∧ data[index + 2]? = some 1
  · obtain ⟨first, second, third⟩ := three
    rw [if_pos ⟨first, second, third⟩]
    simp only [Nat.zero_lt_succ, decide_true, Bool.true_and, any_header_iff]
    constructor
    · exact fun header => .inl ⟨first, second, third, header, inside⟩
    · rintro (code | ⟨-, code⟩)
      · exact code.header
      · exact absurd code (not_code_of_third third)
  · have short : ¬DelimiterCode data index := fun code => three ⟨code.first, code.second, code.third⟩
    rw [if_neg three]
    split
    next four =>
      obtain ⟨longer, first, second, third, fourth⟩ := four
      simp only [Nat.zero_lt_succ, decide_true, Bool.true_and, any_header_iff, short, false_or]
      constructor
      · exact fun header => ⟨first, second, third, fourth, header, longer⟩
      · exact fun code => code.2.header
    next none =>
      simp only [lt_self_iff_false, decide_false, Bool.false_and, Bool.false_eq_true, short, false_or,
        false_iff]
      rintro ⟨first, code⟩
      exact none ⟨code.more, first, code.first, code.second, code.third⟩

/-- A delimiter has four bytes behind its first one at least. -/
theorem Delimiter.inside (delimiter : Delimiter data index) : index + 4 < data.length := by
  rcases delimiter with ⟨code, -⟩ | ⟨-, code⟩
  · exact code.more
  · have := code.more
    omega

/-- Where there is a delimiter the scanner finds one. -/
theorem Delimiter.isAud (delimiter : Delimiter data index) : isAud data index = true :=
  (isAud_iff delimiter.inside).mpr (delimiter.imp_left And.left)

/-! ### Positions behind each other -/

/-- A further search does not start behind a zero. -/
theorem fresh_of_isAud (inside : index + 4 < data.length) (aud : isAud data index = true) :
    Fresh data (index + 4) := by
  intro before last
  obtain rfl : before = index + 3 := by omega
  rcases (isAud_iff inside).mp aud with code | ⟨-, code⟩
  · obtain ⟨header, read, type⟩ := code.header
    rw [read, Ne, Option.some.injEq]
    exact header_ne_zero type
  · rw [code.third]
    simp

/-- No delimiter begins inside the four bytes of one, so that the jump of the loop behind a hit skips
none. -/
theorem not_delimiter_of_isAud {other : Nat} (inside : index + 4 < data.length)
    (aud : isAud data index = true) (behind : index < other) (near : other < index + 4) :
    ¬Delimiter data other := by
  have zero : ∀ {place : Nat}, Delimiter data place → data[place]? = some 0 := by
    rintro place (⟨code, -⟩ | ⟨first, -⟩)
    · exact code.first
    · exact first
  have next : ∀ {place : Nat}, Delimiter data place → data[place + 1]? = some 0 := by
    rintro place (⟨code, -⟩ | ⟨-, code⟩)
    · exact code.second
    · exact code.first
  intro delimiter
  have first := zero delimiter
  have second := next delimiter
  rcases (isAud_iff inside).mp aud with code | ⟨before, code⟩
  · obtain ⟨header, read, type⟩ := code.header
    obtain rfl | rfl | rfl : other = index + 1 ∨ other = index + 2 ∨ other = index + 3 := by omega
    · rw [code.third] at second
      cases second
    · rw [code.third] at first
      cases first
    · rw [read] at first
      cases first
      cases type
  · obtain rfl | rfl | rfl : other = index + 1 ∨ other = index + 2 ∨ other = index + 3 := by omega
    · -- The start code with three zeros belongs to the position before.
      rcases delimiter with ⟨-, fresh⟩ | ⟨-, inner⟩
      · exact fresh index rfl before
      · exact not_code_of_third code.third inner
    · rw [code.third] at second
      cases second
    · rw [code.third] at first
      cases first

/-- From a fresh start, what is found first is a delimiter. -/
theorem delimiter_of_findAud {position : Nat} (fresh : Fresh data search)
    (found : findAud data search = some position) : Delimiter data position := by
  obtain ⟨aud, from_search, inside, first⟩ := findAud_eq_some.mp found
  rcases (isAud_iff inside).mp aud with code | long
  · refine .inl ⟨code, ?_⟩
    rintro before rfl zero
    by_cases earlier : search ≤ before
    · have missed := first before earlier (Nat.lt_succ_self before)
      rw [(isAud_iff (by omega)).mpr (.inr ⟨zero, code⟩)] at missed
      cases missed
    · exact fresh before (by omega) zero
  · exact .inr long

/-- Where the search finds nothing there are no positions left. -/
theorem audPositions_of_none (none : findAud data search = none) : audPositions data search = [] := by
  rw [audPositions]
  split
  · rfl
  next found => rw [none] at found; cases found

/-- A position that is found is the first one, and the search goes on four bytes behind it. -/
theorem audPositions_of_some {aud : Nat} (found : findAud data search = some aud) :
    audPositions data search = aud :: audPositions data (aud + 4) := by
  rw [audPositions]
  split
  next none => rw [none] at found; cases found
  next other =>
    rw [found] at other
    cases other
    rfl

/-- The positions are the delimiters from the start on, in increasing order. -/
theorem audPositions_spec (fresh : Fresh data search) :
    (audPositions data search).Pairwise (· < ·) ∧
      ∀ index, index ∈ audPositions data search ↔ search ≤ index ∧ Delimiter data index := by
  induction search using audPositions.induct data with
  | case1 search none =>
      rw [audPositions_of_none none]
      refine ⟨.nil, fun index => ?_⟩
      simp only [List.not_mem_nil, false_iff, not_and]
      intro from_search delimiter
      have missed := findAud_eq_none.mp none index from_search delimiter.inside
      rw [delimiter.isAud] at missed
      cases missed
  | case2 search aud found ih =>
      obtain ⟨isAud, from_search, inside, first⟩ := findAud_eq_some.mp found
      obtain ⟨sorted, members⟩ := ih (fresh_of_isAud inside isAud)
      rw [audPositions_of_some found]
      constructor
      · refine .cons (fun index behind => ?_) sorted
        have := ((members index).mp behind).1
        omega
      · intro index
        rw [List.mem_cons, members]
        constructor
        · rintro (rfl | ⟨behind, delimiter⟩)
          · exact ⟨from_search, delimiter_of_findAud fresh found⟩
          · exact ⟨by omega, delimiter⟩
        · rintro ⟨within, delimiter⟩
          rcases lt_trichotomy index aud with before | same | behind
          · have missed := first index within before
            rw [delimiter.isAud] at missed
            cases missed
          · exact .inl same
          · refine .inr ⟨?_, delimiter⟩
            by_contra near
            exact not_delimiter_of_isAud inside isAud behind (not_le.mp near) delimiter

/-- The search may begin at the front of the data. -/
theorem fresh_zero : Fresh data 0 := by
  intro before last
  cases last

/-! ### Boundaries -/

theorem loadBoundaries_eq (room : Nat) :
    loadBoundaries data room search = (audPositions data search).take room := by
  induction room generalizing search with
  | zero => rfl
  | succ room ih =>
      rw [loadBoundaries]
      cases found : findAud data search with
      | none => rw [audPositions_of_none found, List.take_nil]
      | some aud => simp only [audPositions_of_some found, List.take_succ_cons, ih]

/-- A packet reaches from one boundary to the next. -/
theorem packets_cons {first second : Nat} {rest : List Nat} :
    packets data (first :: second :: rest) =
      (data.drop first).take (second - first) :: packets data (second :: rest) := rfl

/-- Increasing boundaries up to the end cut what is behind the first into packets that are not empty. -/
theorem packets_spec {first : Nat} {rest : List Nat} (sorted : (first :: rest).Pairwise (· < ·))
    (last : (first :: rest).getLast? = some data.length) :
    (packets data (first :: rest)).length = rest.length ∧
      (∀ packet ∈ packets data (first :: rest), packet ≠ []) ∧
      (packets data (first :: rest)).flatten = data.drop first := by
  induction rest generalizing first with
  | nil =>
      obtain rfl : first = data.length := by simpa using last
      simp [packets]
  | cons second rest ih =>
      obtain ⟨below, sorted⟩ := List.pairwise_cons.mp sorted
      rw [List.getLast?_cons_cons] at last
      obtain ⟨count, filled, joined⟩ := ih sorted last
      have step := below second List.mem_cons_self
      have inside : second ≤ data.length := by
        have member := List.mem_of_getLast? last
        rcases List.mem_cons.mp member with same | behind
        · exact same.ge
        · exact ((List.pairwise_cons.mp sorted).1 _ behind).le
      rw [packets_cons]
      refine ⟨by simp [count], ?_, ?_⟩
      · rw [List.forall_mem_cons]
        refine ⟨?_, filled⟩
        rw [Ne, List.take_eq_nil_iff, List.drop_eq_nil_iff]
        omega
      · rw [List.flatten_cons, joined, ← Nat.add_sub_cancel' step.le, ← List.drop_drop,
          Nat.add_sub_cancel_left, List.take_append_drop]

/-- A file that is read is there, is not empty and fits the payload limit. -/
theorem of_readFile {file : Option Bytes} (read : readFile file = some data) :
    file = some data ∧ data ≠ [] ∧ data.length ≤ dscwMaxPayload.toNat := by
  cases file with
  | none => cases read
  | some contents =>
      simp only [readFile, Option.bind_eq_bind, Option.bind_some] at read
      split at read
      · cases read
      next fits =>
        cases read
        simp only [not_or, not_lt, List.length_eq_zero_iff] at fits
        exact ⟨rfl, fits⟩

/-- What `load_access_units` has checked and stored. -/
theorem of_loadAccessUnits {file : Option Bytes} {expected : UInt32} {boundaries : List Nat}
    (loaded : loadAccessUnits file expected = .ok (data, boundaries)) :
    readFile file = some data ∧ ∃ first rest, (audPositions data 0).take 1024 = first :: rest ∧
      rest.length + 1 = expected.toNat ∧ boundaries = 0 :: (rest ++ [data.length]) := by
  rw [loadAccessUnits] at loaded
  split at loaded
  · cases loaded
  next vector read =>
    simp only [loadBoundaries_eq] at loaded
    split at loaded
    · cases loaded
    next counted =>
      obtain ⟨rfl, rfl⟩ : vector = data ∧ _ = boundaries := by simpa using loaded
      rw [not_or, not_not, List.length_eq_zero_iff] at counted
      obtain ⟨first, rest, taken⟩ := List.exists_cons_of_ne_nil counted.1
      refine ⟨read, first, rest, taken, ?_, ?_⟩
      · rw [← counted.2, taken, List.length_cons]
      · rw [taken]
        rfl

/-- The boundaries of the table increase strictly from the front of the file up to its end; each packet
therefore has at least one byte. -/
theorem boundaries_sorted {first : Nat} {rest : List Nat}
    (taken : (audPositions data 0).take 1024 = first :: rest) :
    (0 :: (rest ++ [data.length])).Pairwise (· < ·) := by
  obtain ⟨sorted, members⟩ := @audPositions_spec data 0 fresh_zero
  have part : (first :: rest).Sublist (audPositions data 0) := by
    rw [← taken]
    exact List.take_sublist ..
  obtain ⟨above, sorted⟩ := List.pairwise_cons.mp (sorted.sublist part)
  have inside : ∀ index ∈ rest, index < data.length := by
    intro index member
    have delimiter := ((members index).mp (part.subset (List.mem_cons_of_mem _ member))).2
    have := delimiter.inside
    omega
  have some : first < data.length := by
    have delimiter := ((members first).mp (part.subset List.mem_cons_self)).2
    have := delimiter.inside
    omega
  refine .cons ?_ (List.pairwise_append.mpr ⟨sorted, List.pairwise_singleton .., by simpa using inside⟩)
  intro index member
  rcases List.mem_append.mp member with behind | last
  · exact Nat.zero_lt_of_lt (above index behind)
  · rw [List.mem_singleton.mp last]
    exact Nat.zero_lt_of_lt some

/-! ### The two checks -/

/-- How many delimiters the file has. -/
noncomputable def delimiterCount (data : Bytes) : Nat := {index | Delimiter data index}.ncard

/-- The scanner finds as many positions as there are delimiters. -/
theorem length_audPositions : (audPositions data 0).length = delimiterCount data := by
  obtain ⟨sorted, members⟩ := @audPositions_spec data 0 fresh_zero
  have same : {index | Delimiter data index} = ((audPositions data 0).toFinset : Set Nat) := by
    ext index
    simp [members]
  rw [delimiterCount, same, Set.ncard_coe_finset]
  exact (List.toFinset_card_of_nodup (sorted.imp Nat.ne_of_lt)).symm

theorem delimiters_inside :
    {index | Delimiter data index} ⊆ ((Finset.range data.length : Finset Nat) : Set Nat) := by
  intro index delimiter
  have := Delimiter.inside delimiter
  simp only [Finset.coe_range, Set.mem_Iio]
  omega

/-- There are no more delimiters than bytes. -/
theorem delimiterCount_le : delimiterCount data ≤ data.length := by
  have few := Set.ncard_le_ncard (@delimiters_inside data) (Finset.finite_toSet _)
  rwa [Set.ncard_coe_finset, Finset.card_range] at few

section Checks

variable {expected : UInt32}

/-- Data that are neither empty nor too long are read. -/
theorem readFile_of_fits (filled : 1 ≤ data.length) (small : data.length ≤ dscwMaxPayload.toNat) :
    readFile (some data) = some data := by
  simp only [readFile, Option.bind_eq_bind, Option.bind_some]
  rw [if_neg (by omega)]

/-- `inspect` accepts a vector exactly if it has as many delimiters as are expected. -/
theorem inspectVector_ok_iff (filled : 1 ≤ data.length) (small : data.length ≤ dscwMaxPayload.toNat) :
    (∃ printed, inspectVector (some data) expected = .ok printed) ↔
      delimiterCount data = expected.toNat := by
  have few : delimiterCount data < 2 ^ 32 := by
    have bound := @delimiterCount_le data
    have limit : dscwMaxPayload.toNat = 8388608 := rfl
    omega
  have counted : UInt32.ofNat (delimiterCount data) = expected ↔
      delimiterCount data = expected.toNat := by
    rw [← UInt32.toNat_inj, UInt32.toNat_ofNat_of_lt' few]
  simp only [inspectVector, readFile_of_fits filled small, length_audPositions, ne_eq, ite_not, counted]
  split <;> simp [*]

/-- `load` accepts a vector exactly if it has a delimiter, and as many as are expected up to the size of
its table; what lies behind the last entry is not counted. -/
theorem loadAccessUnits_ok_iff (filled : 1 ≤ data.length) (small : data.length ≤ dscwMaxPayload.toNat) :
    (∃ loaded, loadAccessUnits (some data) expected = .ok loaded) ↔
      delimiterCount data ≠ 0 ∧ min 1024 (delimiterCount data) = expected.toNat := by
  simp only [loadAccessUnits, readFile_of_fits filled small, loadBoundaries_eq, List.length_take,
    length_audPositions]
  split
  next refused =>
    simp only [reduceCtorEq, exists_false, false_iff]
    omega
  next accepted =>
    simp only [Except.ok.injEq, exists_eq', true_iff]
    omega

end Checks

/-! ### Results -/

/-- The positions of the search are the delimiters, each once and in increasing order, and the boundaries
of a vector that is loaded cut the file into as many packets as are expected. -/
theorem access_unit_scan (data : Bytes) :
    (audPositions data 0).Pairwise (· < ·) ∧
      (∀ index, index ∈ audPositions data 0 ↔ Delimiter data index) ∧
      ∀ file expected boundaries, loadAccessUnits file expected = .ok (data, boundaries) →
        file = some data ∧ boundaries.head? = some 0 ∧ boundaries.Pairwise (· < ·) ∧
          boundaries.getLast? = some data.length ∧
          (packets data boundaries).length = expected.toNat ∧
          (∀ packet ∈ packets data boundaries, packet ≠ []) ∧
          (packets data boundaries).flatten = data := by
  obtain ⟨sorted, members⟩ := @audPositions_spec data 0 fresh_zero
  refine ⟨sorted, fun index => by simp [members], ?_⟩
  intro file expected boundaries loaded
  obtain ⟨read, first, rest, taken, count, rfl⟩ := of_loadAccessUnits loaded
  have increasing := boundaries_sorted taken
  have last : (0 :: (rest ++ [data.length])).getLast? = some data.length := by
    rw [← List.cons_append, List.getLast?_concat]
  obtain ⟨pieces, filled, joined⟩ := packets_spec increasing last
  refine ⟨(of_readFile read).1, rfl, increasing, last, ?_, filled, joined⟩
  rw [pieces, List.length_append, ← count]
  rfl

/-- A vector of two access units, the first behind a start code of four bytes and the second behind one of
three.  The first holds another unit; at the end of the file the header of a third is cut off. -/
def twoUnitVector : Bytes :=
  [0, 0, 0, 1, 9, 0x10, 0, 0, 1, 0x65, 7, 0, 0, 1, 9, 0x30, 0, 0, 1]

/-- A vector with two delimiters, of which the second has a start code of three bytes, is cut into two
packets. -/
theorem access_unit_scan_two :
    ∃ boundaries, loadAccessUnits (some twoUnitVector) 2 = .ok (twoUnitVector, boundaries) ∧
      packets twoUnitVector boundaries =
        [[0, 0, 0, 1, 9, 0x10, 0, 0, 1, 0x65, 7], [0, 0, 1, 9, 0x30, 0, 0, 1]] ∧
      (packets twoUnitVector boundaries).flatten = twoUnitVector := by
  have scanned : audPositions twoUnitVector 0 = [0, 11] := by
    rw [@audPositions_of_some _ _ 0 (by decide), @audPositions_of_some _ _ 11 (by decide),
      audPositions_of_none (by decide)]
  have loaded : loadAccessUnits (some twoUnitVector) 2 = .ok (twoUnitVector, [0, 11, 19]) := by
    have read : readFile (some twoUnitVector) = some twoUnitVector :=
      readFile_of_fits (by decide) (by decide)
    simp only [loadAccessUnits, read, loadBoundaries_eq, scanned]
    rfl
  obtain ⟨-, -, cut⟩ := access_unit_scan twoUnitVector
  exact ⟨[0, 11, 19], loaded, by decide, (cut _ _ _ loaded).2.2.2.2.2.2⟩

/-- A vector of one access unit behind a start code of four bytes, with a start code of three behind it. -/
def oneUnitVector : Bytes := [0, 0, 0, 1, 9, 0x10, 0, 0, 1, 9]

/-- For a file and a count that both commands admit, the checks agree unless the count is that of a full
table and the file has more delimiters than the table has room for. -/
theorem vector_checks_agree_iff {expected : UInt32} (filled : 1 ≤ data.length)
    (small : data.length ≤ 8 * 1024 * 1024) (low : 1 ≤ expected.toNat) (high : expected.toNat ≤ 1024) :
    ((∃ printed, inspectVector (some data) expected = .ok printed) ↔
        ∃ loaded, loadAccessUnits (some data) expected = .ok loaded) ↔
      ¬(expected.toNat = 1024 ∧ 1024 < delimiterCount data) := by
  have limit : dscwMaxPayload.toNat = 8 * 1024 * 1024 := rfl
  rw [← limit] at small
  rw [inspectVector_ok_iff filled small, loadAccessUnits_ok_iff filled small]
  omega

theorem vector_checks_agree_one :
    (∃ printed, inspectVector (some oneUnitVector) 1 = .ok printed) ↔
      ∃ loaded, loadAccessUnits (some oneUnitVector) 1 = .ok loaded :=
  (vector_checks_agree_iff (by decide) (by decide) (by decide) (by decide)).mpr
    fun both => absurd both.1 (by decide)

/-- A vector of 1025 access units of four bytes, and one more byte. -/
def longVector : Bytes :=
  (List.range 4101).map fun index => if index % 4 = 2 then 1 else if index % 4 = 3 then 9 else 0

theorem longVector_getElem? {place : Nat} (inside : place < 4101) :
    longVector[place]? =
      some (if place % 4 = 2 then 1 else if place % 4 = 3 then 9 else 0) := by
  rw [longVector, List.getElem?_map, List.getElem?_range inside]
  rfl

/-- The long vector has four bytes for each of its units and one more. -/
theorem longVector_length : longVector.length = 4101 := by
  rw [longVector, List.length_map, List.length_range]

/-- Each of its 1025 units begins with a delimiter. -/
theorem longVector_delimiter {unit : Nat} (listed : unit < 1025) : Delimiter longVector (4 * unit) := by
  have code : DelimiterCode longVector (4 * unit) := by
    refine ⟨?_, ?_, ?_, ⟨9, ?_, rfl⟩, ?_⟩
    · rw [longVector_getElem? (by omega), if_neg (by omega), if_neg (by omega)]
    · rw [longVector_getElem? (by omega), if_neg (by omega), if_neg (by omega)]
    · rw [longVector_getElem? (by omega), if_pos (by omega)]
    · rw [longVector_getElem? (by omega), if_neg (by omega), if_pos (by omega)]
    · rw [longVector_length]
      omega
  refine .inl ⟨code, fun before last => ?_⟩
  rw [longVector_getElem? (by omega), if_neg (by omega), if_pos (by omega)]
  decide

/-- It has more delimiters than the table has entries. -/
theorem longVector_count : 1024 < delimiterCount longVector := by
  have listed : (((Finset.range 1025).image (4 * ·) : Finset Nat) : Set Nat) ⊆
      {index | Delimiter longVector index} := by
    intro index member
    obtain ⟨unit, within, rfl⟩ := Finset.mem_image.mp (Finset.mem_coe.mp member)
    exact longVector_delimiter (Finset.mem_range.mp within)
  have finite := (Finset.finite_toSet (Finset.range longVector.length)).subset delimiters_inside
  have many := Set.ncard_le_ncard listed finite
  rw [Set.ncard_coe_finset, Finset.card_image_of_injective _ (mul_right_injective₀ (by decide)),
    Finset.card_range] at many
  exact many

/-- The vector is loaded as one of 1024 access units and is not accepted as such: `load` stops at the
end of its table, and `inspect` counts on. -/
theorem longVector_loaded :
    1 ≤ longVector.length ∧ longVector.length ≤ 8 * 1024 * 1024 ∧
      (∃ loaded, loadAccessUnits (some longVector) 1024 = .ok loaded) ∧
      ¬∃ printed, inspectVector (some longVector) 1024 = .ok printed := by
  have many := longVector_count
  have length := longVector_length
  have limit : dscwMaxPayload.toNat = 8388608 := rfl
  have count : (1024 : UInt32).toNat = 1024 := rfl
  refine ⟨by omega, by omega, ?_, ?_⟩
  · rw [loadAccessUnits_ok_iff (by omega) (by omega), count]
    omega
  · rw [inspectVector_ok_iff (by omega) (by omega), count]
    omega

end DawnShell
