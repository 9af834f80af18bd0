/-
Module: DawnShell.Codec.AccessUnits
Layer: Codec
Purpose: How the codec client cuts an Annex-B file into access units: the search for an access-unit
  delimiter, the table of boundaries of the test commands, and the count that `inspect-vector` makes.
Trusted boundary: faithful model of dawnshell_codec_client.c:1012-1084, 1101-1106, 1159-1182 and
  1828-1835; what can be read of the file is an input
Main exports: findAud, audPositions, loadAccessUnits, packets, inspectVector
-/
import DawnShell.Codec.Wire

namespace DawnShell

open Wire

/-! ### The search for a delimiter -/

/-- The length of the start code at an index, 0 without one. -/
def startCodeLength (data : Bytes) (index : Nat) : Nat :=
  if data[index]? = some 0 ∧ data[index + 1]? = some 0 ∧ data[index + 2]? = some 1 then 3
  else if index + 5 < data.length ∧ data[index]? = some 0 ∧ data[index + 1]? = some 0 ∧
      data[index + 2]? = some 0 ∧ data[index + 3]? = some 1 then 4
  else 0

/-- The test of the loop of `find_aud` at an index. -/
def isAud (data : Bytes) (index : Nat) : Bool :=
  0 < startCodeLength data index &&
    (data[index + startCodeLength data index]?).any fun header => header &&& 0x1f == 9

/-- `find_aud`: the loop goes on while four more bytes are behind the index. -/
def findAud (data : Bytes) (start : Nat) : Option Nat :=
  (List.range' start (data.length - 4 - start)).find? (isAud data)

theorem findAud_eq_some {data : Bytes} {start position : Nat} :
    findAud data start = some position ↔
      isAud data position = true ∧ start ≤ position ∧ position + 4 < data.length ∧
        ∀ index, start ≤ index → index < position → isAud data index = false := by
  simp only [findAud, List.find?_range'_eq_some, List.mem_range'_1, Bool.not_eq_true', and_congr_right_iff]
  intro _
  constructor
  · rintro ⟨⟨from_start, inside⟩, first⟩
    exact ⟨from_start, by omega, first⟩
  · rintro ⟨from_start, inside, first⟩
    exact ⟨⟨from_start, by omega⟩, first⟩

theorem findAud_eq_none {data : Bytes} {start : Nat} :
    findAud data start = none ↔
      ∀ index, start ≤ index → index + 4 < data.length → isAud data index = false := by
  simp only [findAud, List.find?_range'_eq_none, Bool.not_eq_true']
  constructor
  · intro nowhere index from_start inside
    exact nowhere index from_start (by omega)
  · intro nowhere index from_start inside
    exact nowhere index from_start (by omega)

/-- What `find_aud` finds when each search starts four bytes behind the position before. -/
def audPositions (data : Bytes) (search : Nat) : List Nat :=
  match found : findAud data search with
  | none => []
  | some aud => aud :: audPositions data (aud + 4)
termination_by data.length - search
decreasing_by
  have := findAud_eq_some.mp found
  omega

/-! ### The commands -/

/-- `read_file`: `DSCB_MAX_PAYLOAD`, which is `DSCW_MAX_PAYLOAD`, is the most that it reads. -/
def readFile (file : Option Bytes) : Option Bytes := do
  let contents ← file
  if contents.length = 0 ∨ dscwMaxPayload.toNat < contents.length then none else some contents

/-- Why a vector is refused. -/
inductive VectorFailure where
  | unreadable
  | count (found : Nat) (expected : UInt32)
deriving DecidableEq, Repr

/-- The loop of `load_access_units`, with room for more boundaries in the table. -/
def loadBoundaries (data : Bytes) : (room search : Nat) → List Nat
  | 0, _ => []
  | room + 1, search =>
      match findAud data search with
      | none => []
      | some aud => aud :: loadBoundaries data room (aud + 4)

/-- `load_access_units`: the vector and the boundaries. -/
def loadAccessUnits (file : Option Bytes) (expectedFrames : UInt32) :
    Except VectorFailure (Bytes × List Nat) :=
  match readFile file with
  | none => .error .unreadable
  | some vector =>
      let boundaries := loadBoundaries vector 1024 0
      if boundaries.length = 0 ∨ boundaries.length ≠ expectedFrames.toNat then
        .error (.count boundaries.length expectedFrames)
      else .ok (vector, 0 :: boundaries.tail ++ [vector.length])

/-- The packets that `run_decode_test` queues. -/
def packets (vector : Bytes) (boundaries : List Nat) : List Bytes :=
  boundaries.zipWith (fun first last => (vector.drop first).take (last - first)) boundaries.tail

/-- `inspect_vector`: the bytes and the access units that it prints. -/
def inspectVector (file : Option Bytes) (expectedFrames : UInt32) : Except VectorFailure (Nat × UInt32) :=
  match readFile file with
  | none => .error .unreadable
  | some vector =>
      let count := UInt32.ofNat (audPositions vector 0).length
      if count ≠ expectedFrames then .error (.count count.toNat expectedFrames)
      else .ok (vector.length, count)

end DawnShell
