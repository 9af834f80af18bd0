/-
Module: DawnShell.Lib.Base64
Layer: Lib
Purpose: The base64 encoding of byte strings with the standard alphabet and padding.  `encode` writes
  three bytes as four characters, `decode` reads groups of four and accepts exactly the canonical
  texts: the padding is where it belongs and the bits that stand for no byte are zero.
Trusted boundary: none
Main exports: Base64.character, Base64.value, Base64.encode, Base64.decode, Base64.decode_encode,
  Base64.encode_clean, Base64.length_encode
-/
import Mathlib.Data.List.Basic

namespace Base64

/-- The character of a six-bit value. -/
def character (value : Nat) : Char :=
  if value < 26 then Char.ofNat (65 + value)
  else if value < 52 then Char.ofNat (71 + value)
  else if value < 62 then Char.ofNat (value - 4)
  else if value = 62 then '+'
  else '/'

/-- The value of a character of the alphabet. -/
def value (character : Char) : Option Nat :=
  if 'A' ≤ character ∧ character ≤ 'Z' then some (character.toNat - 65)
  else if 'a' ≤ character ∧ character ≤ 'z' then some (character.toNat - 71)
  else if '0' ≤ character ∧ character ≤ '9' then some (character.toNat + 4)
  else if character = '+' then some 62
  else if character = '/' then some 63
  else none

/-- The text of a byte string. -/
def encode : List UInt8 → List Char
  | [] => []
  | [first] => [character (first.toNat / 4), character (first.toNat % 4 * 16), '=', '=']
  | [first, second] =>
      [character (first.toNat / 4), character (first.toNat % 4 * 16 + second.toNat / 16),
        character (second.toNat % 16 * 4), '=']
  | first :: second :: third :: rest =>
      character (first.toNat / 4) :: character (first.toNat % 4 * 16 + second.toNat / 16) ::
        character (second.toNat % 16 * 4 + third.toNat / 64) :: character (third.toNat % 64) ::
        encode rest

/-- Two characters in front of padding. -/
def decodeOne (first second : Char) : Option (List UInt8) := do
  let first ← value first
  let second ← value second
  if second % 16 = 0 then some [UInt8.ofNat (first * 4 + second / 16)] else none

/-- Three characters in front of padding. -/
def decodeTwo (first second third : Char) : Option (List UInt8) := do
  let first ← value first
  let second ← value second
  let third ← value third
  if third % 4 = 0
  then some [UInt8.ofNat (first * 4 + second / 16), UInt8.ofNat (second % 16 * 16 + third / 4)]
  else none

/-- Four characters without padding. -/
def decodeThree (first second third fourth : Char) : Option (List UInt8) := do
  let first ← value first
  let second ← value second
  let third ← value third
  let fourth ← value fourth
  some [UInt8.ofNat (first * 4 + second / 16), UInt8.ofNat (second % 16 * 16 + third / 4),
    UInt8.ofNat (third % 4 * 64 + fourth)]

/-- The bytes of a text; none when it is no encoding. -/
def decode : List Char → Option (List UInt8)
  | [] => some []
  | first :: second :: third :: fourth :: rest =>
      if fourth = '=' then
        if rest.isEmpty then
          if third = '=' then decodeOne first second else decodeTwo first second third
        else none
      else do
        let bytes ← decodeThree first second third fourth
        let more ← decode rest
        some (bytes ++ more)
  | _ => none

/-- The values of the alphabet are its places, and padding and line breaks are not in it. -/
theorem value_character : ∀ place < 64, value (character place) = some place := by decide

theorem character_clean : ∀ place < 64, character place ≠ '=' ∧ character place ≠ '\n' := by decide

section Bytes

variable {first second third : UInt8} {rest : List UInt8}

theorem decodeOne_encode :
    decodeOne (character (first.toNat / 4)) (character (first.toNat % 4 * 16)) = some [first] := by
  have bound := first.toNat_lt
  have whole : first.toNat / 4 * 4 + first.toNat % 4 * 16 / 16 = first.toNat := by omega
  rw [decodeOne, value_character _ (by omega), value_character _ (by omega)]
  simp only [Option.bind_eq_bind, Option.bind_some, Nat.mul_mod_left, whole, UInt8.ofNat_toNat, ↓reduceIte]

theorem decodeTwo_encode :
    decodeTwo (character (first.toNat / 4)) (character (first.toNat % 4 * 16 + second.toNat / 16))
      (character (second.toNat % 16 * 4)) = some [first, second] := by
  have bound := first.toNat_lt
  have next := second.toNat_lt
  have front : first.toNat / 4 * 4 + (first.toNat % 4 * 16 + second.toNat / 16) / 16 =
      first.toNat := by omega
  have behind : (first.toNat % 4 * 16 + second.toNat / 16) % 16 * 16 + second.toNat % 16 * 4 / 4 =
      second.toNat := by omega
  rw [decodeTwo, value_character _ (by omega), value_character _ (by omega),
    value_character _ (by omega)]
  simp only [Option.bind_eq_bind, Option.bind_some, Nat.mul_mod_left, front, behind,
    UInt8.ofNat_toNat, ↓reduceIte]

/-- A full block is decoded to its three bytes. -/
theorem decodeThree_encode :
    decodeThree (character (first.toNat / 4)) (character (first.toNat % 4 * 16 + second.toNat / 16))
      (character (second.toNat % 16 * 4 + third.toNat / 64)) (character (third.toNat % 64)) =
      some [first, second, third] := by
  have bound := first.toNat_lt
  have next := second.toNat_lt
  have last := third.toNat_lt
  have front : first.toNat / 4 * 4 + (first.toNat % 4 * 16 + second.toNat / 16) / 16 =
      first.toNat := by omega
  have middle : (first.toNat % 4 * 16 + second.toNat / 16) % 16 * 16 +
      (second.toNat % 16 * 4 + third.toNat / 64) / 4 = second.toNat := by omega
  have behind : (second.toNat % 16 * 4 + third.toNat / 64) % 4 * 64 + third.toNat % 64 =
      third.toNat := by omega
  rw [decodeThree, value_character _ (by omega), value_character _ (by omega),
    value_character _ (by omega), value_character _ (by omega)]
  simp only [Option.bind_eq_bind, Option.bind_some, front, middle, behind, UInt8.ofNat_toNat]

end Bytes

/-- Decoding an encoding gives the bytes back. -/
theorem decode_encode (bytes : List UInt8) : decode (encode bytes) = some bytes := by
  induction bytes using encode.induct with
  | case1 => rfl
  | case2 first =>
      rw [encode, decode, if_pos rfl, if_pos List.isEmpty_nil, if_pos rfl, decodeOne_encode]
  | case3 first second =>
      have clean := (character_clean (second.toNat % 16 * 4) (by omega)).1
      rw [encode, decode, if_pos rfl, if_pos List.isEmpty_nil, if_neg clean, decodeTwo_encode]
  | case4 first second third rest ih =>
      have clean := (character_clean (third.toNat % 64) (by omega)).1
      rw [encode, decode, if_neg clean, decodeThree_encode, ih]
      rfl

/-- There are no line breaks in an encoding. -/
theorem encode_clean (bytes : List UInt8) : ∀ character ∈ encode bytes, character ≠ '\n' := by
  have clean : ∀ place < 64, character place ≠ '\n' := fun place low => (character_clean place low).2
  induction bytes using encode.induct with
  | case1 => simp [encode]
  | case2 first =>
      have bound := first.toNat_lt
      simp only [encode, List.forall_mem_cons]
      exact ⟨clean _ (by omega), clean _ (by omega), by decide, by decide, by simp⟩
  | case3 first second =>
      have bound := first.toNat_lt
      have next := second.toNat_lt
      simp only [encode, List.forall_mem_cons]
      exact ⟨clean _ (by omega), clean _ (by omega), clean _ (by omega), by decide, by simp⟩
  | case4 first second third rest ih =>
      have bound := first.toNat_lt
      have next := second.toNat_lt
      have last := third.toNat_lt
      simp only [encode, List.forall_mem_cons]
      exact ⟨clean _ (by omega), clean _ (by omega), clean _ (by omega), clean _ (by omega), ih⟩

/-- Every three bytes, and what is left of them at the end, become four characters. -/
theorem length_encode (bytes : List UInt8) :
    (encode bytes).length = (bytes.length + 2) / 3 * 4 := by
  induction bytes using encode.induct with
  | case1 => rfl
  | case2 first => simp [encode]
  | case3 first second => simp [encode]
  | case4 first second third rest ih =>
      simp only [encode, List.length_cons, ih]
      omega

end Base64
