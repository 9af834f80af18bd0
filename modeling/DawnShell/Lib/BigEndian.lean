/-
Module: DawnShell.Lib.BigEndian
Layer: Lib
Purpose: Fixed-width big-endian byte strings for natural numbers, and records laid out as a sequence
  of such fields.  `encode w n` is the `w` bytes of `n` in network order and `decode` reads any byte
  string back.  `encodeFields` lays out a list of (width, value) pairs and `fields` reads a list of
  widths; the two are inverse to each other, which is the exactness of every fixed-layout header.
Trusted boundary: none
Main exports: BigEndian.encode, BigEndian.decode, BigEndian.encodeFields, BigEndian.fields,
  BigEndian.fields_encodeFields, BigEndian.encodeFields_fields
-/
import Mathlib.Data.Nat.Basic
import Mathlib.Tactic.Ring

namespace BigEndian

/-- The `w` low-order bytes of `n`, most significant first. -/
def encode : Nat → Nat → List UInt8
  | 0, _ => []
  | w + 1, n => UInt8.ofNat (n / 256 ^ w) :: encode w n

/-- The number a byte string denotes, most significant byte first. -/
def decode : List UInt8 → Nat
  | [] => 0
  | b :: bs => b.toNat * 256 ^ bs.length + decode bs

@[simp] theorem length_encode (w n : Nat) : (encode w n).length = w := by
  induction w with
  | zero => rfl
  | succ w ih => simp [encode, ih]

/-- Decoding an encoding keeps exactly the low `w` bytes. -/
theorem decode_encode (w n : Nat) : decode (encode w n) = n % 256 ^ w := by
  induction w with
  | zero => simp [encode, decode, Nat.mod_one]
  | succ w ih =>
      have hbyte : (UInt8.ofNat (n / 256 ^ w)).toNat = n / 256 ^ w % 256 := by
        simp [UInt8.toNat_ofNat']
      rw [encode, decode, ih, length_encode, hbyte, pow_succ, Nat.mod_mul]
      ring

/-- A number that fits its bytes is read back. -/
theorem decode_encode_of_lt {w n : Nat} (h : n < 256 ^ w) : decode (encode w n) = n := by
  rw [decode_encode, Nat.mod_eq_of_lt h]

/-- What is read is below the power of 256 that the bytes give. -/
theorem decode_lt (bs : List UInt8) : decode bs < 256 ^ bs.length := by
  induction bs with
  | nil => simp [decode]
  | cons b bs ih =>
      have hb : b.toNat < 256 := b.toNat_lt
      have hstep : (b.toNat + 1) * 256 ^ bs.length ≤ 256 * 256 ^ bs.length :=
        Nat.mul_le_mul_right _ hb
      rw [decode, List.length_cons, pow_succ']
      rw [Nat.add_mul, Nat.one_mul] at hstep
      omega

/-- Bytes above the encoded width do not change an encoding. -/
theorem encode_add_mul (w n k : Nat) : encode w (k * 256 ^ w + n) = encode w n := by
  induction w generalizing k with
  | zero => rfl
  | succ w ih =>
      have hsplit : k * 256 ^ (w + 1) + n = (k * 256) * 256 ^ w + n := by
        rw [pow_succ]
        ring
      have hpos : 0 < 256 ^ w := Nat.pow_pos (by decide)
      rw [encode, encode, hsplit, ih, Nat.mul_comm (k * 256), Nat.mul_add_div hpos]
      congr 1
      apply UInt8.toNat_inj.mp
      simp [UInt8.toNat_ofNat']

/-- Re-encoding a decoded string at its own width gives the string back. -/
theorem encode_decode (bs : List UInt8) : encode bs.length (decode bs) = bs := by
  induction bs with
  | nil => rfl
  | cons b bs ih =>
      have hpos : 0 < 256 ^ bs.length := Nat.pow_pos (by decide)
      have hquot : (b.toNat * 256 ^ bs.length + decode bs) / 256 ^ bs.length = b.toNat := by
        rw [Nat.mul_comm, Nat.mul_add_div hpos, Nat.div_eq_of_lt (decode_lt bs), Nat.add_zero]
      rw [List.length_cons, encode, decode, hquot, encode_add_mul, ih, UInt8.ofNat_toNat]

/-- Bytes keep a number modulo their range. -/
theorem encode_mod (w n : Nat) : encode w (n % 256 ^ w) = encode w n := by
  conv_rhs => rw [← Nat.div_add_mod n (256 ^ w), Nat.mul_comm, encode_add_mul]

/-- An encoding splits into the encodings of its high and low parts. -/
theorem encode_add (v w n : Nat) : encode (v + w) n = encode v (n / 256 ^ w) ++ encode w n := by
  induction v with
  | zero => simp [encode]
  | succ v ih =>
      rw [Nat.add_right_comm, encode, encode, ih, Nat.div_div_eq_div_mul, ← pow_add,
        Nat.add_comm w v, List.cons_append]

/-- Decoding distributes over concatenation. -/
theorem decode_append (high low : List UInt8) :
    decode (high ++ low) = decode high * 256 ^ low.length + decode low := by
  induction high with
  | nil => simp [decode]
  | cons b bs ih =>
      rw [List.cons_append, decode, decode, ih, List.length_append, pow_add]
      ring

/-- A record laid out field by field, each as a (width, value) pair. -/
def encodeFields : List (Nat × Nat) → List UInt8
  | [] => []
  | (width, value) :: rest => encode width value ++ encodeFields rest

/-- The values of consecutive fields of the given widths. -/
def fields : List Nat → List UInt8 → List Nat
  | [], _ => []
  | width :: rest, bytes => decode (bytes.take width) :: fields rest (bytes.drop width)

@[simp] theorem length_encodeFields (layout : List (Nat × Nat)) :
    (encodeFields layout).length = (layout.map Prod.fst).sum := by
  induction layout with
  | nil => rfl
  | cons field rest ih => simp [encodeFields, ih]

/-- Reading a layout back gives its values, whatever follows the record. -/
theorem fields_encodeFields {layout : List (Nat × Nat)}
    (fits : ∀ field ∈ layout, field.2 < 256 ^ field.1) (tail : List UInt8) :
    fields (layout.map Prod.fst) (encodeFields layout ++ tail) = layout.map Prod.snd := by
  induction layout with
  | nil => rfl
  | cons field rest ih =>
      have head : field.2 < 256 ^ field.1 := fits field (by simp)
      have others : ∀ other ∈ rest, other.2 < 256 ^ other.1 :=
        fun other mem => fits other (by simp [mem])
      simp only [encodeFields, List.map_cons, fields, List.append_assoc]
      rw [List.take_left' (length_encode _ _), List.drop_left' (length_encode _ _),
        decode_encode_of_lt head, ih others]

/-- Laying out what was read gives the record's own bytes. -/
theorem encodeFields_fields {widths : List Nat} {bytes : List UInt8}
    (long : widths.sum ≤ bytes.length) :
    encodeFields (widths.zip (fields widths bytes)) = bytes.take widths.sum := by
  induction widths generalizing bytes with
  | nil => simp [encodeFields]
  | cons width rest ih =>
      rw [List.sum_cons] at long ⊢
      have width_le : (bytes.take width).length = width := by
        rw [List.length_take]
        omega
      have rest_le : rest.sum ≤ (bytes.drop width).length := by
        rw [List.length_drop]
        omega
      rw [fields, List.zip_cons_cons, encodeFields, ih rest_le, List.take_add]
      have head : encode width (decode (bytes.take width)) = bytes.take width := by
        have whole := encode_decode (bytes.take width)
        rwa [width_le] at whole
      rw [head]

end BigEndian
