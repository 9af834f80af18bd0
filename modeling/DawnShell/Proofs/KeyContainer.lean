/-
Module: DawnShell.Proofs.KeyContainer
Layer: Proofs
Purpose: The key file of the client identity is one that OpenSSH reads, for every seed, public key and
  check number, and its text is base64 in lines of one length.
Trusted boundary: none
Main exports: LinesOf, Wrapped, KeyText, key_container
-/
import DawnShell.Lib.Base64
import DawnShell.Lib.FieldLine
import DawnShell.Lib.SshWire
import DawnShell.App.OpenSshEd25519Key

namespace DawnShell.App

open SshWire

/-! ### The key file -/

section Bytes

variable {value seed publicBytes blob : List UInt8} {check : UInt32}

/-- `writeUint32` appends the four bytes of the number from the highest on, as the SSH encoding has it.
-/
theorem writeUint32_eq (output : List UInt8) (value : UInt32) :
    writeUint32 output value = output ++ uint32 value.toNat := by
  have low : ∀ number : Nat, number &&& 255 = number % 256 :=
    fun number => Nat.and_two_pow_sub_one_eq_mod number 8
  rw [writeUint32, uint32]
  congr 1
  simp [BigEndian.encode, ← UInt8.toNat_inj, Nat.shiftRight_eq_div_pow, low]

/-- `writeString` appends the length of the bytes and then the bytes, provided that the length fits its
field. -/
theorem writeString_eq (output : List UInt8) (fits : value.length < 256 ^ 4) :
    writeString output value = output ++ string value := by
  have length : (UInt32.ofNat value.length).toNat = value.length := UInt32.toNat_ofNat_of_lt' fits
  rw [writeString, writeUint32_eq, length, List.append_assoc, string]

/-- The padding of a section fills its last eight bytes. -/
theorem paddingLength_fills (size : Nat) : 8 ∣ size + paddingLength size := by
  rw [paddingLength]
  split <;> omega

theorem keyType_fits : keyType.length < 256 ^ 4 := by decide

theorem keyComment_fits : keyComment.length < 256 ^ 4 := by decide

theorem none_fits : (asciiBytes "none").length < 256 ^ 4 := by decide

/-- However long its fields are, the private section is padded to whole blocks of eight bytes. -/
theorem privateSection_blocks (check : UInt32) (seed publicBytes : List UInt8) :
    8 ∣ (privateSection check seed publicBytes).length := by
  rw [privateSection, List.length_append, List.length_map, List.length_range']
  exact paddingLength_fills _

/-- What the private section says. -/
def sectionFields (check : UInt32) (seed publicBytes : List UInt8) : PrivateSection where
  firstCheck := check.toNat
  secondCheck := check.toNat
  keyType := keyType
  publicKey := publicBytes
  privateKey := seed ++ publicBytes
  comment := keyComment
  padding := [1, 2, 3, 4, 5]

/-- What the envelope says. -/
def fileFields (blob privateKeys : List UInt8) : KeyFile where
  cipher := asciiBytes "none"
  kdf := asciiBytes "none"
  kdfOptions := []
  publicKeys := [blob]
  privateKeys := privateKeys

/-- With a seed and a public key of 32 bytes every string of the private section fits its length field.
-/
theorem sectionFields_fits (seeded : seed.length = 32) (keyed : publicBytes.length = 32) :
    (sectionFields check seed publicBytes).Fits where
  firstCheck := check.toNat_lt
  secondCheck := check.toNat_lt
  keyType := keyType_fits
  publicKey := by
    show publicBytes.length < 256 ^ 4
    omega
  privateKey := by
    show (seed ++ publicBytes).length < 256 ^ 4
    rw [List.length_append]
    omega
  comment := keyComment_fits

/-- Up to its padding the private section is the encoding of its fields, in the order of the format. -/
theorem unpaddedSection_eq (seeded : seed.length = 32) (keyed : publicBytes.length = 32) :
    unpaddedSection check seed publicBytes =
      { sectionFields check seed publicBytes with padding := [] }.bytes := by
  have fits : (sectionFields check seed publicBytes).Fits := sectionFields_fits seeded keyed
  have key : publicBytes.length < 256 ^ 4 := fits.publicKey
  have pair : (seed ++ publicBytes).length < 256 ^ 4 := fits.privateKey
  simp only [unpaddedSection, writeUint32_eq, writeString_eq _ keyType_fits, writeString_eq _ key,
    writeString_eq _ pair, writeString_eq _ keyComment_fits, PrivateSection.bytes, sectionFields,
    List.nil_append, List.append_nil, List.append_assoc]

/-- The fields of the private section make 147 bytes, which leaves five for the padding. -/
theorem length_unpaddedSection (seeded : seed.length = 32) (keyed : publicBytes.length = 32) :
    (unpaddedSection check seed publicBytes).length = 147 := by
  have type : keyType.length = 11 := rfl
  have comment : keyComment.length = 16 := rfl
  rw [unpaddedSection_eq seeded keyed]
  simp [PrivateSection.bytes, sectionFields, seeded, keyed, type, comment]

/-- The private section is the encoding of its fields, the padding 1, 2, 3 and so on included. -/
theorem privateSection_eq (seeded : seed.length = 32) (keyed : publicBytes.length = 32) :
    privateSection check seed publicBytes = (sectionFields check seed publicBytes).bytes := by
  have padding : (List.range' 1 (paddingLength 147)).map UInt8.ofNat = [1, 2, 3, 4, 5] := rfl
  rw [privateSection, length_unpaddedSection seeded keyed, padding, unpaddedSection_eq seeded keyed]
  simp only [PrivateSection.bytes, sectionFields, List.append_nil, List.append_assoc]

/-- The private section of an Ed25519 key has 152 bytes. -/
theorem length_privateSection (seeded : seed.length = 32) (keyed : publicBytes.length = 32) :
    (privateSection check seed publicBytes).length = 152 := by
  rw [privateSection, List.length_append, length_unpaddedSection seeded keyed]
  rfl

/-- The envelope that is written for a blob and a section. -/
theorem envelope_eq {privateKeys : List UInt8} (fits : blob.length < 256 ^ 4)
    (small : privateKeys.length < 256 ^ 4) :
    envelope blob privateKeys = (fileFields blob privateKeys).bytes := by
  have nothing : ([] : List UInt8).length < 256 ^ 4 := by decide
  have one : (1 : UInt32).toNat = 1 := rfl
  simp only [envelope, writeUint32_eq, writeString_eq _ none_fits, writeString_eq _ nothing,
    writeString_eq _ fits, writeString_eq _ small, KeyFile.bytes, fileFields, one,
    List.flatMap_singleton, List.length_singleton, List.append_assoc]
  rfl

/-- The strings of the file fit their length fields when the blob and the private section do. -/
theorem fileFields_fits {privateKeys : List UInt8} (fits : blob.length < 256 ^ 4)
    (small : privateKeys.length < 256 ^ 4) : (fileFields blob privateKeys).Fits where
  cipher := none_fits
  kdf := none_fits
  kdfOptions := by
    show ([] : List UInt8).length < 256 ^ 4
    decide
  count := by
    show [blob].length < 256 ^ 4
    rw [List.length_singleton]
    decide
  publicKeys := by
    intro key member
    rw [fileFields, List.mem_singleton] at member
    rwa [member]
  privateKeys := small

/-- Besides the blob and the private section the file has 47 bytes that do not depend on the key. -/
theorem length_envelope (blob privateKeys : List UInt8) :
    (envelope blob privateKeys).length = 47 + blob.length + privateKeys.length := by
  have magic : authMagic.length = 15 := rfl
  have none : (asciiBytes "none").length = 4 := rfl
  simp only [envelope, writeString, writeUint32, List.length_append, List.length_cons,
    List.length_nil, magic, none]
  omega

/-- The public blob of an Ed25519 key has 51 bytes, which are its type and its 32 bytes with their
lengths. -/
theorem length_publicBlob (keyed : publicBytes.length = 32) :
    (publicBlob publicBytes).length = 51 := by
  have type : keyType.length = 11 := rfl
  simp only [publicBlob, writeString, writeUint32, List.length_append, List.length_cons,
    List.length_nil, type, keyed]

end Bytes

/-! ### The text -/

section Text

variable {lineLength : Int} {characters : List Char} {output : WrappedText} {character : Char}

/-- The alphabet of the code is the one of Base64, at each of its 64 places. -/
theorem base64Alphabet_character :
    ∀ place < 64, base64Alphabet.getD place '=' = Base64.character place := by decide

/-- Masking six bits and looking them up gives the character of the value modulo 64. -/
theorem alphabet_bits (value : Nat) :
    base64Alphabet.getD (value &&& 63) '=' = Base64.character (value % 64) := by
  rw [show value &&& 63 = value % 64 from Nat.and_two_pow_sub_one_eq_mod value 6,
    base64Alphabet_character _ (Nat.mod_lt _ (by decide))]

/-- The bits of three bytes, put side by side. -/
theorem block_value (first second third : UInt8) :
    first.toNat <<< 16 ||| second.toNat <<< 8 ||| third.toNat =
      first.toNat * 65536 + second.toNat * 256 + third.toNat := by
  have low := third.toNat_lt
  have middle : second.toNat <<< 8 < 2 ^ 16 := by
    have bound := second.toNat_lt
    rw [Nat.shiftLeft_eq]
    omega
  have pair : first.toNat <<< 16 + second.toNat <<< 8 =
      (first.toNat * 256 + second.toNat) <<< 8 := by
    simp only [Nat.shiftLeft_eq]
    omega
  rw [← Nat.shiftLeft_add_eq_or_of_lt middle, pair, ← Nat.shiftLeft_add_eq_or_of_lt low,
    Nat.shiftLeft_eq]
  omega

/-- A block of one byte is written with two characters and two padding signs, as Base64 writes it. -/
theorem base64Block_one (first : UInt8) : base64Block 1 first 0 0 = Base64.encode [first] := by
  have bound := first.toNat_lt
  have front : first.toNat * 2 ^ 16 / 2 ^ 18 % 64 = first.toNat / 4 := by omega
  have behind : first.toNat * 2 ^ 16 / 2 ^ 12 % 64 = first.toNat % 4 * 16 := by omega
  simp only [base64Block, alphabet_bits, Nat.shiftRight_eq_div_pow, Nat.shiftLeft_eq, Base64.encode,
    Nat.lt_irrefl, show ¬ 2 < 1 by decide, if_false, front, behind]

/-- A block of two bytes is written with three characters and one padding sign, as Base64 writes it. -/
theorem base64Block_two (first second : UInt8) :
    base64Block 2 first second 0 = Base64.encode [first, second] := by
  have bound := first.toNat_lt
  have next := second.toNat_lt
  have value := block_value first second 0
  rw [UInt8.toNat_zero, Nat.or_zero, Nat.add_zero] at value
  have front : (first.toNat * 65536 + second.toNat * 256) / 2 ^ 18 % 64 = first.toNat / 4 := by omega
  have middle : (first.toNat * 65536 + second.toNat * 256) / 2 ^ 12 % 64 =
      first.toNat % 4 * 16 + second.toNat / 16 := by omega
  have behind : (first.toNat * 65536 + second.toNat * 256) / 2 ^ 6 % 64 =
      second.toNat % 16 * 4 := by omega
  simp only [base64Block, alphabet_bits, Nat.shiftRight_eq_div_pow, Base64.encode, Nat.lt_irrefl,
    show 1 < 2 by decide, if_true, if_false, value, front, middle, behind]

/-- A full block is written with four characters, and what follows is encoded independently of it. -/
theorem base64Block_three (remaining : Nat) (first second third : UInt8) (rest : List UInt8) :
    base64Block (remaining + 3) first second third ++ Base64.encode rest =
      Base64.encode (first :: second :: third :: rest) := by
  have bound := first.toNat_lt
  have next := second.toNat_lt
  have last := third.toNat_lt
  have value := block_value first second third
  generalize sum : first.toNat * 65536 + second.toNat * 256 + third.toNat = bits at value
  have front : bits / 2 ^ 18 % 64 = first.toNat / 4 := by omega
  have middle : bits / 2 ^ 12 % 64 = first.toNat % 4 * 16 + second.toNat / 16 := by omega
  have behind : bits / 2 ^ 6 % 64 = second.toNat % 16 * 4 + third.toNat / 64 := by omega
  have low : bits % 64 = third.toNat % 64 := by omega
  simp only [base64Block, alphabet_bits, Nat.shiftRight_eq_div_pow, Base64.encode,
    show 1 < remaining + 3 by omega, show 2 < remaining + 3 by omega, if_true, value, front, middle,
    behind, low, List.cons_append, List.nil_append]

/-- The characters that are written are those of the encoding. -/
theorem encodeBlocks_eq (input : List UInt8) :
    encodeBlocks lineLength input output =
      (Base64.encode input).foldl (WrappedText.append lineLength) output := by
  induction input using Base64.encode.induct generalizing output with
  | case1 => rfl
  | case2 first => rw [encodeBlocks, base64Block_one]
  | case3 first second => rw [encodeBlocks, base64Block_two]
  | case4 first second third rest ih =>
      rw [encodeBlocks, ih, ← List.foldl_append, base64Block_three]

/-- Without its line breaks a text is what has been written to it. -/
theorem unbroken_foldl (clean : ∀ character ∈ characters, character ≠ '\n') :
    (characters.foldl (WrappedText.append lineLength) output).text.filter (· ≠ '\n') =
      output.text.filter (· ≠ '\n') ++ characters := by
  induction characters generalizing output with
  | nil => simp
  | cons character characters ih =>
      have here := clean character (.head _)
      have step : (output.append lineLength character).text.filter (· ≠ '\n') =
          output.text.filter (· ≠ '\n') ++ [character] := by
        rw [WrappedText.append]
        split <;> simp [here]
      rw [List.foldl_cons, ih fun other member => clean other (.tail _ member), step,
        List.append_assoc, List.singleton_append]

/-- There is at most one line break in front of each character. -/
theorem length_foldl : (characters.foldl (WrappedText.append lineLength) output).text.length ≤
    output.text.length + 2 * characters.length := by
  induction characters generalizing output with
  | nil => simp
  | cons character characters ih =>
      have step : (output.append lineLength character).text.length ≤ output.text.length + 2 := by
        rw [WrappedText.append]
        split <;> simp
      have rest := @ih (output.append lineLength character)
      rw [List.foldl_cons, List.length_cons]
      omega

/-- The characters as full lines and a last one. -/
structure LinesOf (width : Nat) (characters : List Char) (full : List (List Char)) (last : List Char) :
    Prop where
  joined : full.flatten ++ last = characters
  filled : ∀ line ∈ full, line.length = width
  bounded : last.length ≤ width
  started : last = [] → characters = []

/-- The text of these lines, and the column at its end. -/
def Wrapped (width : Nat) (characters : List Char) (output : WrappedText) : Prop :=
  ∃ full last, LinesOf width characters full last ∧
    output = { text := full.flatMap (· ++ ['\n']) ++ last, column := last.length }

/-- One more character is in the last line, or begins the next one when the last is full; no other line
changes. -/
theorem Wrapped.append {width : Nat} (wrapped : Wrapped width characters output) (some : 0 < width)
    (character : Char) : Wrapped width (characters ++ [character]) (output.append width character) := by
  obtain ⟨full, last, lines, rfl⟩ := wrapped
  by_cases done : last.length = width
  · refine ⟨full ++ [last], [character], ⟨?_, ?_, ?_, ?_⟩, ?_⟩
    · rw [← lines.joined, List.flatten_append, List.flatten_singleton]
    · intro line member
      rcases List.mem_append.mp member with before | here
      · exact lines.filled line before
      · rwa [List.mem_singleton.mp here]
    · exact some
    · exact fun nothing => absurd nothing (List.cons_ne_nil character [])
    · simp [WrappedText.append, done, some]
  · have room : last.length < width := Nat.lt_of_le_of_ne lines.bounded done
    refine ⟨full, last ++ [character], ⟨?_, lines.filled, ?_, ?_⟩, ?_⟩
    · rw [← lines.joined, List.append_assoc]
    · rw [List.length_append, List.length_singleton]
      exact room
    · exact fun nothing => absurd nothing (List.append_ne_nil_of_right_ne_nil last (List.cons_ne_nil _ _))
    · simp [WrappedText.append, done]

/-- Characters that are appended one by one keep the text wrapped at its width. -/
theorem Wrapped.foldl {width : Nat} (wrapped : Wrapped width characters output) (some : 0 < width)
    (more : List Char) :
    Wrapped width (characters ++ more) (more.foldl (WrappedText.append width) output) := by
  induction more generalizing characters output with
  | nil => rwa [List.append_nil]
  | cons character more ih =>
      have next := ih (wrapped.append some character)
      rw [List.append_assoc, List.singleton_append] at next
      exact next

end Text

/-! ### What is built -/

section Built

variable {input seed publicBytes blob : List UInt8} {lineLength : Int} {text output : List Char}
  {check : UInt32}

/-- A text is held by a string exactly when its length is within what an array can have. -/
theorem heldText_eq_some : heldText text = some output ↔ text.length ≤ 2147483647 ∧ text = output := by
  rw [heldText]
  split <;> simp [*]

/-- Where a text is built it is the Base64 of the bytes, wrapped character by character. -/
theorem encodeBase64_eq (built : encodeBase64 input lineLength = some output) :
    output = ((Base64.encode input).foldl (WrappedText.append lineLength) {}).text := by
  rw [encodeBase64, encodeBlocks_eq, heldText_eq_some] at built
  exact built.2.symm

/-- At most every second character is a line break. -/
theorem length_encodeBlocks (input : List UInt8) (lineLength : Int) :
    (encodeBlocks lineLength input {}).text.length ≤ 8 * ((input.length + 2) / 3) := by
  have length := @length_foldl lineLength (Base64.encode input) {}
  have empty : ({} : WrappedText).text.length = 0 := rfl
  rw [Base64.length_encode, empty] at length
  rw [encodeBlocks_eq]
  omega

/-- There is room for the text of a shorter array. -/
theorem encodeBase64_isSome (room : 8 * ((input.length + 2) / 3) ≤ 2147483647) :
    (encodeBase64 input lineLength).isSome := by
  have length := length_encodeBlocks input lineLength
  rw [encodeBase64, heldText, if_pos (by omega)]
  rfl

/-- The line breaks only make a text longer than the Base64 in it. -/
theorem encodeBase64_length (built : encodeBase64 input lineLength = some output) :
    (Base64.encode input).length ≤ output.length := by
  have characters := @unbroken_foldl lineLength _ {} (Base64.encode_clean input)
  have whole : output.filter (· ≠ '\n') = Base64.encode input := by
    rw [encodeBase64_eq built, characters]
    rfl
  exact whole ▸ List.length_filter_le _ output

/-- Without its line breaks the text is decoded to the array. -/
theorem encodeBase64_decodes (built : encodeBase64 input lineLength = some output) :
    Base64.decode (output.filter (· ≠ '\n')) = some input := by
  have characters := @unbroken_foldl lineLength _ {} (Base64.encode_clean input)
  rw [encodeBase64_eq built, characters]
  exact Base64.decode_encode input

/-- The text is the encoding, cut into lines. -/
theorem encodeBase64_wrapped {width : Nat} (some : 0 < width)
    (built : encodeBase64 input width = .some output) :
    ∃ full last, LinesOf width (Base64.encode input) full last ∧
      output = full.flatMap (· ++ ['\n']) ++ last := by
  have empty : Wrapped width [] {} :=
    ⟨[], [], ⟨rfl, fun line member => absurd member List.not_mem_nil, Nat.zero_le width, fun _ => rfl⟩,
      rfl⟩
  obtain ⟨full, last, lines, same⟩ := empty.foldl some (Base64.encode input)
  exact ⟨full, last, lines, by rw [encodeBase64_eq built, same]⟩

/-- Lines cut out of a text without line breaks have none in them. -/
theorem LinesOf.clean {width : Nat} {characters : List Char} {full : List (List Char)}
    {last : List Char} (lines : LinesOf width characters full last)
    (clean : ∀ character ∈ characters, character ≠ '\n') :
    (∀ line ∈ full, '\n' ∉ line) ∧ '\n' ∉ last := by
  constructor
  · intro line member within
    have inside : '\n' ∈ full.flatten ++ last :=
      List.mem_append_left last (List.mem_flatten.mpr ⟨line, member, within⟩)
    exact clean _ (lines.joined ▸ inside) rfl
  · intro within
    exact clean _ (lines.joined ▸ List.mem_append_right full.flatten within) rfl

theorem encode_eq_nil (nothing : Base64.encode input = []) : input = [] := by
  cases input with
  | nil => rfl
  | cons byte input =>
      have length := Base64.length_encode (byte :: input)
      rw [nothing, List.length_nil, List.length_cons] at length
      omega

theorem encodeBase64_lines (positive : 0 < lineLength)
    (built : encodeBase64 input lineLength = some output) :
    ∃ full last, output.splitOn '\n' = full ++ [last] ∧
      (∀ line ∈ full, (line.length : Int) = lineLength) ∧ (last.length : Int) ≤ lineLength ∧
      (last = [] → input = []) := by
  obtain ⟨width, rfl⟩ := Int.eq_ofNat_of_zero_le (Int.le_of_lt positive)
  obtain ⟨full, last, lines, rfl⟩ := encodeBase64_wrapped (Int.natCast_pos.mp positive) built
  have clean := lines.clean (Base64.encode_clean input)
  exact ⟨full, last, Fields.splitOn_terminated clean.1 clean.2,
    fun line member => congrArg Int.ofNat (lines.filled line member),
    Int.ofNat_le.mpr lines.bounded, fun nothing => encode_eq_nil (lines.started nothing)⟩

/-- A text that OpenSSH reads as the key file of one key: base64 between two armor lines, in it an
envelope with the blob, no cipher and no key derivation, and in that the private section. -/
def KeyText (check : UInt32) (seed publicBytes blob : List UInt8) (text : List Char) : Prop :=
  ∃ lines bytes privateKeys,
    text.splitOn '\n' = beginLine :: lines ++ [endLine, []] ∧
    Base64.decode lines.flatten = some bytes ∧
    readKeyFile bytes = some (fileFields blob privateKeys) ∧
    8 ∣ privateKeys.length ∧
    readPrivateSection privateKeys = some (sectionFields check seed publicBytes)

/-- The file that is built reads back as the key text of this seed, public key, comment and check
number. -/
theorem encodePrivateKey_reads (seeded : seed.length = 32) (keyed : publicBytes.length = 32)
    (built : encodePrivateKey check seed publicBytes blob = some text) :
    KeyText check seed publicBytes blob text := by
  obtain ⟨base64, encoded, held⟩ := Option.bind_eq_some_iff.mp built
  obtain ⟨short, rfl⟩ := heldText_eq_some.mp held
  obtain ⟨full, last, lines, rfl⟩ := encodeBase64_wrapped (by decide) encoded
  have clean := lines.clean (Base64.encode_clean _)
  have opening : '\n' ∉ beginLine := by decide
  have closing : '\n' ∉ endLine := by decide
  -- There was room for the text, so that the blob has a length of four bytes.
  have fits : blob.length < 256 ^ 4 := by
    have inside := length_envelope blob (privateSection check seed publicBytes)
    have written := encodeBase64_length encoded
    rw [Base64.length_encode] at written
    simp only [List.length_append] at short written
    omega
  have small : (privateSection check seed publicBytes).length < 256 ^ 4 := by
    rw [length_privateSection seeded keyed]
    decide
  refine ⟨full ++ [last], envelope blob (privateSection check seed publicBytes),
    privateSection check seed publicBytes, ?_, ?_, ?_, ?_, ?_⟩
  · have text : beginLine ++ ['\n'] ++ (full.flatMap (· ++ ['\n']) ++ last) ++ ['\n'] ++ endLine ++
        ['\n'] = (beginLine :: (full ++ [last, endLine])).flatMap (· ++ ['\n']) ++ [] := by
      simp [List.append_assoc]
    rw [text, Fields.splitOn_terminated _ List.not_mem_nil]
    · simp [List.append_assoc]
    · intro line member
      rcases List.mem_cons.mp member with rfl | member
      · exact opening
      rcases List.mem_append.mp member with inside | behind
      · exact clean.1 line inside
      rcases List.mem_pair.mp behind with rfl | rfl
      · exact clean.2
      · exact closing
  · rw [List.flatten_append, List.flatten_singleton, lines.joined, Base64.decode_encode]
  · rw [envelope_eq fits small, readKeyFile_bytes (fileFields_fits fits small)]
  · exact privateSection_blocks check seed publicBytes
  · rw [privateSection_eq seeded keyed, readPrivateSection_bytes (sectionFields_fits seeded keyed)]

/-- There is room for the key file of the blob that belongs to the key. -/
theorem encodePrivateKey_isSome (seeded : seed.length = 32) (keyed : publicBytes.length = 32) :
    (encodePrivateKey check seed publicBytes (publicBlob publicBytes)).isSome := by
  have bytes := length_envelope (publicBlob publicBytes) (privateSection check seed publicBytes)
  rw [length_publicBlob keyed, length_privateSection seeded keyed] at bytes
  have length :=
    length_encodeBlocks (envelope (publicBlob publicBytes) (privateSection check seed publicBytes)) 70
  have opening : beginLine.length = 35 := rfl
  have closing : endLine.length = 33 := rfl
  rw [encodePrivateKey, encodeBase64, heldText, if_pos (by omega), Option.bind_eq_bind,
    Option.bind_some, heldText, if_pos]
  · rfl
  · simp only [List.length_append, List.length_singleton]
    omega

end Built

/-- The key file that is built for a key is read back by OpenSSH, and the text of every array is base64
that is cut into full lines. -/
theorem key_container :
    (∀ check seed publicBytes, seed.length = 32 → publicBytes.length = 32 →
      (∀ blob text, encodePrivateKey check seed publicBytes blob = some text →
        KeyText check seed publicBytes blob text) ∧
      (encodePrivateKey check seed publicBytes (publicBlob publicBytes)).isSome) ∧
    ∀ input lineLength,
      (∀ output, encodeBase64 input lineLength = some output →
        Base64.decode (output.filter (· ≠ '\n')) = some input ∧
        (0 < lineLength → ∃ full last, output.splitOn '\n' = full ++ [last] ∧
          (∀ line ∈ full, (line.length : Int) = lineLength) ∧ (last.length : Int) ≤ lineLength ∧
          (last = [] → input = []))) ∧
      (8 * ((input.length + 2) / 3) ≤ 2147483647 → (encodeBase64 input lineLength).isSome) := by
  refine ⟨fun check seed publicBytes seeded keyed => ⟨fun blob text built => ?_, ?_⟩,
    fun input lineLength => ⟨fun output built => ⟨?_, fun positive => ?_⟩, fun room => ?_⟩⟩
  · exact encodePrivateKey_reads seeded keyed built
  · exact encodePrivateKey_isSome seeded keyed
  · exact encodeBase64_decodes built
  · exact encodeBase64_lines positive built
  · exact encodeBase64_isSome room

/-- A key of equal bytes, and four bytes in lines of three characters: both are short enough to be
evaluated. -/
theorem key_container_sevens :
    (∃ text, encodePrivateKey 1 (List.replicate 32 3) (List.replicate 32 7)
        (publicBlob (List.replicate 32 7)) = some text ∧
      KeyText 1 (List.replicate 32 3) (List.replicate 32 7) (publicBlob (List.replicate 32 7)) text) ∧
    ∃ full last, "TWF\nuIQ\n==".toList.splitOn '\n' = full ++ [last] ∧
      (∀ line ∈ full, (line.length : Int) = 3) ∧ (last.length : Int) ≤ 3 := by
  have private32 := key_container.1 1 (List.replicate 32 3) (List.replicate 32 7) rfl rfl
  obtain ⟨text, built⟩ := Option.isSome_iff_exists.mp private32.2
  have wrapped := (key_container.2 [77, 97, 110, 33] 3).1 "TWF\nuIQ\n==".toList (by decide)
  obtain ⟨full, last, split, filled, bounded, started⟩ := wrapped.2 (by decide)
  exact ⟨⟨text, built, private32.1 _ text built⟩, full, last, split, filled, bounded⟩

example : encodeBase64 (asciiBytes "foobar") 0 = some "Zm9vYmFy".toList := by decide

end DawnShell.App
