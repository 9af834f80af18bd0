/-
Module: DawnShell.Lib.SshWire
Layer: Lib
Purpose: The data representation of SSH and the key file of OpenSSH.  A reader takes a value off the
  front of a byte string; `Reads` says what a reader makes of a text, whatever stands behind it, and
  composes along the steps of a reader.  On numbers and length-prefixed strings stand the two parts of
  a key file: the envelope, and what is inside its private section when no cipher is in use.
Trusted boundary: the layout of `openssh-key-v1` with keys of four strings, as for Ed25519
Main exports: SshWire.Reader, SshWire.Reads, SshWire.uint32, SshWire.string, SshWire.readUint32,
  SshWire.readString, SshWire.KeyFile, SshWire.readKeyFile, SshWire.PrivateSection,
  SshWire.readPrivateSection
-/
import DawnShell.Lib.BigEndian

namespace SshWire

/-- Takes a value off the front of a byte string; none when there is no such value. -/
abbrev Reader := StateT (List UInt8) Option

/-- The reader makes the value of the text and leaves what is behind it. -/
def Reads {α : Type} (reader : Reader α) (text : List UInt8) (value : α) : Prop :=
  ∀ rest, reader.run (text ++ rest) = some (value, rest)

section Composition

variable {α β : Type} {reader : Reader α} {next : α → Reader β} {text more : List UInt8} {value : α}
  {result : β}

theorem Reads.pure : Reads (Pure.pure value) [] value := fun _ => rfl

/-- What has been read is handed to the rest of the reader. -/
theorem Reads.continues (first : Reads reader text value) (rest : List UInt8) :
    (reader >>= next).run (text ++ rest) = (next value).run rest := by
  rw [StateT.run_bind, first rest]
  rfl

/-- Two readers in sequence read what the first and the second read. -/
theorem Reads.bind (first : Reads reader text value) (second : Reads (next value) more result) :
    Reads (reader >>= next) (text ++ more) result := by
  intro rest
  rw [List.append_assoc, first.continues, second rest]

/-- A last step that reads nothing. -/
theorem Reads.returns (first : Reads reader text value) (last : next value = Pure.pure result) :
    Reads (reader >>= next) text result := by
  intro rest
  rw [first.continues, last]
  rfl

/-- A reader that reads a whole text gives its value and leaves nothing. -/
theorem Reads.run (reads : Reads reader text value) : reader.run text = some (value, []) := by
  have whole := reads []
  rwa [List.append_nil] at whole

end Composition

/-! ### Numbers and strings -/

/-- A number of four bytes. -/
def uint32 (value : Nat) : List UInt8 := BigEndian.encode 4 value

/-- A string with its length in front. -/
def string (value : List UInt8) : List UInt8 := uint32 value.length ++ value

/-- The next bytes. -/
def readBytes (count : Nat) : Reader (List UInt8) := fun bytes =>
  if count ≤ bytes.length then some (bytes.take count, bytes.drop count) else none

def readUint32 : Reader Nat := do
  let bytes ← readBytes 4
  pure (BigEndian.decode bytes)

def readString : Reader (List UInt8) := do
  let length ← readUint32
  readBytes length

def readStrings : Nat → Reader (List (List UInt8))
  | 0 => pure []
  | count + 1 => do
      let first ← readString
      let others ← readStrings count
      pure (first :: others)

section Strings

variable {value : List UInt8} {values : List (List UInt8)} {number : Nat}

@[simp] theorem length_uint32 : (uint32 number).length = 4 := BigEndian.length_encode 4 number

@[simp] theorem length_string : (string value).length = value.length + 4 := by
  rw [string, List.length_append, length_uint32, Nat.add_comm]

theorem readBytes_reads {count : Nat} (length : value.length = count) :
    Reads (readBytes count) value value := by
  intro rest
  have enough : count ≤ (value ++ rest).length := by
    rw [List.length_append]
    omega
  show readBytes count (value ++ rest) = _
  rw [readBytes, if_pos enough, List.take_left' length, List.drop_left' length]

/-- A number below `2 ^ 32` is read back from its four bytes. -/
theorem readUint32_reads (fits : number < 256 ^ 4) : Reads readUint32 (uint32 number) number := by
  have bytes : Reads (readBytes 4) (uint32 number) (uint32 number) := readBytes_reads length_uint32
  have same : BigEndian.decode (uint32 number) = number := BigEndian.decode_encode_of_lt fits
  exact bytes.returns (by rw [same])

/-- A string is read back when its length fits the field in front of it. -/
theorem readString_reads (fits : value.length < 256 ^ 4) : Reads readString (string value) value :=
  (readUint32_reads fits).bind (readBytes_reads rfl)

/-- A list of strings is read back when it is known how many there are. -/
theorem readStrings_reads (fit : ∀ value ∈ values, value.length < 256 ^ 4) :
    Reads (readStrings values.length) (values.flatMap string) values := by
  induction values with
  | nil => exact Reads.pure
  | cons value values ih =>
      have first := readString_reads (fit value (.head _))
      have others := ih fun other member => fit other (.tail _ member)
      exact first.bind (others.returns rfl)

end Strings

/-! ### Key files -/

/-- The text in front of an envelope, with its terminator. -/
def magic : List UInt8 := "openssh-key-v1\x00".toList.map fun character => UInt8.ofNat character.toNat

/-- The envelope of a key file. -/
structure KeyFile where
  cipher : List UInt8
  kdf : List UInt8
  kdfOptions : List UInt8
  publicKeys : List (List UInt8)
  /-- The private keys, which the cipher hides. -/
  privateKeys : List UInt8
deriving DecidableEq, Repr

/-- The bytes of an envelope. -/
def KeyFile.bytes (file : KeyFile) : List UInt8 :=
  magic ++ (string file.cipher ++ (string file.kdf ++ (string file.kdfOptions ++
    (uint32 file.publicKeys.length ++ (file.publicKeys.flatMap string ++ string file.privateKeys)))))

def readMagic : Reader Unit := do
  let bytes ← readBytes magic.length
  if bytes = magic then pure () else failure

def readKeyFileFields : Reader KeyFile := do
  readMagic
  let cipher ← readString
  let kdf ← readString
  let kdfOptions ← readString
  let count ← readUint32
  let publicKeys ← readStrings count
  let privateKeys ← readString
  pure { cipher, kdf, kdfOptions, publicKeys, privateKeys }

/-- The envelope that a byte string is. -/
def readKeyFile (bytes : List UInt8) : Option KeyFile :=
  match readKeyFileFields.run bytes with
  | some (file, []) => some file
  | _ => none

/-- A private key with its comment, behind the numbers that show a wrong passphrase and in front of the
padding. -/
structure PrivateSection where
  firstCheck : Nat
  secondCheck : Nat
  keyType : List UInt8
  publicKey : List UInt8
  privateKey : List UInt8
  comment : List UInt8
  padding : List UInt8
deriving DecidableEq, Repr

/-- The bytes of a private section. -/
def PrivateSection.bytes (keys : PrivateSection) : List UInt8 :=
  uint32 keys.firstCheck ++ (uint32 keys.secondCheck ++ (string keys.keyType ++
    (string keys.publicKey ++ (string keys.privateKey ++ (string keys.comment ++ keys.padding)))))

def readPrivateFields : Reader PrivateSection := do
  let firstCheck ← readUint32
  let secondCheck ← readUint32
  let keyType ← readString
  let publicKey ← readString
  let privateKey ← readString
  let comment ← readString
  let padding ← get
  pure { firstCheck, secondCheck, keyType, publicKey, privateKey, comment, padding }

/-- The private section that a byte string is: what is behind the comment is the padding. -/
def readPrivateSection (bytes : List UInt8) : Option PrivateSection :=
  (readPrivateFields.run bytes).map Prod.fst

/-- The strings of an envelope have lengths of four bytes. -/
structure KeyFile.Fits (file : KeyFile) : Prop where
  cipher : file.cipher.length < 256 ^ 4
  kdf : file.kdf.length < 256 ^ 4
  kdfOptions : file.kdfOptions.length < 256 ^ 4
  count : file.publicKeys.length < 256 ^ 4
  publicKeys : ∀ key ∈ file.publicKeys, key.length < 256 ^ 4
  privateKeys : file.privateKeys.length < 256 ^ 4

/-- The numbers of a private section and the lengths of its strings have four bytes. -/
structure PrivateSection.Fits (keys : PrivateSection) : Prop where
  firstCheck : keys.firstCheck < 256 ^ 4
  secondCheck : keys.secondCheck < 256 ^ 4
  keyType : keys.keyType.length < 256 ^ 4
  publicKey : keys.publicKey.length < 256 ^ 4
  privateKey : keys.privateKey.length < 256 ^ 4
  comment : keys.comment.length < 256 ^ 4

theorem readMagic_reads : Reads readMagic magic () := by
  have bytes : Reads (readBytes magic.length) magic magic := readBytes_reads rfl
  exact bytes.returns (if_pos rfl)

/-- An envelope is read from its bytes. -/
theorem readKeyFile_bytes {file : KeyFile} (fits : file.Fits) :
    readKeyFile file.bytes = some file := by
  have reads : Reads readKeyFileFields file.bytes file :=
    readMagic_reads.bind ((readString_reads fits.cipher).bind ((readString_reads fits.kdf).bind
      ((readString_reads fits.kdfOptions).bind ((readUint32_reads fits.count).bind
      ((readStrings_reads fits.publicKeys).bind ((readString_reads fits.privateKeys).returns rfl))))))
  rw [readKeyFile, reads.run]

/-- A private section is read from its bytes. -/
theorem readPrivateSection_bytes {keys : PrivateSection} (fits : keys.Fits) :
    readPrivateSection keys.bytes = some keys := by
  rw [readPrivateSection, readPrivateFields, PrivateSection.bytes,
    (readUint32_reads fits.firstCheck).continues, (readUint32_reads fits.secondCheck).continues,
    (readString_reads fits.keyType).continues, (readString_reads fits.publicKey).continues,
    (readString_reads fits.privateKey).continues, (readString_reads fits.comment).continues]
  rfl

end SshWire
