/-
Module: DawnShell.App.Publish
Layer: App
Purpose: How the app replaces a private file: the contents go to a temporary file next to it, which is
  synced, made private and renamed.  The routines are programs over the file system, and `FileWorld` is
  what the file system keeps of them.
Trusted boundary: faithful model of BfuAuthorizedKeys.java:15-86 and 107-132,
  BfuSshClientKeyStore.java:28 and 68-84, DockerNetworkProvisioner.java:27 and 276-296,
  BfuRuntime.java:353-381 and HardwareCodecProbe.java:387-399.  A byte is written as the character with
  its number.  A failed operation has done nothing, except that a failed write may have written a part.
  The lock around a revision and the layout of directories are left out.  The base64 decoder of Android
  is a parameter, which has no value where it throws.
Main exports: File, FileCall, FileWorld, publish, normalizedKeys, Publication, Publication.program,
  Publication.destination, Publication.contents, writeAtomic
-/
import DawnShell.Lib.Crash
import DawnShell.Lib.JavaStrings

namespace DawnShell.App

open Java Interaction

/-! ### Files -/

/-- A `File` by its parent and its name. -/
structure File where
  parent : JavaString
  name : JavaString
deriving DecidableEq, Repr

/-- `File.toString`. -/
def File.path (file : File) : JavaString := file.parent ++ 0x2f :: file.name

/-- `new File(file.getParentFile(), file.getName() + suffix)`. -/
def File.temporary (file : File) (suffix : List Char) : File :=
  { file with name := file.name ++ literal suffix }

/-- What a file contains. -/
abbrev Contents := List Char

/-- The operations on files. -/
inductive FileCall where
  /-- `new FileOutputStream(file, false)`. -/
  | openOutput (file : File)
  | write (file : File) (contents : Contents)
  /-- `getFD().sync()`. -/
  | sync (file : File)
  | closeOutput (file : File)
  | setReadable (file : File) (readable ownerOnly : Bool)
  | setWritable (file : File) (writable ownerOnly : Bool)
  | setExecutable (file : File) (executable ownerOnly : Bool)
  | fileExists (file : File)
  | delete (file : File)
  | renameTo (file destination : File)
  /-- `getAssets().open(assetPath)`. -/
  | openAsset (assetPath : JavaString)
  | readAsset (size : Nat)
  | closeAsset
  /-- More iterations of a loop than it was given. -/
  | exhausted
deriving DecidableEq, Repr

/-- The answer to `write`. -/
inductive WriteAnswer where
  | complete
  /-- The exception after some bytes. -/
  | failed (written : Nat)
deriving DecidableEq, Repr

/-- The answer to `read`. -/
inductive ReadAnswer where
  | bytes (contents : Contents)
  | ended
  | failed
deriving DecidableEq, Repr

/-- A call that throws answers `false` when it does. -/
abbrev FileCall.Answer : FileCall → Type
  | .write .. => WriteAnswer
  | .readAsset _ => ReadAnswer
  | .exhausted => Empty
  | _ => Bool

/-- The files that matter, the assets of the app and what the open asset has left. -/
structure FileWorld where
  contents : File → Option Contents
  assets : JavaString → Contents
  unread : Contents := []

/-- One file is changed. -/
def FileWorld.put (world : FileWorld) (file : File) (contents : Option Contents) : FileWorld :=
  { world with contents := fun other => if other = file then contents else world.contents other }

abbrev FileExchange := Exchange FileCall FileCall.Answer

/-- What an exchange does to the files; none when the answer is impossible. -/
def FileWorld.observe (world : FileWorld) : FileExchange → Option FileWorld
  | ⟨.openOutput file, true⟩ => some (world.put file (some []))
  | ⟨.write file contents, .complete⟩ =>
      some (world.put file ((world.contents file).map (· ++ contents)))
  | ⟨.write file contents, .failed written⟩ =>
      some (world.put file ((world.contents file).map (· ++ contents.take written)))
  | ⟨.fileExists file, true⟩ => if (world.contents file).isSome then some world else none
  | ⟨.delete file, true⟩ => if (world.contents file).isSome then some (world.put file none) else none
  | ⟨.renameTo file destination, true⟩ =>
      if (world.contents file).isSome
      then some ((world.put destination (world.contents file)).put file none) else none
  | ⟨.openAsset assetPath, true⟩ => some { world with unread := world.assets assetPath }
  | ⟨.readAsset size, .bytes contents⟩ =>
      if contents ≠ [] ∧ contents.length ≤ size ∧ contents <+: world.unread
      then some { world with unread := world.unread.drop contents.length } else none
  | ⟨.readAsset _, .ended⟩ => if world.unread = [] then some world else none
  | _ => some world

/-! ### Programs -/

/-- An exception. -/
inductive Thrown where
  | message (text : JavaString)
  /-- The exception of an operation. -/
  | operation (call : FileCall)
deriving DecidableEq, Repr

abbrev FileSteps := Fallible FileCall FileCall.Answer Thrown

/-- A call whose answer is looked at. -/
def perform (request : FileCall) : FileSteps request.Answer := ExceptT.lift (Interaction.call request)

/-- The exception of a routine. -/
def fails {α : Type} (text : JavaString) : FileSteps α := throw (.message text)

/-- `new FileOutputStream(file, false)`. -/
def openOutput (file : File) : FileSteps Unit := do
  let opened ← perform (.openOutput file)
  if opened then pure () else throw (.operation (.openOutput file))

/-- `output.write(contents)`. -/
def write (file : File) (contents : Contents) : FileSteps Unit := do
  match ← perform (.write file contents) with
  | .complete => pure ()
  | .failed _ => throw (.operation (.write file contents))

/-- `output.getFD().sync()`. -/
def sync (file : File) : FileSteps Unit := do
  let synced ← perform (.sync file)
  if synced then pure () else throw (.operation (.sync file))

/-- A `try` with a resource that is closed by a call: an exception of the body hides one of the close. -/
def closing (close : FileCall) (closed : close.Answer → Bool) (body : FileSteps Unit) :
    FileSteps Unit := do
  tryCatch body fun thrown => do
    let _ ← perform close
    throw thrown
  let answer ← perform close
  if closed answer then pure () else throw (.operation close)

/-- `setOwnerOnly`, `setPrivateMode`. -/
def setPrivateMode (file : File) (executable : Bool) : FileSteps Unit := do
  let _ ← perform (.setReadable file false false)
  let _ ← perform (.setWritable file false false)
  let _ ← perform (.setExecutable file false false)
  let _ ← perform (.setReadable file true true)
  let _ ← perform (.setWritable file true true)
  if executable then
    let _ ← perform (.setExecutable file true true)

/-- The file is written and synced. -/
def writeSynced (file : File) (contents : Contents) : FileSteps Unit := do
  openOutput file
  closing (.closeOutput file) id do
    write file contents
    sync file

/-- `if (destination.exists() && !destination.delete()) throw`. -/
def removeOld (destination : File) (message : JavaString) : FileSteps Unit := do
  if ← perform (.fileExists destination) then
    let deleted ← perform (.delete destination)
    if deleted then pure () else fails message

/-- `if (!temporary.renameTo(destination)) throw`. -/
def moveInto (destination temporary : File) (message : JavaString) : FileSteps Unit := do
  let renamed ← perform (.renameTo temporary destination)
  if renamed then pure () else fails message

/-- How a routine replaces its file once the temporary file is filled. -/
def publish (destination : File) (fill : File → FileSteps Unit) (executable : Bool)
    (cannotReplace cannotPublish : JavaString) : FileSteps Unit := do
  let temporary := destination.temporary ".new".toList
  fill temporary
  setPrivateMode temporary executable
  removeOld destination cannotReplace
  moveInto destination temporary cannotPublish
  setPrivateMode destination executable

/-! ### Authorized keys -/

/-- `MAX_BYTES`. -/
def maxKeyBytes : Nat := 32 * 1024

/-- `MAX_KEYS`. -/
def maxKeys : Nat := 32

/-- `ALLOWED_TYPES`. -/
def allowedTypes : List JavaString :=
  ["ssh-ed25519", "ssh-rsa", "ecdsa-sha2-nistp256", "ecdsa-sha2-nistp384", "ecdsa-sha2-nistp521",
    "sk-ssh-ed25519@openssh.com", "sk-ecdsa-sha2-nistp256@openssh.com"].map (literal ·.toList)

/-- `replace("\r\n", "\n").replace('\r', '\n')`. -/
def normalizedInput : JavaString → JavaString
  | 0x0d :: 0x0a :: rest => 0x0a :: normalizedInput rest
  | 0x0d :: rest => 0x0a :: normalizedInput rest
  | unit :: rest => unit :: normalizedInput rest
  | [] => []

/-- `matches("[A-Za-z0-9+/]+={0,2}")`. -/
def isBase64Text (text : JavaString) : Bool :=
  let digits := text.takeWhile isBase64Digit
  let padding := text.dropWhile isBase64Digit
  digits ≠ [] && padding.all (· == 0x3d) && padding.length ≤ 2
where
  isBase64Digit (unit : UInt16) : Bool :=
    (0x41 ≤ unit && unit ≤ 0x5a) || (0x61 ≤ unit && unit ≤ 0x7a) || (0x30 ≤ unit && unit ≤ 0x39) ||
      unit == 0x2b || unit == 0x2f

/-- `validateBlobType`. -/
def validateBlobType (declaredType : JavaString) (blob : Contents) : Except JavaString Unit :=
  if blob.length < 5 then throw (literal "SSH public key blob is truncated".toList)
  else
    let length := (blob.take 4).foldl (fun total byte => total * 256 + byte.toNat) 0
    if length = 0 ∨ length > blob.length - 4 ∨ length > 256 then
      throw (literal "SSH public key blob has an invalid type field".toList)
    else if declaredType ≠ decodedAscii ((blob.drop 4).take length) then
      throw (literal "SSH public key type does not match its encoded blob".toList)
    else pure ()

/-- The keys that have been accepted so far. -/
structure AcceptedKeys where
  normalized : JavaString := []
  keyCount : Nat := 0
deriving DecidableEq, Repr

/-- The loop over the lines of the input. -/
def acceptLine (decode : JavaString → Option Contents) (keys : AcceptedKeys)
    (originalLine : JavaString) : Except JavaString AcceptedKeys := do
  let line := trim originalLine
  if line = [] ∨ line.head? = some 0x23 then return keys
  if line.length > 16 * 1024 then throw (literal "an SSH public-key line is too long".toList)
  match splitLimit isSpace 2 line with
  | type :: key :: _ =>
      if type ∉ allowedTypes then throw optionsForbidden
      if !isBase64Text key then throw (literal "SSH public key has invalid base64 text".toList)
      match decode key with
      | none => throw (literal "SSH public key has invalid base64".toList)
      | some blob =>
          validateBlobType type blob
          if keys.keyCount + 1 > maxKeys then
            throw (literal "at most 32 SSH public keys are allowed".toList)
          let normalized := keys.normalized ++ line ++ [0x0a]
          if (encoded normalized).length > maxKeyBytes then
            throw (literal "authorized_keys exceeds 32 KiB".toList)
          return ⟨normalized, keys.keyCount + 1⟩
  | _ => throw optionsForbidden
where
  optionsForbidden : JavaString :=
    literal "only bare supported SSH public keys are allowed; key options are forbidden".toList

/-- What `validateAndSave` checks before it writes. -/
def normalizedKeys (decode : JavaString → Option Contents) (input : Option JavaString) :
    Except JavaString AcceptedKeys :=
  match input with
  | none => throw (literal "authorized_keys contains invalid text".toList)
  | some input =>
      if 0 ∈ input then throw (literal "authorized_keys contains invalid text".toList)
      else do
        let keys ← ((normalizedInput input).splitOn 0x0a).foldlM (acceptLine decode) {}
        if keys.keyCount = 0 then throw (literal "enter at least one SSH public key".toList)
        return keys

/-- `validateAndSave`. -/
def validateAndSave (decode : JavaString → Option Contents) (authorizedKeys : File)
    (input : Option JavaString) : FileSteps Nat := do
  match normalizedKeys decode input with
  | .error message => fails message
  | .ok keys =>
      publish authorizedKeys (writeSynced · (encoded keys.normalized)) false
        (literal "cannot replace DE authorized_keys".toList)
        (literal "cannot publish DE authorized_keys".toList)
      return keys.keyCount

/-! ### The client key -/

/-- `Identity`. -/
structure Identity where
  privateKey : JavaString
  publicKey : JavaString
deriving DecidableEq, Repr

/-- `FORMAT`. -/
def identityFormat : JavaString := literal "DAWNSHELL-SSH-KEY-V1".toList

/-- The record of an identity. -/
def Identity.record (identity : Identity) : Contents :=
  encodedAscii (identityFormat ++ [0x0a] ++ identity.publicKey ++ [0x0a] ++ identity.privateKey)

/-- `BfuSshClientKeyStore.write`. -/
def writeIdentity (destination : File) (identity : Identity) : FileSteps Unit :=
  publish destination (writeSynced · identity.record) false
    (literal "could not replace CE SSH identity".toList)
    (literal "could not publish CE SSH identity".toList)

/-! ### The policy revision -/

/-- `REVISION_FILE`. -/
def revisionFile (filesDir : JavaString) : File :=
  ⟨filesDir, literal "docker-network-policy.revision".toList⟩

/-- `Integer.toString(revision) + "\n"`. -/
def revisionContents (revision : Int) : Contents := (toString revision).toList ++ ['\n']

/-- `writeManagedRevision`. -/
def writeManagedRevision (filesDir : JavaString) (revision : Int) : FileSteps Unit :=
  publish (revisionFile filesDir) (writeSynced · (revisionContents revision)) false
    (literal "cannot replace Docker policy revision".toList)
    (literal "cannot publish Docker policy revision".toList)

/-! ### Assets -/

/-- One iteration of the loop that copies an asset. -/
def copyChunk (temporary : File) : FileSteps (Iteration Unit Unit) := do
  match ← perform (.readAsset 8192) with
  | .bytes contents =>
      write temporary contents
      return .again ()
  | .ended => return .leave ()
  | .failed => throw (.operation (.readAsset 8192))

/-- What the loop does when it has used up its iterations. -/
def copyExhausted : FileSteps Unit := ExceptT.lift (.ask .exhausted fun impossible => nomatch impossible)

/-- The loop that copies an asset. -/
def copyLoop (temporary : File) (fuel : Nat) : FileSteps Unit :=
  loopSteps copyExhausted (fun _ => copyChunk temporary) fuel ()

/-- The asset is copied and synced. -/
def fillFromAsset (fuel : Nat) (assetPath : JavaString) (temporary : File) : FileSteps Unit := do
  let opened ← perform (.openAsset assetPath)
  if opened then
    closing .closeAsset id do
      openOutput temporary
      closing (.closeOutput temporary) id do
        copyLoop temporary fuel
        sync temporary
  else throw (.operation (.openAsset assetPath))

/-- `copyPrivateAsset`. -/
def copyPrivateAsset (fuel : Nat) (assetPath : JavaString) (file : File) (executable : Bool) :
    FileSteps Unit :=
  publish file (fillFromAsset fuel assetPath) executable
    (literal "Failed to replace ".toList ++ file.path)
    (literal "Failed to install ".toList ++ file.path)

/-! ### The publications -/

/-- A call of one of the routines. -/
inductive Publication where
  | validateAndSave (authorizedKeys : File) (input : Option JavaString)
  | writeIdentity (destination : File) (identity : Identity)
  | writeManagedRevision (filesDir : JavaString) (revision : Int)
  | copyPrivateAsset (assetPath : JavaString) (file : File) (executable : Bool)

/-- What a call does. -/
def Publication.program (decode : JavaString → Option Contents) (fuel : Nat) :
    Publication → FileSteps Unit
  | .validateAndSave authorizedKeys input => discard (App.validateAndSave decode authorizedKeys input)
  | .writeIdentity destination identity => App.writeIdentity destination identity
  | .writeManagedRevision filesDir revision => App.writeManagedRevision filesDir revision
  | .copyPrivateAsset assetPath file executable =>
      App.copyPrivateAsset fuel assetPath file executable

/-- The path that a call publishes. -/
def Publication.destination : Publication → File
  | .validateAndSave authorizedKeys _ => authorizedKeys
  | .writeIdentity destination _ => destination
  | .writeManagedRevision filesDir _ => revisionFile filesDir
  | .copyPrivateAsset _ file _ => file

/-- The complete new contents; none when the input is rejected. -/
def Publication.contents (decode : JavaString → Option Contents) (world : FileWorld) :
    Publication → Option Contents
  | .validateAndSave _ input =>
      (normalizedKeys decode input).toOption.map fun keys => encoded keys.normalized
  | .writeIdentity _ identity => some identity.record
  | .writeManagedRevision _ revision => some (revisionContents revision)
  | .copyPrivateAsset assetPath _ _ => some (world.assets assetPath)

/-! ### A sibling -/

/-- `writeAtomic`: a temporary file is renamed over the old one. -/
def writeAtomic (destination : File) (value : JavaString) : FileSteps Unit := do
  let temporary := destination.temporary ".tmp".toList
  writeSynced temporary (encoded value)
  setPrivateMode temporary false
  moveInto destination temporary (literal "Could not publish ".toList ++ destination.name)
  setPrivateMode destination false

end DawnShell.App
