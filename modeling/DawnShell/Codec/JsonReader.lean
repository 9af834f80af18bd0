/-
Module: DawnShell.Codec.JsonReader
Layer: Codec
Purpose: How the adapter reads JSON: one value from the position of the last match on, which every test
  moves past what it has taken, and a failure when the text does not go on as it should.
Trusted boundary: faithful model of dawnshell-codec-ffmpeg.pl:31-116.  A text is the list of its
  characters, and what is still to be read stands for the position of the match; `fail` prints its text and
  ends the program.  A match of no characters leaves the position where it is.
Main exports: JsonReader.JsonValue, JsonReader.JsonFailure, JsonReader.jsonString, JsonReader.jsonNumber,
  JsonReader.jsonValue, JsonReader.jsonDecode, JsonReader.jsonQuote
-/
import DawnShell.Lib.JsonGrammar

namespace DawnShell.Codec.JsonReader

open JsonGrammar

/-- Why nothing is read: `fail` with its text, or, in the model only, no fuel is left. -/
inductive JsonFailure where
  | message (text : String)
  | exhausted
deriving DecidableEq, Repr

/-- The values of the reader: a scalar, `undef`, a reference to an array and one to a hash. -/
inductive JsonValue where
  | text (value : Text)
  | null
  | array (items : List JsonValue)
  | object (field : Text → Option JsonValue)

/-- `$object{$key} = ...`. -/
def assigned (object : Text → Option JsonValue) (key : Text) (value : JsonValue) :
    Text → Option JsonValue :=
  fun name => if name = key then some value else object name

/-! ### Matches at the position -/

/-- A match of a fixed text: what is behind it. -/
def taken (word : String) (text : Text) : Option Text :=
  if points word <+: text then some (text.drop (points word).length) else none

/-- `json_skip_space`. -/
def jsonSkipSpace (text : Text) : Text := text.dropWhile isSpace

/-- `[^"\\]`. -/
def isPlain (point : Nat) : Bool := point != 0x22 && point != 0x5c

/-- `[0-9a-fA-F]`. -/
def isHexDigit (point : Nat) : Bool :=
  isDigit point || (0x61 ≤ point && point ≤ 0x66) || (0x41 ≤ point && point ≤ 0x46)

/-- The number of a hexadecimal digit. -/
def hexValue (point : Nat) : Nat :=
  if isDigit point then point - 0x30 else if 0x61 ≤ point then point - 0x57 else point - 0x37

/-- `hex`. -/
def hex (digits : Text) : Nat := digits.foldl (fun value point => value * 16 + hexValue point) 0

/-- `\\u([0-9a-fA-F]{4})`: the character of the number, and what is behind. -/
def unicodeEscape (text : Text) : Option (Nat × Text) :=
  match taken "\\u" text with
  | some (first :: second :: third :: last :: rest) =>
      let digits := [first, second, third, last]
      if digits.all isHexDigit then some (hex digits, rest) else none
  | _ => none

/-- `\\(.)`: any character but a newline, and what is behind. -/
def characterEscape (text : Text) : Option (Nat × Text) :=
  match taken "\\" text with
  | some (point :: rest) => if point = 0x0a then none else some (point, rest)
  | _ => none

/-- `%escapes`. -/
def jsonEscapes : List (Nat × Nat) :=
  [(0x22, 0x22), (0x5c, 0x5c), (0x2f, 0x2f), (0x62, 0x08), (0x66, 0x0c), (0x6e, 0x0a), (0x72, 0x0d),
    (0x74, 0x09)]

/-- `0|[1-9][0-9]*`. -/
def jsonInteger : Text → Option (Text × Text)
  | [] => none
  | first :: rest =>
      if first = 0x30 then some ([first], rest)
      else if isDigit first then some (first :: rest.takeWhile isDigit, rest.dropWhile isDigit)
      else none

/-- `(?:\.[0-9]+)?`. -/
def jsonFraction (text : Text) : Text × Text :=
  match taken "." text with
  | none => ([], text)
  | some rest =>
      let digits := rest.takeWhile isDigit
      if digits = [] then ([], text) else (0x2e :: digits, rest.dropWhile isDigit)

/-- `[-+]?`. -/
def jsonSign : Text → Text × Text
  | [] => ([], [])
  | first :: rest => if first = 0x2d ∨ first = 0x2b then ([first], rest) else ([], first :: rest)

/-- `(?:[eE][-+]?[0-9]+)?`. -/
def jsonExponent : Text → Text × Text
  | [] => ([], [])
  | letter :: rest =>
      if letter = 0x65 ∨ letter = 0x45 then
        let (sign, behind) := jsonSign rest
        let digits := behind.takeWhile isDigit
        -- without the sign there are no digits either
        if digits = [] then ([], letter :: rest)
        else (letter :: (sign ++ digits), behind.dropWhile isDigit)
      else ([], letter :: rest)

/-- The parts of a number behind its sign. -/
def jsonUnsigned (text : Text) : Option (Text × Text) :=
  match jsonInteger text with
  | none => none
  | some (integer, behindInteger) =>
      let (fraction, behindFraction) := jsonFraction behindInteger
      let (exponent, rest) := jsonExponent behindFraction
      some (integer ++ (fraction ++ exponent), rest)

/-- The match of a number: its text and what is behind. -/
def jsonNumber (text : Text) : Option (Text × Text) :=
  match taken "-" text with
  | none => jsonUnsigned text
  | some behind => (jsonUnsigned behind).map fun (number, rest) => (0x2d :: number, rest)

/-! ### The reader -/

/-- `json_string`, from the loop on. -/
def jsonString : Nat → Text → Text → Except JsonFailure (Text × Text)
  | 0, _, _ => .error .exhausted
  | fuel + 1, result, text =>
      let run := text.takeWhile isPlain
      if run ≠ [] then jsonString fuel (result ++ run) (text.dropWhile isPlain)
      else
        match taken "\"" text with
        | some rest => .ok (result, rest)
        | none =>
            match unicodeEscape text with
            | some (unit, rest) => jsonString fuel (result ++ [unit]) rest
            | none =>
                match characterEscape text with
                | none => .error (.message "unterminated JSON string")
                | some (point, rest) =>
                    match jsonEscapes.lookup point with
                    | none => .error (.message "invalid JSON string escape")
                    | some meant => jsonString fuel (result ++ [meant]) rest

/-- `json_string`. -/
def jsonStringOf (text : Text) : Except JsonFailure (Text × Text) := jsonString (text.length + 1) [] text

/-- The tests of `json_value` behind the loops. -/
def jsonScalar (text : Text) : Except JsonFailure (JsonValue × Text) :=
  match taken "\"" text with
  | some rest => (jsonStringOf rest).map fun (value, behind) => (.text value, behind)
  | none =>
      match jsonNumber text with
      | some (number, rest) => .ok (.text number, rest)
      | none =>
          match taken "true" text with
          | some rest => .ok (.text (points "1"), rest)
          | none =>
              match taken "false" text with
              | some rest => .ok (.text (points "0"), rest)
              | none =>
                  match taken "null" text with
                  | some rest => .ok (.null, rest)
                  | none => .error (.message "invalid JSON input")

/-- The end of a turn of a loop: the next turn behind a comma, or the whole behind what closes it. -/
def turnEnd (close failure : String) (whole : JsonValue)
    (next : Text → Except JsonFailure (JsonValue × Text)) (text : Text) :
    Except JsonFailure (JsonValue × Text) :=
  match taken "," (jsonSkipSpace text) with
  | some rest => next rest
  | none =>
      match taken close (jsonSkipSpace text) with
      | some rest => .ok (whole, rest)
      | none => .error (.message failure)

mutual

/-- `json_value`; the braces are written as their numbers. -/
def jsonValue : Nat → Text → Except JsonFailure (JsonValue × Text)
  | 0, _ => .error .exhausted
  | fuel + 1, whole =>
      let text := jsonSkipSpace whole
      match taken "\x7b" text with
      | some rest =>
          match taken "\x7d" (jsonSkipSpace rest) with
          | some behind => .ok (.object fun _ => none, behind)
          | none => jsonMembers fuel (fun _ => none) (jsonSkipSpace rest)
      | none =>
          match taken "[" text with
          | some rest =>
              match taken "]" (jsonSkipSpace rest) with
              | some behind => .ok (.array [], behind)
              | none => jsonElements fuel [] (jsonSkipSpace rest)
          | none => jsonScalar text

/-- The loop of `json_value` over the members of an object. -/
def jsonMembers :
    Nat → (Text → Option JsonValue) → Text → Except JsonFailure (JsonValue × Text)
  | 0, _, _ => .error .exhausted
  | fuel + 1, object, text =>
      match taken "\"" (jsonSkipSpace text) with
      | none => .error (.message "invalid JSON object key")
      | some name => do
          let (key, behindName) ← jsonStringOf name
          match taken ":" (jsonSkipSpace behindName) with
          | none => .error (.message "missing JSON name separator")
          | some element => do
              let (value, behind) ← jsonValue fuel element
              let object := assigned object key value
              turnEnd "\x7d" "invalid JSON object" (.object object) (jsonMembers fuel object) behind

/-- The loop of `json_value` over the elements of an array. -/
def jsonElements : Nat → List JsonValue → Text → Except JsonFailure (JsonValue × Text)
  | 0, _, _ => .error .exhausted
  | fuel + 1, array, text => do
      let (value, behind) ← jsonValue fuel text
      let array := array ++ [value]
      turnEnd "]" "invalid JSON array" (.array array) (jsonElements fuel array) behind

end

/-- Enough fuel for a text: a value and a turn of a loop for each character. -/
def enoughFuel (text : Text) : Nat := 2 * text.length + 1

/-- `json_decode`. -/
def jsonDecode (text : Text) : Except JsonFailure JsonValue := do
  let (value, rest) ← jsonValue (enoughFuel text) text
  if jsonSkipSpace rest ≠ [] then .error (.message "trailing JSON content") else .ok value

/-! ### The writer -/

/-- `s/.../.../g` of one character. -/
def substituted (point : Nat) (replacement : String) (text : Text) : Text :=
  text.flatMap fun each => if each = point then points replacement else [each]

/-- The substitutions of `json_quote`, in their order. -/
def jsonQuoteBody (value : Text) : Text :=
  let result := substituted 0x5c "\\\\" value
  let result := substituted 0x22 "\\\"" result
  let result := substituted 0x0a "\\n" result
  let result := substituted 0x0d "\\r" result
  substituted 0x09 "\\t" result

/-- `json_quote`. -/
def jsonQuote (value : Text) : Text := 0x22 :: (jsonQuoteBody value ++ [0x22])

end DawnShell.Codec.JsonReader
