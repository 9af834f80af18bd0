/-
Module: DawnShell.Lib.ShellWords
Layer: Lib
Purpose: How a POSIX shell splits a command into words.  The reader goes over the text one character at a
  time; it knows single and double quotes, backslashes and the operators, and it gives up on everything
  that would be expanded, so that a text it splits is split the same way by every shell.  A text in
  single quotes is one word, whatever it contains.
Trusted boundary: POSIX shell token recognition and quote removal; no aliases
Main exports: Shell.Token, Shell.tokens, Shell.SimpleCommand, Shell.andList, Shell.commands,
  Shell.quote, Shell.run_append, Shell.run_quote, Shell.run_next_quote, Shell.run_next_quotes,
  Shell.andList_words
-/
import Mathlib.Data.List.Basic

namespace Shell

/-- A word after quote removal, with the note that nothing in it was quoted; or an operator. -/
inductive Token where
  | word (text : List Char) (plain : Bool)
  | operator (text : List Char)
deriving DecidableEq, Repr

/-- Where the reader is: between two tokens, or inside one with its text so far. -/
inductive Mode where
  | between
  | word (text : List Char) (plain : Bool)
  | backslash (text : List Char)
  | single (text : List Char)
  | double (text : List Char)
  | doubleBackslash (text : List Char)
  | operator (text : List Char)
deriving DecidableEq, Repr

def isBlank (character : Char) : Bool := character == ' ' || character == '\t'

/-- The operators of the grammar; a newline is one of them. -/
def operators : List (List Char) :=
  ["&&", "||", ";;", "<<", ">>", "<&", ">&", "<>", "<<-", ">|", "&", "|", ";", "<", ">", "(", ")",
    "\n"].map String.toList

/-- What is expanded, or starts a pattern, outside of quotes.  An equals sign may make the word an
assignment. -/
def isExpanded (character : Char) : Bool := "$`*?[=".toList.contains character

/-- What is expanded, or starts a comment, at the beginning of a word alone. -/
def isExpandedFirst (character : Char) : Bool := "~#".toList.contains character

/-- The first character of a token, or a blank. -/
def start (character : Char) : Option Mode :=
  if isBlank character then some .between
  else if character = '\'' then some (.single [])
  else if character = '"' then some (.double [])
  else if character = '\\' then some (.backslash [])
  else if operators.contains [character] then some (.operator [character])
  else if isExpanded character || isExpandedFirst character then none
  else some (.word [character] true)

/-- A number directly before a redirection is no word. -/
def isRedirectedNumber (text : List Char) (plain : Bool) (character : Char) : Bool :=
  plain && text.all Char.isDigit && (character == '<' || character == '>')

/-- One character: the tokens it ends, and where the reader is behind it. -/
def step : Mode → Char → Option (List Token × Mode)
  | .between, character => (start character).map ([], ·)
  | .word text plain, character =>
      if character = '\'' then some ([], .single text)
      else if character = '"' then some ([], .double text)
      else if character = '\\' then some ([], .backslash text)
      else if isBlank character then some ([.word text plain], .between)
      else if operators.contains [character] then
        if isRedirectedNumber text plain character then none
        else some ([.word text plain], .operator [character])
      else if isExpanded character then none
      else some ([], .word (text ++ [character]) plain)
  | .backslash text, character =>
      if character = '\n' then none else some ([], .word (text ++ [character]) false)
  | .single text, character =>
      if character = '\'' then some ([], .word text false) else some ([], .single (text ++ [character]))
  | .double text, character =>
      if character = '"' then some ([], .word text false)
      else if character = '\\' then some ([], .doubleBackslash text)
      else if character = '$' ∨ character = '`' then none
      else some ([], .double (text ++ [character]))
  | .doubleBackslash text, character =>
      if character = '\n' then some ([], .double text)
      else if "$`\"\\".toList.contains character then some ([], .double (text ++ [character]))
      else some ([], .double (text ++ ['\\', character]))
  | .operator text, character =>
      if operators.contains (text ++ [character]) then some ([], .operator (text ++ [character]))
      else (start character).map ([.operator text], ·)

/-- The end of the text; a quote that is still open makes it no command. -/
def Mode.close : Mode → Option (List Token)
  | .between => some []
  | .word text plain => some [.word text plain]
  | .operator text => some [.operator text]
  | .backslash _ | .single _ | .double _ | .doubleBackslash _ => none

/-- The reader over a piece of text. -/
def run : Mode → List Char → Option (List Token × Mode)
  | mode, [] => some ([], mode)
  | mode, character :: rest =>
      (step mode character).bind fun here =>
        (run here.2 rest).map fun there => (here.1 ++ there.1, there.2)

/-- The tokens of a text; `none` is a text the reader gives up on. -/
def tokens (text : List Char) : Option (List Token) := do
  let (emitted, last) ← run .between text
  let more ← last.close
  return emitted ++ more

/-! ### Commands -/

/-- A command without operators other than redirections: its words and the files its output goes to. -/
structure SimpleCommand where
  words : List (List Char) := []
  outputs : List (List Char) := []
deriving DecidableEq, Repr

/-- The words that mean something else at the beginning of a command. -/
def reservedWords : List (List Char) :=
  ["!", "\x7b", "\x7d", "case", "do", "done", "elif", "else", "esac", "fi", "for", "if", "in", "then",
    "until", "while"].map String.toList

/-- Commands joined by `&&`; `none` is anything else. -/
def andList : SimpleCommand → List Token → Option (List SimpleCommand)
  | command, [] => if command.words = [] then none else some [command]
  | command, .word text plain :: rest =>
      if command.words = [] ∧ plain = true ∧ reservedWords.contains text then none
      else andList { command with words := command.words ++ [text] } rest
  | command, .operator ['>'] :: .word text _ :: rest =>
      andList { command with outputs := command.outputs ++ [text] } rest
  | command, .operator ['&', '&'] :: rest =>
      if command.words = [] then none else (andList {} rest).map (command :: ·)
  | _, .operator _ :: _ => none

/-- The simple commands of a text. -/
def commands (text : List Char) : Option (List SimpleCommand) := tokens text >>= andList {}

/-! ### Rules -/

section Rules

variable {mode : Mode} {first second text value : List Char}

@[simp] theorem run_nil : run mode [] = some ([], mode) := rfl

/-- The shell takes one character after another, and the words come out in their order. -/
theorem run_cons {character : Char} {rest : List Char} :
    run mode (character :: rest) = (step mode character).bind fun here =>
      (run here.2 rest).map fun there => (here.1 ++ there.1, there.2) := rfl

/-- Reading a text is reading its pieces one after the other. -/
theorem run_append :
    run mode (first ++ second) = (run mode first).bind fun here =>
      (run here.2 second).map fun there => (here.1 ++ there.1, there.2) := by
  induction first generalizing mode with
  | nil => simp
  | cons character rest ih =>
      rw [List.cons_append, run_cons, run_cons]
      cases step mode character with
      | none => rfl
      | some here =>
          simp only [Option.bind_some, ih]
          cases run here.2 rest with
          | none => rfl
          | some there =>
              simp only [Option.map_some, Option.bind_some]
              cases run there.2 second with
              | none => rfl
              | some last => simp

/-- Two pieces of which the reader gives up on neither. -/
theorem run_append_of {middle last : Mode} {emitted more : List Token}
    (one : run mode first = some (emitted, middle)) (two : run middle second = some (more, last)) :
    run mode (first ++ second) = some (emitted ++ more, last) := by
  rw [run_append, one, Option.bind_some, two]
  rfl

/-- A character inside single quotes; a quote closes them and is put in double quotes. -/
def quoteCharacter (character : Char) : List Char :=
  if character = '\'' then "'\"'\"'".toList else [character]

/-- A text in single quotes. -/
def quote (text : List Char) : List Char := '\'' :: text.flatMap quoteCharacter ++ ['\'']

/-- Inside quotes, characters that are quoted one by one are added to the text. -/
theorem run_quoteCharacters :
    run (.single text) (value.flatMap quoteCharacter) = some ([], .single (text ++ value)) := by
  induction value generalizing text with
  | nil => simp
  | cons character rest ih =>
      rw [List.flatMap_cons, List.append_cons text]
      suffices here : run (.single text) (quoteCharacter character) =
          some ([], .single (text ++ [character])) from run_append_of here ih
      by_cases quoted : character = '\''
      · -- The quotes are closed, the quote stands in double quotes, and they are opened again.
        subst quoted
        rfl
      · rw [quoteCharacter, if_neg quoted, run_cons]
        simp [step, quoted]

/-- A quoted text between two tokens begins a word. -/
theorem run_quote : run .between (quote value) = some ([], .word value false) := by
  have inside : run (.single []) (value.flatMap quoteCharacter ++ ['\'']) =
      some ([], .word value false) :=
    run_append_of run_quoteCharacters rfl
  rw [quote, List.cons_append, run_cons, show step .between '\'' = some ([], .single []) by rfl]
  simp only [Option.bind_some, inside, Option.map_some, List.nil_append]

/-- A blank ends a word, and the quoted text behind it begins the next one. -/
theorem run_next_quote {plain : Bool} :
    run (.word text plain) (' ' :: quote value) =
      some ([.word text plain], .word value false) := by
  have ended : run (.word text plain) [' '] = some ([.word text plain], .between) := rfl
  exact run_append_of ended run_quote

/-- A word in front of quoted ones, up to the end of the text. -/
theorem run_next_quotes {plain : Bool} {values : List (List Char)} :
    ∃ emitted last more,
      run (.word text plain) (values.flatMap fun value => ' ' :: quote value) = some (emitted, last) ∧
        last.close = some more ∧
        emitted ++ more = .word text plain :: values.map (Token.word · false) := by
  induction values generalizing text plain with
  | nil => exact ⟨[], .word text plain, [.word text plain], rfl, rfl, rfl⟩
  | cons value values ih =>
      obtain ⟨emitted, last, more, read, closed, same⟩ := @ih value false
      refine ⟨[.word text plain] ++ emitted, last, more, run_append_of run_next_quote read, closed, ?_⟩
      rw [List.append_assoc, same]
      rfl

/-- The words behind the first one are its arguments. -/
theorem andList_words {command : SimpleCommand} {values : List (List Char)}
    (started : command.words ≠ []) :
    andList command (values.map (Token.word · false)) =
      some [{ command with words := command.words ++ values }] := by
  induction values generalizing command with
  | nil => simp [andList, started]
  | cons value values ih => simp [andList, started, ih]

end Rules

end Shell
