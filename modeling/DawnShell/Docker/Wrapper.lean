/-
Module: DawnShell.Docker.Wrapper
Layer: Docker
Purpose: The command `docker` that the policy puts in front of the Docker client.  It adds options to
  `run` and `create`, adds a generated file to a Compose project, and passes on every other command.
Trusted boundary: faithful model of configure-docker-network.sh:242-403.  Arguments are texts of the
  shell; the settings file assigns its two variables and nothing else.  The outputs of the queries of the
  Docker client, the files of the working directory and the name from `mktemp` are inputs.  Names of
  services do not begin with a dash, and the override file is written completely.
Main exports: Word, WrapperEnvironment, WrapperOutcome, readSettings, commandIndex, scanArguments,
  injected, rewritten, composeScan, composeCandidates, composeCommand, dockerWrapper
-/
import Mathlib.Data.List.Basic

namespace DawnShell.Docker

/-- A word of a command line. -/
abbrev Word := List Char

/-! ### Settings -/

/-- What `docker-wrapper.conf` assigns. -/
structure WrapperConf where
  hostIpc : Option Word := none
  hostNetwork : Option Word := none
deriving DecidableEq, Repr

/-- `dawnshell_host_ipc` and `dawnshell_host_network`. -/
structure WrapperSettings where
  hostIpc : Word
  hostNetwork : Word
deriving DecidableEq, Repr

def trueWord : Word := "true".toList

/-- The settings; there is no file where it cannot be read. -/
def readSettings (conf : Option WrapperConf) : WrapperSettings where
  hostIpc := (conf.bind (·.hostIpc)).getD trueWord
  hostNetwork := (conf.bind (·.hostNetwork)).getD trueWord

/-- What the wrapper finds. -/
structure WrapperEnvironment where
  /-- `[ -x /usr/bin/docker ]`. -/
  dockerExecutable : Bool
  /-- The settings file, if it can be read. -/
  conf : Option WrapperConf
  /-- What the client writes when it is asked for the first, the second and the third time. -/
  query : Nat → List Word → List Char
  /-- `[ -f ... ]` in the working directory. -/
  isFile : Word → Bool
  /-- The name of a new temporary file; none when it cannot be made. -/
  mktemp : Option Word

/-- How the wrapper ends: with the client in its place, for which it may have written an override file,
or with a status and a message. -/
inductive WrapperOutcome where
  | exec (command : List Word) (override : Option (List Char))
  | exit (status : Nat) (message : List Char)
deriving DecidableEq, Repr

/-! ### Options of `run` and `create` -/

def runWords : List Word := ["run", "create"].map String.toList

/-- `command_index`. -/
def commandIndex : List Word → Option Nat
  | [] => none
  | first :: rest =>
      if first ∈ runWords then some 0
      else if first = "container".toList ∧ ∃ second ∈ rest.head?, second ∈ runWords then some 1
      else none

/-- What has been seen of the arguments. -/
structure ArgumentScan where
  explicitIpc : Bool := false
  explicitInetGroup : Bool := false
  explicitNetwork : Bool := false
  previous : Word := []
deriving DecidableEq, Repr

/-- `--ipc|--ipc=*`. -/
def readsIpc (argument : Word) : Bool :=
  argument == "--ipc".toList || "--ipc=".toList.isPrefixOf argument

/-- `--network|--network=*|--net|--net=*`. -/
def readsNetwork (argument : Word) : Bool :=
  argument == "--network".toList || "--network=".toList.isPrefixOf argument ||
    argument == "--net".toList || "--net=".toList.isPrefixOf argument

/-- The option that adds a group, and the group of Android's network. -/
def groupAdd : Word := "--group-add".toList

def inetGroup : Word := "3003".toList

/-- `--group-add=3003`. -/
def groupAddInet : Word := "--group-add=3003".toList

/-- One iteration over the arguments. -/
def scanArgument (scan : ArgumentScan) (argument : Word) : ArgumentScan where
  explicitIpc := scan.explicitIpc || readsIpc argument
  explicitInetGroup := scan.explicitInetGroup || argument == groupAddInet ||
    (scan.previous == groupAdd && argument == inetGroup)
  explicitNetwork := scan.explicitNetwork || readsNetwork argument
  previous := argument

def scanArguments (arguments : List Word) : ArgumentScan := arguments.foldl scanArgument {}

/-- The options that are added. -/
def injected (settings : WrapperSettings) (scan : ArgumentScan) : List Word :=
  (if settings.hostIpc = trueWord ∧ scan.explicitIpc = false then ["--ipc=host".toList] else []) ++
  (if scan.explicitInetGroup = true then [] else [groupAdd, inetGroup]) ++
  (if settings.hostNetwork = trueWord ∧ scan.explicitNetwork = false
    then ["--network".toList, "host".toList] else [])

/-- The arguments with options behind the command. -/
def rewritten (settings : WrapperSettings) (arguments : List Word) (index : Nat) : List Word :=
  let block := injected settings (scanArguments arguments)
  if 0 < block.length then arguments.take (index + 1) ++ block ++ arguments.drop (index + 1)
  else arguments

/-! ### Compose -/

/-- The subcommands that start containers. -/
def startingActions : List Word := ["up", "run", "create", "start", "restart"].map String.toList

/-- The subcommands that end the search. -/
def otherActions : List Word :=
  ["config", "ps", "logs", "down", "stop", "kill", "rm", "build", "pull", "push", "images", "top",
    "events", "version", "port", "exec", "cp", "wait", "watch", "attach", "alpha"].map String.toList

/-- The options whose value is the next word. -/
def valueOptions : List Word :=
  ["-f", "--file", "-p", "--project-name", "--project-directory", "--profile", "--env-file",
    "--parallel", "--progress", "--ansi"].map String.toList

instance (word : Word) : Decidable (word ∈ valueOptions) :=
  List.instDecidableMemOfLawfulBEq word valueOptions

/-- `compose_options`, and the arguments from `compose_action_index` on when an override is wanted. -/
structure ComposeScan where
  options : List Word := []
  action : Option (List Word) := none
deriving DecidableEq, Repr

/-- Words in front of what has been found. -/
def ComposeScan.behind (scan : ComposeScan) (words : List Word) : ComposeScan :=
  { scan with options := words ++ scan.options }

/-- The loop over the arguments behind `compose`; a value that is missing is empty. -/
def composeScan : List Word → ComposeScan
  | [] => {}
  | [word] =>
      if word ∈ startingActions then { action := some [word] }
      else if word ∈ otherActions then {}
      else if word ∈ valueOptions then { options := [word, []] }
      else { options := [word] }
  | word :: next :: rest =>
      if word ∈ startingActions then { action := some (word :: next :: rest) }
      else if word ∈ otherActions then {}
      else if word ∈ valueOptions then (composeScan rest).behind [word, next]
      else (composeScan (next :: rest)).behind [word]

/-- The files that the wrapper looks for. -/
def composeCandidates : List Word :=
  ["compose.yaml", "compose.yml", "docker-compose.yaml", "docker-compose.yml", "compose.override.yaml",
    "compose.override.yml", "docker-compose.override.yaml", "docker-compose.override.yml"].map
    String.toList

def fileOption : Word := "-f".toList

def longFileOption : Word := "--file".toList

/-- Whether `base_files` becomes `explicit`. -/
def explicitFiles (options : List Word) : Bool :=
  options.any fun option => option == fileOption || option == longFileOption

/-- The options with the files that are there, unless files are named. -/
def replayed (isFile : Word → Bool) (options : List Word) : List Word :=
  if explicitFiles options then options
  else options ++ (composeCandidates.filter isFile).flatMap fun candidate => [fileOption, candidate]

/-- `$(...)`: the newlines at the end are dropped. -/
def substituted (output : List Char) : List Char := (output.reverse.dropWhile (· == '\n')).reverse

/-- `[A-Za-z0-9._-]`. -/
def isServiceCharacter (character : Char) : Bool :=
  character.isAlphanum || character == '.' || character == '_' || character == '-'

/-- The service of a line that is `/^  [A-Za-z0-9._-]+:$/`, without blanks and colons. -/
def serviceLine (line : List Char) : Option (List Char) :=
  let name := (line.drop 2).dropLast
  if line = ' ' :: ' ' :: name ++ [':'] ∧ name ≠ [] ∧ name.all isServiceCharacter then some name else none

/-- The services that `awk` prints: those with a line that begins with one of the keys. -/
def declaredServices (keys : List (List Char)) : List Char → List (List Char) → List (List Char)
  | _, [] => []
  | service, line :: lines =>
      match serviceLine line with
      | some name => declaredServices keys name lines
      | none =>
          if keys.any (·.isPrefixOf line) then service :: declaredServices keys service lines
          else declaredServices keys service lines

/-- What the override says of one service. -/
def serviceOverride (settings : WrapperSettings) (declaredIpc declaredNetwork : List (List Char))
    (service : List Char) : List Char :=
  "  ".toList ++ service ++ ":\n".toList ++
  (if settings.hostIpc = trueWord ∧ service ∉ declaredIpc then "    ipc: host\n".toList else []) ++
  (if settings.hostNetwork = trueWord ∧ service ∉ declaredNetwork
    then "    network_mode: host\n".toList else []) ++
  "    group_add:\n      - \"3003\"\n".toList

/-- The text of the override file. -/
def overrideText (settings : WrapperSettings) (services ipcConfig networkConfig : List Char) :
    List Char :=
  let declaredIpc := declaredServices ["    ipc:".toList] [] (ipcConfig.splitOn '\n')
  let declaredNetwork := declaredServices ["    network_mode:".toList, "    networks:".toList] []
    (networkConfig.splitOn '\n')
  "services:\n".toList ++ ((services.splitOn '\n').filter (· ≠ [])).flatMap
    (serviceOverride settings declaredIpc declaredNetwork)

def composeWord : Word := "compose".toList

/-- The branch of `compose`; `behind` is what stands behind that word. -/
def composeCommand (environment : WrapperEnvironment) (settings : WrapperSettings)
    (behind : List Word) : WrapperOutcome :=
  let unchanged := WrapperOutcome.exec (composeWord :: behind) none
  let scan := composeScan behind
  match scan.action with
  | none => unchanged
  | some action =>
      let services := substituted (environment.query 1
        (composeWord :: scan.options ++ ["config", "--services"].map String.toList))
      let options := replayed environment.isFile scan.options
      if services = [] then unchanged
      else
        let config := composeWord :: options ++ ["config".toList]
        let text := overrideText settings services (environment.query 2 config)
          (environment.query 3 config)
        match environment.mktemp with
        | none => .exit 1 []
        | some override =>
            .exec (composeWord :: options ++ [fileOption, override] ++ action) (some text)

/-! ### The command -/

def missingMessage : List Char :=
  "DawnShell: /usr/bin/docker is missing; install the Docker CLI\n".toList

/-- The wrapper. -/
def dockerWrapper (environment : WrapperEnvironment) (arguments : List Word) : WrapperOutcome :=
  let settings := readSettings environment.conf
  if environment.dockerExecutable = false then .exit 127 missingMessage
  else
    match commandIndex arguments with
    | some index => .exec (rewritten settings arguments index) none
    | none =>
        match arguments with
        | [] => .exec [] none
        | first :: behind =>
            if first = composeWord then composeCommand environment settings behind
            else .exec arguments none

end DawnShell.Docker
