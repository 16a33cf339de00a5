/-!
# Command lines

What the words of a command line ask for. There are three commands: `load`, `order` and `inspect`, each
for one or more directories. An option is written `--name value` or `--name=value`; `--config` may
also stand before the command. Words after `--` are directories whatever they look like.
-/

namespace HotReload.CommandLine

/-- A command for some directories. -/
inductive Command where
  /-- Loads the directories, reports, and calls a symbol if one is given. -/
  | load (directories : List String) (invoke : Option String) (args : List String)
  /-- Shows in which order the directories would be built. -/
  | order (directories : List String)
  /-- Loads the directories and shows what a module sees. -/
  | inspect (directories : List String) (module : String)
  deriving DecidableEq, Repr

def Command.directories : Command → List String
  | .load directories .. | .order directories | .inspect directories _ => directories

/-- A command with the configuration file to use. -/
structure Invocation where
  config : Option String
  command : Command
  deriving DecidableEq, Repr

inductive Request where
  | run (invocation : Invocation)
  | version
  | help
  | misuse
  deriving DecidableEq, Repr

/-- The word after the program's name. -/
inductive Mode where
  | load
  | order
  | inspect
  | help
  deriving DecidableEq, Repr

def Mode.ofWord? (word : String) : Option Mode :=
  [("load", load), ("order", order), ("inspect", inspect), ("help", help)].lookup word

inductive ValueOption where
  | config
  | invoke
  | arg
  | module
  deriving DecidableEq, Repr

/-- The option with a name, if the mode has it. -/
def ValueOption.ofName? (mode : Option Mode) (name : String) : Option ValueOption :=
  match mode, name with
  | some .help, _ => none
  | _, "config" => some .config
  | some .load, "invoke" => some .invoke
  | some .load, "arg" => some .arg
  | some .inspect, "module" => some .module
  | _, _ => none

/-- The words read so far. Lists hold the latest word first. -/
structure Reading where
  mode : Option Mode
  /-- An option whose value comes next. -/
  pending : Option ValueOption
  /-- Whether all further words are directories. -/
  plain : Bool
  /-- The configuration file given before the command. -/
  outerConfig : Option String
  config : Option String
  invoke : Option String
  module : Option String
  args : List String
  directories : List String

/-- Why reading ends before the last word. -/
inductive Stop where
  | version
  | help
  | misuse
  deriving DecidableEq, Repr

namespace Reading

/-- Before the first word. -/
def start : Reading where
  mode := none
  pending := none
  plain := false
  outerConfig := none
  config := none
  invoke := none
  module := none
  args := []
  directories := []

/-- Stores the value of an option that may be given once. -/
def once (old : Option String) (value : String) : Except Stop (Option String) :=
  if old.isSome then .error .misuse else .ok (some value)

/-- Stores the value of an option. A path is not empty. -/
def store (r : Reading) (o : ValueOption) (value : String) : Except Stop Reading := do
  let r := { r with pending := none }
  match o with
  | .config =>
    if value.isEmpty then throw .misuse
    if r.mode.isNone then return { r with outerConfig := ← once r.outerConfig value }
    else return { r with config := ← once r.config value }
  | .invoke => return { r with invoke := ← once r.invoke value }
  | .module => return { r with module := ← once r.module value }
  | .arg => return { r with args := value :: r.args }

/-- Takes a word that is no option: the command, or one of its directories. -/
def takePlain (r : Reading) (word : String) : Except Stop Reading :=
  match r.mode with
  | none =>
    if r.plain then .error .misuse
    else
      match Mode.ofWord? word with
      | some mode => .ok { r with mode := some mode, plain := mode = .help }
      | none => .error .misuse
  | some .help => .ok { r with directories := word :: r.directories }
  | some _ =>
    if word.isEmpty then .error .misuse else .ok { r with directories := word :: r.directories }

/-- Takes an option that has no value: only help and, before the command, the version. -/
def takeSwitch (r : Reading) (isVersion isHelp : Bool) : Except Stop Reading :=
  if isVersion && r.mode.isNone then .error .version
  else if isHelp then .error .help
  else .error .misuse

/-- Takes an option written with its name, given without the dashes. -/
def takeLong (r : Reading) (text : List Char) : Except Stop Reading :=
  let name := String.ofList (text.takeWhile (· != '='))
  match ValueOption.ofName? r.mode name, text.dropWhile (· != '=') with
  | some o, [] => .ok { r with pending := some o }
  | some o, _ :: value => r.store o (.ofList value)
  | none, [] => r.takeSwitch (name == "version") (name == "help")
  | none, _ => .error .misuse

def take (r : Reading) (word : String) : Except Stop Reading :=
  if r.plain then r.takePlain word
  else
    match word.toList with
    | ['-', '-'] => if r.pending.isSome then .error .misuse else .ok { r with plain := true }
    | '-' :: '-' :: text => if r.pending.isSome then .error .misuse else r.takeLong text
    | '-' :: c :: _ =>
      if r.pending.isSome then .error .misuse else r.takeSwitch (c == 'V') (c == 'h')
    | _ =>
      match r.pending with
      | some o => r.store o word
      | none => r.takePlain word

/-- What the words ask for once all are read. -/
def finish (r : Reading) : Request :=
  if r.pending.isSome then .misuse
  else
    let directories := r.directories.reverse
    let run (command : Command) : Request :=
      if directories.isEmpty then .misuse else .run { config := r.config <|> r.outerConfig, command }
    match r.mode, r.module with
    | none, _ => .misuse
    | some .load, _ => run (.load directories r.invoke r.args.reverse)
    | some .order, _ => run (.order directories)
    | some .inspect, some module => run (.inspect directories module)
    | some .inspect, none => .misuse
    | some .help, _ =>
      match directories with
      | [] => .help
      | [word] => if (Mode.ofWord? word).isSome then .help else .misuse
      | _ => .misuse

end Reading

def Request.ofWords (words : List String) : Request :=
  match words.foldlM Reading.take .start with
  | .ok r => r.finish
  | .error .version => .version
  | .error .help => .help
  | .error .misuse => .misuse

end HotReload.CommandLine
