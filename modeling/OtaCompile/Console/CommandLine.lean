import OtaCompile.Settings.Layers

/-!
# The command line

Global options may stand on both sides of the operation, and those behind it count more.  An option
is given once on each side.  A value follows its option as the next argument or after an equals
sign.  The manifest may also come from the environment, which counts least.
-/

namespace OtaCompile.Console

/-! ### Arguments -/

inductive Token
  | word (text : String)
  /-- A long option and the value after its equals sign, or in the argument behind an option that
  needs one. -/
  | option (name : String) (value : Option String)
  | letters (first : Char)
  /-- The word that asks for help: everything behind it is a name, whatever it looks like. -/
  | help (names : List String)
  /-- Two dashes: everything behind them is a word, and names no operation. -/
  | dashes
deriving DecidableEq, Repr

/-- The options that need a value. -/
def valued : List String := ["color", "config", "manifest", "limit", "backend"]

/-- Whether an argument can be a value. -/
def isValue (argument : String) : Bool := argument == "-" || argument.toList.head? != some '-'

/-- The name and the value of a long option without its dashes. -/
def cutValue (option : List Char) : String × Option String :=
  let name := option.takeWhile (· != '=')
  match option.dropWhile (· != '=') with
  | [] => (String.ofList name, none)
  | _ :: value => (String.ofList name, some (String.ofList value))

def tokens : List String → List Token
  | [] => []
  | argument :: rest =>
    match argument.toList with
    | ['-', '-'] => .dashes :: rest.map .word
    | '-' :: '-' :: long =>
      match cutValue long, rest with
      | (name, none), value :: rest' =>
        if valued.contains name && isValue value then .option name (some value) :: tokens rest'
        else .option name none :: tokens (value :: rest')
      | (name, value), rest => .option name value :: tokens rest
    | '-' :: c :: _ => .letters c :: tokens rest
    | _ => if argument == "help" then [.help rest] else .word argument :: tokens rest

/-! ### Operations and options -/

inductive Verb
  | exporting
  | running
  | relocating
deriving DecidableEq, Repr

instance : Named Verb where
  all := [.exporting, .running, .relocating]
  name
    | .exporting => "export"
    | .running => "run"
    | .relocating => "relocate"
  find_name a := by cases a <;> rfl

/-- What was given on one side of the operation. -/
structure Given where
  json : Bool := false
  debug : Bool := false
  color : Option ColorChoice := none
  config : Option Path := none
  manifest : Option Path := none
  limit : Option UInt64 := none
  backend : Option Path := none
deriving DecidableEq, Repr

inductive Operation
  | exportCommands (limit : Option Nat)
  | run (backend : Option Path)
  | relocate
deriving DecidableEq, Repr

/-- A command line that asks for an operation. -/
structure Invoked where
  operation : Operation
  json : Bool
  debug : Bool
  color : Option ColorChoice
  config : Option Path
  manifest : Option Path
deriving DecidableEq, Repr

/-- The manifest may also be named in the environment. -/
def Invoked.under (env : Environment) (i : Invoked) : Invoked :=
  { i with manifest := i.manifest.or (env.path? "OTADEX_MANIFEST") }

inductive CommandLine
  | invoked (i : Invoked)
  | version
  | help
  /-- Not a command line of this program. -/
  | misuse
deriving DecidableEq, Repr

/-- Set an option that must not be set yet. -/
def once {α : Type} (old : Option α) (new : Option α) : Option (Option α) :=
  match old, new with
  | none, some a => some (some a)
  | _, _ => none

def pathValue (value : String) : Option Path := if value.isEmpty then none else some ⟨value⟩

namespace Given

def takeFlag (g : Given) : String → Option Given
  | "json" => if g.json then none else some { g with json := true }
  | "debug" => if g.debug then none else some { g with debug := true }
  | _ => none

/-- Take an option with a value; before the operation, `verb` is none. -/
def takeValue (verb : Option Verb) (g : Given) (name value : String) : Option Given :=
  match name, verb with
  | "color", _ => (once g.color (Named.ofName? value)).map fun color => { g with color }
  | "config", _ => (once g.config (pathValue value)).map fun config => { g with config }
  | "manifest", _ => (once g.manifest (pathValue value)).map fun manifest => { g with manifest }
  | "limit", some .exporting =>
    (once g.limit (Text.readWord value)).map fun limit => { g with limit }
  | "backend", some .running =>
    (once g.backend (pathValue value)).map fun backend => { g with backend }
  | _, _ => none

def take (verb : Option Verb) (g : Given) (name : String) : Option String → Option Given
  | none => g.takeFlag name
  | some value => g.takeValue verb name value

end Given

/-! ### Reading -/

/-- Whether the environment's manifest is looked at on some side and is not a path. -/
def environmentMisused (env : Environment) (before behind : Given) : Bool :=
  (env "OTADEX_MANIFEST").any (·.bytes.isEmpty) &&
    (before.manifest.isNone || behind.manifest.isNone)

/-- What both sides and the environment ask for. -/
def combine (env : Environment) (before behind : Given) (verb : Verb) : CommandLine :=
  if environmentMisused env before behind then .misuse
  else .invoked <| .under env {
    operation := match verb with
      | .exporting => .exportCommands (behind.limit.map UInt64.toNat)
      | .running => .run behind.backend
      | .relocating => .relocate
    json := before.json || behind.json
    debug := before.debug || behind.debug
    color := behind.color.or before.color
    config := behind.config.or before.config
    manifest := behind.manifest.or before.manifest }

/-- Read what stands behind the operation. -/
def readBehind (env : Environment) (before : Given) (verb : Verb) (g : Given) :
    List Token → CommandLine
  | [] | [.dashes] => combine env before g verb
  | .option "help" none :: _ | .letters 'h' :: _ => .help
  | .option name value :: rest =>
    match g.take (some verb) name value with
    | some g => readBehind env before verb g rest
    | none => .misuse
  | _ => .misuse

/-- Read what help is asked for: nothing in particular, an operation, or help itself. -/
def readHelp : List String → CommandLine
  | [] => .help
  | [name] =>
    if name == "help" || (Named.ofName? name : Option Verb).isSome then .help else .misuse
  | _ => .misuse

/-- Read what stands before the operation. -/
def readBefore (env : Environment) (g : Given) : List Token → CommandLine
  | .option "help" none :: _ | .letters 'h' :: _ => .help
  | .option "version" none :: _ | .letters 'V' :: _ => .version
  | .option name value :: rest =>
    match g.take none name value with
    | some g => readBefore env g rest
    | none => .misuse
  | .word text :: rest =>
    match (Named.ofName? text : Option Verb) with
    | some verb => readBehind env g verb {} rest
    | none => .misuse
  | .help names :: _ => readHelp names
  | _ => .misuse

def CommandLine.read (env : Environment) (arguments : List String) : CommandLine :=
  readBefore env {} (tokens arguments)

end OtaCompile.Console
