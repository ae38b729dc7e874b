import OtaCompile.Console.CommandLine
import OtaCompile.Console.Message
import OtaCompile.Console.Summary
import OtaCompile.Coordinator.Assembly
import OtaCompile.Coordinator.Run
import OtaCompile.Host.Device
import OtaCompile.Host.Documents

/-!
# The program

From a command line to an exit code: read the settings and the manifest, assemble a coordinator on
the host, work through one session and write the summary.  Events are logged as they come, and told
where people read the output.
-/

namespace OtaCompile.Console

open Host (Job DeviceParts SpaceLimit)

def versionLine : String := "otadex 0.1.0"

/-- What the program has from others: a reader of documents, and a text that tells its usage. -/
structure Library where
  read : DocumentReader
  usage : List String

/-! ### Settings -/

/-- What the command line sets counts more than everything else. -/
def applyInvoked (i : Invoked) (s : Settings) : Settings :=
  let s := { s with color := i.color.getD s.color, manifest := i.manifest.or s.manifest }
  match i.operation with
  | .run (some backend) => { s with backendProgram := some backend }
  | _ => s

/-- The environment and the command line on top of other settings. -/
def layer (env : Environment) (i : Invoked) (s : Settings) : Except Fault Settings :=
  match s.mergeEnvironment env with
  | (.error f, _) => .error f
  | (.ok (), s) => .ok (applyInvoked i s)

/-- The settings of all layers. -/
def layeredSettings (read : DocumentReader) (env : Environment) (i : Invoked) :
    Job (Except Fault Settings) := do
  match ← Host.loadSettingsOr read env i.config with
  | .error f => return .error f
  | .ok s => return layer env i s

def outputFormat (i : Invoked) (s : Settings) : OutputFormat := if i.json then .json else s.output

/-! ### Assembling -/

def spaceLimit (s : Settings) : SpaceLimit where
  percent := s.lowSpacePercent
  maxBytes := s.lowSpaceMaxBytes
  fixedBytes := s.lowSpaceBytes

/-- What the parts of a device on the host are; events are heard by whoever does a job for each. -/
abbrev hostParts : Parts where
  Storage := SpaceLimit
  Mover := Path
  Backend := Path
  Lock := Unit
  Sender := Event → Job Unit

/-- A coordinator on the host, and whoever hears its events. -/
structure Assembled where
  coordinator : Coordinator
  parts : DeviceParts
  onEvent : Event → Job Unit

/-- A coordinator for the settings, on the host. -/
def assembleOnHost (s : Settings) (registry : Registry) (onEvent : Event → Job Unit) :
    Except Fault Assembled := do
  let done ← Assembly.assembleGiven (P := hostParts) [
    .settings s,
    .device (spaceLimit s) s.stagingDirOrDefault s.backendProgramOrDefault,
    .registry registry,
    .sender onEvent]
  return {
    coordinator := done.coordinator
    parts := ⟨done.storage, done.mover, done.backend, done.policy⟩
    onEvent := done.sender.getD fun _ => return }

/-- Read the manifest and put everything together. -/
def assembleFor (read : DocumentReader) (s : Settings) (onEvent : Event → Job Unit) :
    Job (Except Fault Assembled) :=
  match s.manifestPath with
  | .error f => return .error f
  | .ok path => do
    match ← Host.loadManifest read path with
    | .error f => return .error f
    | .ok registry => return assembleOnHost s registry onEvent

/-! ### Working -/

/-- How much is told, and how it looks. -/
structure Manner where
  format : OutputFormat
  palette : Palette
  /-- Whether compiled packages are told of. -/
  debug : Bool
  /-- Whether a log is kept. -/
  logs : Bool
deriving DecidableEq, Repr

def mannerOf (env : Environment) (i : Invoked) (s : Settings) : Manner where
  format := outputFormat i s
  palette := .choose env s.color
  debug := i.debug
  logs := !i.json

/-- Log an event, and tell it where people read the output. -/
def tell (m : Manner) (e : Event) : Job Unit := do
  match m.logs, eventRecord? e with
  | true, some record => Host.log record
  | _, _ => pure ()
  match m.format, eventLine? m.palette m.debug e with
  | .tty, some line => Host.warn line
  | _, _ => return

/-- One session of the operation. -/
def operate (parts : DeviceParts) (onEvent : Event → Job Unit) (c : Coordinator)
    (operation : Operation) : Job (Except Fault Summary) := do
  let started ← Dialogue.question Host.Request.clock
  match operation with
  | .exportCommands limit =>
    let (result, _) ← Host.perform parts onEvent (c.exportCommands limit .new)
    let ended ← Dialogue.question Host.Request.clock
    return result.map fun (commands, totalPackages) => .exported commands {
      mode := .export, totalPackages, commands := commands.length, durationMs := ended - started }
  | .run _ =>
    let (result, _) ← Host.perform parts onEvent (c.compileAll .new)
    let ended ← Dialogue.question Host.Request.clock
    return result.map fun totalPackages => .compiled {
      mode := .direct, totalPackages, commands := 0, durationMs := ended - started }
  | .relocate => return .ok (.relocated c.relocation)

/-- Write the lines of a summary. -/
def write (lines : Lines) : Job Unit := do
  Host.printLines lines.output
  for line in lines.errors do
    Host.warn line

/-- Do what was asked for; the lines of a summary are written at the end. -/
def perform (read : DocumentReader) (env : Environment) (i : Invoked) :
    Job (Except Fault Unit) := do
  match ← layeredSettings read env i with
  | .error f => return .error f
  | .ok s =>
    let m := mannerOf env i s
    match ← assembleFor read s (tell m) with
    | .error f => return .error f
    | .ok ⟨c, parts, onEvent⟩ =>
      let c ← Host.perform parts onEvent c.start
      match ← operate parts onEvent c i.operation with
      | .error f => return .error f
      | .ok summary =>
        write (summary.render m.format m.palette)
        return .ok ()

/-- The whole program; the result is its exit code. -/
def program (lib : Library) (env : Environment) (arguments : List String) : Job UInt32 :=
  match CommandLine.read env arguments with
  | .misuse => return 2
  | .version => do
    Host.print versionLine
    return 0
  | .help => do
    Host.printLines lib.usage
    return 0
  | .invoked i => do
    match ← perform lib.read env i with
    | .ok () => return 0
    | .error f =>
      if !i.json then
        Host.log (failureRecord f)
        for line in failureLines f do
          Host.warn line
      return 1

end OtaCompile.Console
