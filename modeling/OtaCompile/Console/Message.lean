import OtaCompile.Console.Style
import OtaCompile.Event
import OtaCompile.Text.Quoted

/-!
# Messages to the user

The lines by which a user is told of events and failures.
-/

namespace OtaCompile.Console

/-- How an instruction set is called in diagnostics. -/
def isaLabel : InstructionSet → String
  | .arm => "Arm"
  | .arm64 => "Arm64"
  | .x86 => "X86"
  | .x86_64 => "X86_64"
  | .mips => "Mips"
  | .mips64 => "Mips64"

/-- What is wrong, for the events that are warnings or errors. -/
def describe? : Event → Option String
  | .package (.skipped package (.lowSpace usable threshold)) =>
    some s!"skipped {package}: {usable} bytes free, {threshold} required"
  | .package (.skipped package (.policyFailed message)) => some s!"skipped {package}: {message}"
  | .package (.failed package failure) => some s!"{package} failed: {failure.message}"
  | .session (.invariantViolated package) =>
    some s!"command queue for {package} was empty; session reset"
  | .relocation (.packageSkipped package reason) => some s!"not relocating {package}: {reason}"
  | .relocation (.artifactMoveFailed package codePath isa message) =>
    some ("Relocation(ArtifactMoveFailed \x7b package: " ++ Text.quoted package ++
      ", code_path: " ++ Text.quoted codePath.text ++
      ", instruction_set: " ++ isaLabel isa ++
      ", message: " ++ Text.quoted message ++ " \x7d)")
  | _ => none

/-- The line for an event, if a user is told of it; compiled packages are told of on request. -/
def eventLine? (palette : Palette) (debug : Bool) (e : Event) : Option String :=
  match e with
  | .session (.prepared total) => some (palette.status.apply s!"Prepared {total} packages")
  | .package (.compiled package) =>
    if debug then some (palette.status.apply s!"Compiled {package}") else none
  | e => (describe? e).map fun text => palette.warning.apply "warning:" ++ " " ++ text

/-- The record of an event in the log, if it is loud enough. -/
def eventRecord? (e : Event) : Option String :=
  (describe? e).map fun text => (Named.name e.level).toUpper ++ " " ++ text

/-- The lines for a failure that ends the program. -/
def failureLines (f : Fault) : List String :=
  let advice := f.advice
  ["Error: " ++ advice.message] ++
    (advice.code.map fun code => "  Code: " ++ code).toList ++
    (advice.hint.map fun hint => "  Hint: " ++ hint).toList ++
    (if advice.retryable then ["  Retry: safe to retry this operation."] else [])

/-- The record in the log of a failure that ends the program. -/
def failureRecord (f : Fault) : String := "ERROR Application error: " ++ f.advice.message

end OtaCompile.Console
