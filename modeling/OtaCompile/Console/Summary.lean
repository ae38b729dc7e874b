import OtaCompile.Console.Style
import OtaCompile.Console.Table
import OtaCompile.Event.Json
import OtaCompile.Invocation
import OtaCompile.Report
import OtaCompile.Settings

/-!
# Summaries

What a run of the program ends with, and how it is written in each output format.  Lines for scripts
are plain; lines for people are tables, which leave the standard output to the commands alone.
-/

namespace OtaCompile.Console

inductive Summary
  | exported (commands : List Command) (report : RunReport)
  | compiled (report : RunReport)
  | relocated (report : RelocationReport)
deriving DecidableEq, Repr

/-- Lines for the standard output and for the standard error output. -/
structure Lines where
  output : List String := []
  errors : List String := []
deriving DecidableEq, Repr

namespace Summary

/-- Add the kind of a summary to its fields. -/
def withKind (kind : String) : Json → Json
  | .obj fields => .obj (("kind", .str kind) :: fields)
  | j => j

def toJson : Summary → Json
  | exported commands report =>
    .obj [("kind", .str "export"), ("commands", .arr (commands.map fun c => .str c.text)),
      ("report", encode report)]
  | compiled report => withKind "run" (encode report)
  | relocated report => withKind "relocation" (encode report)

def plain : Summary → List String
  | exported commands _ => commands.map Command.text
  | compiled r =>
    [s!"mode={Named.name r.mode} packages={r.totalPackages} duration_ms={r.durationMs}"]
  | relocated r =>
    [s!"scanned={r.scanned} skipped={r.skipped} attempted={r.attempted} moved={r.moved} " ++
      s!"not_staged={r.notStaged} failed={r.failed}"]

def runTable (r : RunReport) : List String :=
  table ["Mode", "Packages", "Commands", "Duration"]
    [[Named.name r.mode, r.totalPackages.repr, r.commands.repr, r.durationMs.repr ++ " ms"]]

def relocationTable (r : RelocationReport) : List String :=
  table ["Scanned", "Skipped", "Attempted", "Moved", "Not staged", "Failed"]
    [[r.scanned, r.skipped, r.attempted, r.moved, r.notStaged, r.failed].map Nat.repr]

def tables (palette : Palette) : Summary → Lines
  | exported commands report => { output := commands.map Command.text, errors := runTable report }
  | compiled report => { output := runTable report }
  | relocated report =>
    let advice := "Some artifacts could not be moved; they will be recompiled on first use."
    let below := if report.failed > 0 then [palette.advice.apply advice] else []
    { output := relocationTable report ++ below }

def render (format : OutputFormat) (palette : Palette) (s : Summary) : Lines :=
  match format with
  | .json => { output := [s.toJson.pretty] }
  | .plain => { output := s.plain }
  | .tty => s.tables palette

end Summary

end OtaCompile.Console
