import OtaCompile.Device
import OtaCompile.Host

/-!
# Staged artifacts

An update stages artifacts in a tree of its own, below a staging root; a directory of artifacts is
found there under the names of its path.  A set of artifacts has up to three files that differ in
their extension, and the first of them decides whether the set is staged.
-/

namespace OtaCompile

/-- The extensions of a set of artifacts, the one that must be there first. -/
def artifactExtensions : List String := ["odex", "vdex", "art"]

/-- The name of an artifact compiled from a code path, if that ends in a name. -/
def artifactFileName (codePath : Path) (extension : String) : Option String :=
  codePath.fileStem.map fun stem => Path.nameWithExtension stem extension

/-- The names of all files of a set. -/
def artifactFileNames (codePath : Path) : Option (List String) :=
  artifactExtensions.mapM (artifactFileName codePath)

/-- Where a directory of artifacts is staged. -/
def stagedDir (root dir : Path) : Path := root.join (Path.ofNames dir.names)

namespace Host

/-- The fault of a file that could not be moved. -/
def moveFault (source target : Path) (f : IoFailure) : PlatformFault :=
  let operation := "rename " ++ source.text ++ " -> " ++ target.text
  if f.kind = .permissionDenied then .permission operation f.message
  else .fileSystem operation f.message

/-- Move the file of one name between directories, the second of which is made if it is missing. -/
def moveFile (sourceDir targetDir : Path) (name : String) : Job (Except PlatformFault Unit) := do
  let source := sourceDir.join ⟨name⟩
  let target := targetDir.join ⟨name⟩
  match ← Dialogue.question (Request.makeDirs targetDir) with
  | .error f => return .error (moveFault source target f)
  | .ok () =>
    match ← Dialogue.question (Request.rename source target) with
    | .error f => return .error (moveFault source target f)
    | .ok () => return .ok ()

/-- Move those of the named files that are there. -/
def moveCompanions (sourceDir targetDir : Path) : List String → Job (Except PlatformFault Unit)
  | [] => return .ok ()
  | name :: names => do
    if ← isFile (sourceDir.join ⟨name⟩) then
      match ← moveFile sourceDir targetDir name with
      | .error f => return .error f
      | .ok () => moveCompanions sourceDir targetDir names
    else moveCompanions sourceDir targetDir names

/-- Move a set of files, if the first of them is there. -/
def moveSet (sourceDir targetDir : Path) (first : String) (companions : List String) :
    Job (Except PlatformFault MoveOutcome) := do
  if ← isFile (sourceDir.join ⟨first⟩) then
    match ← moveFile sourceDir targetDir first with
    | .error f => return .error f
    | .ok () =>
      match ← moveCompanions sourceDir targetDir companions with
      | .error f => return .error f
      | .ok () => return .ok .moved
  else return .ok .notStaged

/-- Move the artifacts of a code path and an instruction set into place, if they are staged. -/
def moveArtifacts (staging codePath : Path) (isa : InstructionSet) (dir : Path) :
    Job (Except PlatformFault MoveOutcome) :=
  let sourceDir := (stagedDir staging dir).join ⟨Named.name isa⟩
  let targetDir := dir.join ⟨Named.name isa⟩
  match artifactFileNames codePath with
  | some (first :: companions) => moveSet sourceDir targetDir first companions
  | _ => return .ok .notStaged

end Host

end OtaCompile
