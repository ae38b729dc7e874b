import OtaCompile.Fault

/-!
# Errors of the operating system

The errors that calls on files and programs end with, and how each is reported.
-/

namespace OtaCompile.Host

inductive OsError
  | noEntry
  | accessDenied
  | present
  | notADirectory
  | isADirectory
  | nameTooLong
  | notImplemented
  | notEmpty
deriving DecidableEq, Repr

namespace OsError

def number : OsError → Nat
  | noEntry => 2
  | accessDenied => 13
  | present => 17
  | notADirectory => 20
  | isADirectory => 21
  | nameTooLong => 36
  | notImplemented => 38
  | notEmpty => 39

def text : OsError → String
  | noEntry => "No such file or directory"
  | accessDenied => "Permission denied"
  | present => "File exists"
  | notADirectory => "Not a directory"
  | isADirectory => "Is a directory"
  | nameTooLong => "File name too long"
  | notImplemented => "Function not implemented"
  | notEmpty => "Directory not empty"

def kind : OsError → IoKind
  | noEntry => .notFound
  | accessDenied => .permissionDenied
  | present => .alreadyExists
  | notADirectory => .notADirectory
  | isADirectory => .isADirectory
  | nameTooLong => .invalidFilename
  | notImplemented => .unsupported
  | notEmpty => .directoryNotEmpty

def failure (e : OsError) : IoFailure := ⟨e.kind, e.text ++ " (os error " ++ e.number.repr ++ ")"⟩

end OsError

end OtaCompile.Host
