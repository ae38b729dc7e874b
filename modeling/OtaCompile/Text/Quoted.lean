import OtaCompile.Text.Mark
import OtaCompile.Text.Unseen

/-!
# Quoted text

Text between double quotes as it is shown in diagnostics: what cannot be seen on its own is written
as an escape, everything else as it is.
-/

namespace OtaCompile.Text

/-- A character by its number, in lower-case hexadecimal digits. -/
def numbered (c : Char) : List Char :=
  ['\\', 'u', '\x7b'] ++ Nat.toDigits 16 c.toNat ++ ['\x7d']

/-- A character as it stands between quotes. -/
def quotedChar (c : Char) : List Char :=
  match c with
  | '\x00' => ['\\', '0']
  | '\t' => ['\\', 't']
  | '\r' => ['\\', 'r']
  | '\n' => ['\\', 'n']
  | '\\' => ['\\', '\\']
  | '"' => ['\\', '"']
  | c => if unseen.contains c || marks.contains c then numbered c else [c]

def quoted (s : String) : String := String.ofList ('"' :: s.toList.flatMap quotedChar ++ ['"'])

end OtaCompile.Text
