import OtaCompile.Text.CharSet

/-!
# Blank characters

The characters of the Unicode property `White_Space`, and the words that they separate.
-/

namespace OtaCompile.Text

def blanks : CharSet := [
  (0x09, 0x0D), (0x20, 0x20), (0x85, 0x85), (0xA0, 0xA0), (0x1680, 0x1680), (0x2000, 0x200A),
  (0x2028, 0x2029), (0x202F, 0x202F), (0x205F, 0x205F), (0x3000, 0x3000)]

def isBlank (c : Char) : Bool := blanks.contains c

/-- The words of a text: `word` has been read of the one being read, last character first. -/
def wordsAfter (word : List Char) : List Char → List (List Char)
  | [] => if word.isEmpty then [] else [word.reverse]
  | c :: cs =>
    if isBlank c then
      if word.isEmpty then wordsAfter [] cs else word.reverse :: wordsAfter [] cs
    else wordsAfter (c :: word) cs

/-- The maximal runs of characters that are not blank. -/
def words (s : String) : List String := (wordsAfter [] s.toList).map String.ofList

end OtaCompile.Text
