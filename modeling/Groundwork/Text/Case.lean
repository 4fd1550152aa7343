import Groundwork.Text.CaseTable

/-!
# Upper and lower case

Full case mappings of characters and texts.  A mapping may lengthen a text: `ß` is written `SS` in
upper case.  Mappings look at one character at a time.
-/

namespace Groundwork

/-- The uppercase form of a character. -/
def uppercaseChar (c : Char) : List Char :=
  if c.toNat < 0x80 then [c.toUpper]
  else CaseTable.image CaseTable.upperRuns CaseTable.upperSequences c

/-- The lowercase form of a character, wherever in a word it stands. -/
def lowercaseChar (c : Char) : List Char :=
  if c.toNat < 0x80 then [c.toLower]
  else CaseTable.image CaseTable.lowerRuns CaseTable.lowerSequences c

/-- A text in upper case. -/
def uppercase (s : String) : String :=
  String.ofList (s.toList.flatMap uppercaseChar)

/-- A text whose first character is in upper case and whose rest is kept. -/
def capitalize (s : String) : String :=
  match s.toList with
  | [] => ""
  | c :: rest => String.ofList (uppercaseChar c ++ rest)

theorem lowercaseChar_of_ascii {c : Char} (h : c.toNat < 0x80) :
    lowercaseChar c = [c.toLower] := by
  simp [lowercaseChar, h]

theorem uppercaseChar_of_ascii {c : Char} (h : c.toNat < 0x80) :
    uppercaseChar c = [c.toUpper] := by
  simp [uppercaseChar, h]

end Groundwork
