/-!
# Blank characters

The characters that count as white space in project descriptions, and the two ways to strip them
from a text.  The set is the `White_Space` property, which is wider than `Char.isWhitespace`.
-/

namespace Groundwork

/-- The characters with the `White_Space` property. -/
def isBlank (c : Char) : Bool :=
  let n := c.toNat
  (0x9 ≤ n && n ≤ 0xD) || n == 0x20 || n == 0x85 || n == 0xA0 || n == 0x1680
    || (0x2000 ≤ n && n ≤ 0x200A) || n == 0x2028 || n == 0x2029 || n == 0x202F
    || n == 0x205F || n == 0x3000

/-- The last characters for which `p` holds are left out. -/
def dropLastWhile (p : Char → Bool) (cs : List Char) : List Char :=
  (cs.reverse.dropWhile p).reverse

/-- The text without the blanks at its end. -/
def trimEnd (s : String) : String :=
  String.ofList (dropLastWhile isBlank s.toList)

/-- The text without the blanks at either end. -/
def trim (s : String) : String :=
  String.ofList (dropLastWhile isBlank (s.toList.dropWhile isBlank))

/-- Whether a text holds nothing but blanks. -/
def isBlankText (s : String) : Bool :=
  s.toList.all isBlank

@[simp]
theorem dropLastWhile_nil (p : Char → Bool) : dropLastWhile p [] = [] := rfl

/-- Appending a character that stays keeps everything before it. -/
theorem dropLastWhile_concat_of_not {p : Char → Bool} (cs : List Char) {c : Char}
    (h : p c = false) : dropLastWhile p (cs ++ [c]) = cs ++ [c] := by
  simp [dropLastWhile, h]

/-- An appended character that goes leaves no trace. -/
theorem dropLastWhile_concat_of {p : Char → Bool} (cs : List Char) {c : Char} (h : p c = true) :
    dropLastWhile p (cs ++ [c]) = dropLastWhile p cs := by
  simp [dropLastWhile, h]

theorem length_dropLastWhile_le (p : Char → Bool) (cs : List Char) :
    (dropLastWhile p cs).length ≤ cs.length := by
  have hsuffix : cs.reverse.dropWhile p <:+ cs.reverse := List.dropWhile_suffix p
  simpa [dropLastWhile] using hsuffix.length_le

end Groundwork
