/-!
# Characters of TOML

The classes of characters that TOML documents are made of.  Letters and digits are the ASCII ones.
-/

namespace Groundwork.Toml

/-- A blank or a tab. -/
def isSpace (c : Char) : Bool := c = ' ' || c = '\t'

/-- A character that may stand in a comment or, quotes and backslashes apart, in a text on one
line. -/
def isTextChar (c : Char) : Bool :=
  let n := c.toNat
  n = 0x9 || (0x20 ≤ n && n ≤ 0x7E) || 0x80 ≤ n

/-- A character of a key without quotes. -/
def isBareChar (c : Char) : Bool := c.isAlphanum || c = '-' || c = '_'

/-- The rest after the blanks and tabs. -/
def dropSpaces (cs : List Char) : List Char := cs.dropWhile isSpace

/-- The rest after the end of a line: a line feed, perhaps with a carriage return before it. -/
def afterBreak? : List Char → Option (List Char)
  | '\n' :: rest => some rest
  | '\r' :: '\n' :: rest => some rest
  | _ => none

/-- The rest after blanks, tabs and line ends. -/
def dropBlankLines : List Char → List Char
  | '\r' :: '\n' :: rest => dropBlankLines rest
  | c :: rest => if isSpace c || c = '\n' then dropBlankLines rest else c :: rest
  | [] => []

/-- The rest after a comment, if one stands here. -/
def dropComment : List Char → List Char
  | '#' :: rest => rest.dropWhile isTextChar
  | cs => cs

/-- The rest after blanks, perhaps a comment, and the end of the line or of the text. -/
def afterLine? (cs : List Char) : Option (List Char) :=
  match dropComment (dropSpaces cs) with
  | [] => some []
  | cs => afterBreak? cs

/-- The rest after blanks, comments and line ends, of at most `fuel` lines. -/
def skipLines (fuel : Nat) (cs : List Char) : List Char :=
  let cs := dropSpaces cs
  match fuel with
  | 0 => cs
  | fuel + 1 =>
    match afterBreak? (dropComment cs) with
    | some rest => skipLines fuel rest
    | none => cs

end Groundwork.Toml
