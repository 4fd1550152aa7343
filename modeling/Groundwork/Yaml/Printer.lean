import Groundwork.Decimal.Notation
import Groundwork.Json.Basic
import Groundwork.Yaml.TextStyle

/-!
# Writing YAML

A JSON value as a YAML document.  Objects and lists are blocks, two columns deeper than what holds
them; only the dashes of a list inside an object stand below the object's keys.  A key that is too
long or has several lines is marked by a question mark.
-/

namespace Groundwork.Yaml

/-- So many blanks. -/
def spaces (n : Nat) : List Char := List.replicate n ' '

/-- A line feed, unless the text ends a line already. -/
def endLine (text : List Char) : List Char :=
  if text.getLast?.any isBreak then text else text ++ ['\n']

/-! ## Scalars -/

/-- The upper-case hexadecimal digit of a number below sixteen. -/
def upperHexDigit (n : Nat) : Char :=
  (Nat.digitChar n).toUpper

/-- A number in so many hexadecimal digits. -/
def hexDigits : Nat → Nat → List Char
  | 0, _ => []
  | width + 1, n => hexDigits width (n / 16) ++ [upperHexDigit (n % 16)]

/-- The letters of the short escapes. -/
def escapeLetters : List (Nat × Char) :=
  [(0x00, '0'), (0x07, 'a'), (0x08, 'b'), (0x09, 't'), (0x0A, 'n'), (0x0B, 'v'), (0x0C, 'f'),
   (0x0D, 'r'), (0x1B, 'e'), (0x22, '"'), (0x5C, '\\'), (0x85, 'N'), (0xA0, '_'), (0x2028, 'L'),
   (0x2029, 'P')]

/-- The escape of a character. -/
def escape (c : Char) : List Char :=
  let n := c.toNat
  match escapeLetters.lookup n with
  | some letter => ['\\', letter]
  | none =>
    if n ≤ 0xFF then '\\' :: 'x' :: hexDigits 2 n
    else if n ≤ 0xFFFF then '\\' :: 'u' :: hexDigits 4 n
    else '\\' :: 'U' :: hexDigits 8 n

/-- A character between double quotes. -/
def doubleQuotedChar (c : Char) : List Char :=
  if isPrintable c && !isBreak c && c ≠ '"' && c ≠ '\\' then [c] else escape c

/-- A text between double quotes. -/
def doubleQuoted (cs : List Char) : List Char :=
  '"' :: cs.flatMap doubleQuotedChar ++ ['"']

/-- Characters with every line but the first at an indentation; `spell` writes a character that
ends no line. -/
def indented (spell : Char → List Char) (indent : Nat) : Bool → List Char → List Char
  | _, [] => []
  | atStart, c :: rest =>
    if isBreak c then c :: indented spell indent true rest
    else
      (if atStart then spaces indent else []) ++ spell c ++ indented spell indent false rest

/-- A text between single quotes, with its own quotes doubled. -/
def singleQuoted (indent : Nat) (cs : List Char) : List Char :=
  let body := indented (fun c => if c = '\'' then ['\'', c] else [c]) indent false cs
  '\'' :: body ++ (if cs.getLast?.any isBreak then spaces indent else []) ++ ['\'']

/-- The header of a literal block: the indentation if the text hides it, and what becomes of the
line ends at the end of the text. -/
def literalHeader (cs : List Char) : List Char :=
  let startsInGap := cs.head?.any isOuterGap
  let chomping : List Char :=
    match cs.reverse with
    | [] => ['-']
    | [last] => if isBreak last then ['+'] else ['-']
    | last :: before :: _ =>
      if !isBreak last then ['-'] else if isBreak before then ['+'] else []
  '|' :: (if startsInGap then ['2'] else []) ++ chomping

/-- A text as a literal block. -/
def literalBlock (indent : Nat) (cs : List Char) : List Char :=
  literalHeader cs ++ '\n' :: indented (fun c => [c]) indent true cs

/-- A text as a scalar whose further lines are at an indentation. -/
def textScalar (indent : Nat) (s : String) : List Char :=
  match TextStyle.of s with
  | .plain => s.toList
  | .single => singleQuoted indent s.toList
  | .double => doubleQuoted s.toList
  | .literal => literalBlock indent s.toList

/-- A value that is no block. -/
def inlineValue (indent : Nat) : Json → List Char
  | .null => "null".toList
  | .bool b => (if b then "true" else "false").toList
  | .int n => (toString n).toList
  | .float x => (FloatStyle.yaml.write x).toList
  | .text s => textScalar indent s
  | .list _ => ['[', ']']
  | .object _ => ['\x7b', '\x7d']

/-! ## Blocks -/

/-- The longest key, in bytes, that stands on one line with its value. -/
def simpleKeyBytes : Nat := 128

/-- Whether a key stands on one line with its value. -/
def isSimpleKey (key : String) : Bool :=
  !key.toList.any isBreak && key.utf8ByteSize ≤ simpleKeyBytes

/-- A key with the mark before its value; `indent` is the column of the key. -/
def keyText (indent : Nat) (key : String) : List Char :=
  if isSimpleKey key then textScalar (indent + 2) key ++ [':']
  else
    ['?', ' '] ++ endLine (textScalar (indent + 2) key) ++ spaces indent ++ [':']

/-- Lines that start in one column; the first of them is there already. -/
def inColumn (indent : Nat) : List (List Char) → List Char
  | [] => []
  | [text] => text
  | text :: rest => text ++ spaces indent ++ inColumn indent rest

mutual

/-- The fields of an object that starts in a column. -/
def fieldTexts (indent : Nat) : List (String × Json) → List (List Char)
  | [] => []
  | (key, value) :: rest =>
    let value := if isSimpleKey key then valueText indent value else ' ' :: itemText indent value
    (keyText indent key ++ value) :: fieldTexts indent rest

/-- What follows the colon after a key in a column. -/
def valueText (indent : Nat) : Json → List Char
  | .object (field :: rest) =>
    '\n' :: spaces (indent + 2) ++ inColumn (indent + 2) (fieldTexts (indent + 2) (field :: rest))
  | .list (item :: rest) => '\n' :: spaces indent ++ inColumn indent (itemTexts indent (item :: rest))
  | value => ' ' :: endLine (inlineValue (indent + 2) value)

/-- The items of a list that starts in a column. -/
def itemTexts (indent : Nat) : List Json → List (List Char)
  | [] => []
  | item :: rest => ('-' :: ' ' :: itemText indent item) :: itemTexts indent rest

/-- What follows the dash of an item in a column. -/
def itemText (indent : Nat) : Json → List Char
  | .object (field :: rest) => inColumn (indent + 2) (fieldTexts (indent + 2) (field :: rest))
  | .list (item :: rest) => inColumn (indent + 2) (itemTexts (indent + 2) (item :: rest))
  | value => endLine (inlineValue (indent + 2) value)

end

/-- The text of a document. -/
def print : Json → String
  | .object (field :: rest) => String.ofList (inColumn 0 (fieldTexts 0 (field :: rest)))
  | .list (item :: rest) => String.ofList (inColumn 0 (itemTexts 0 (item :: rest)))
  | value => String.ofList (endLine (inlineValue 2 value))

end Groundwork.Yaml
