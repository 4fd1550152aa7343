import Groundwork.Json.Basic
import Groundwork.Decimal.Notation

/-!
# JSON text

Two layouts of a JSON value.  `Json.compact` has no blanks at all and is the text that fingerprints
are taken of; `Json.pretty` puts every item and field on a line of its own, two spaces deeper than
its container.
-/

namespace Groundwork.Json

/-- The digit of a number below sixteen. -/
def hexDigit (n : Nat) : Char :=
  Nat.digitChar n

/-- A character inside a quoted text. -/
def quoteChar (c : Char) : List Char :=
  match c with
  | '"' => ['\\', '"']
  | '\\' => ['\\', '\\']
  | '\n' => ['\\', 'n']
  | '\r' => ['\\', 'r']
  | '\t' => ['\\', 't']
  | c =>
    if c.toNat = 8 then ['\\', 'b']
    else if c.toNat = 12 then ['\\', 'f']
    else if c.toNat < 32 then
      ['\\', 'u', '0', '0', hexDigit (c.toNat / 16), hexDigit (c.toNat % 16)]
    else [c]

/-- A text between quotes. -/
def quote (s : String) : String :=
  String.ofList ('"' :: (s.toList.flatMap quoteChar ++ ['"']))

mutual

/-- Appends the text of a value without blanks. -/
def addCompact (acc : String) : Json → String
  | null => acc ++ "null"
  | bool b => acc ++ (if b then "true" else "false")
  | int n => acc ++ toString n
  | float x => acc ++ FloatStyle.json.write x
  | text s => acc ++ quote s
  | list items => addCompactItems (acc ++ "[") true items ++ "]"
  | object fields => addCompactFields (acc ++ "\x7b") true fields ++ "\x7d"

/-- Appends items with commas between them. -/
def addCompactItems (acc : String) (first : Bool) : List Json → String
  | [] => acc
  | item :: rest =>
    addCompactItems (addCompact (if first then acc else acc ++ ",") item) false rest

/-- Appends fields with commas between them. -/
def addCompactFields (acc : String) (first : Bool) : List (String × Json) → String
  | [] => acc
  | (name, value) :: rest =>
    let acc := (if first then acc else acc ++ ",") ++ quote name ++ ":"
    addCompactFields (addCompact acc value) false rest

end

/-- The text of a value without blanks. -/
def compact (value : Json) : String := addCompact "" value

/-- A new line with room for `depth` levels. -/
def newLine (depth : Nat) : String :=
  String.ofList ('\n' :: List.replicate (2 * depth) ' ')

mutual

/-- Appends the text of a value that stands `depth` levels deep. -/
def addPretty (acc : String) (depth : Nat) : Json → String
  | null => acc ++ "null"
  | bool b => acc ++ (if b then "true" else "false")
  | int n => acc ++ toString n
  | float x => acc ++ FloatStyle.json.write x
  | text s => acc ++ quote s
  | list [] => acc ++ "[]"
  | list (item :: rest) =>
    let acc := addPretty (acc ++ "[" ++ newLine (depth + 1)) (depth + 1) item
    addPrettyItems acc (depth + 1) rest ++ newLine depth ++ "]"
  | object [] => acc ++ "\x7b\x7d"
  | object ((name, value) :: rest) =>
    let acc := acc ++ "\x7b" ++ newLine (depth + 1) ++ quote name ++ ": "
    addPrettyFields (addPretty acc (depth + 1) value) (depth + 1) rest ++ newLine depth ++ "\x7d"

/-- Appends further items, each on a line of its own. -/
def addPrettyItems (acc : String) (depth : Nat) : List Json → String
  | [] => acc
  | item :: rest => addPrettyItems (addPretty (acc ++ "," ++ newLine depth) depth item) depth rest

/-- Appends further fields, each on a line of its own. -/
def addPrettyFields (acc : String) (depth : Nat) : List (String × Json) → String
  | [] => acc
  | (name, value) :: rest =>
    let acc := acc ++ "," ++ newLine depth ++ quote name ++ ": "
    addPrettyFields (addPretty acc depth value) depth rest

end

/-- The text of a value with an item or field on each line. -/
def pretty (value : Json) : String := addPretty "" 0 value

end Groundwork.Json
