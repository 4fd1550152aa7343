import Groundwork.Json.Number
import Groundwork.Text.Digit

/-!
# Reading JSON text

A recursive reader.  It accepts a text with an escape that stands for no character, such as half of
a surrogate pair, and a number beyond all bounds; the value is then `Node.unreadable`.
-/

namespace Groundwork.Json

/-- The text without the blanks that JSON allows at its front. -/
def skipBlanks (cs : List Char) : List Char :=
  cs.dropWhile fun c => c = ' ' || c = '\n' || c = '\t' || c = '\r'

/-- Reads four hexadecimal digits. -/
def hexFour? : List Char → Option (Nat × List Char)
  | a :: b :: c :: d :: rest => do
    let unit ← digits? 16 [a, b, c, d]
    return (unit, rest)
  | _ => none

/-- The character that a one-letter escape stands for. -/
def simpleEscape? (c : Char) : Option Char :=
  match c with
  | '"' => some '"'
  | '\\' => some '\\'
  | '/' => some '/'
  | 'b' => some (Char.ofNat 8)
  | 'f' => some (Char.ofNat 12)
  | 'n' => some '\n'
  | 'r' => some '\r'
  | 't' => some '\t'
  | _ => none

/-- A unit that opens a surrogate pair. -/
def isHighUnit (n : Nat) : Bool := 0xD800 ≤ n && n < 0xDC00

/-- A unit that closes a surrogate pair. -/
def isLowUnit (n : Nat) : Bool := 0xDC00 ≤ n && n < 0xE000

/-- Reads the rest of a quoted text.  `acc` holds the characters so far, the last one first, and is
`none` once an escape stood for no character. -/
def readQuoted (fuel : Nat) (acc : Option (List Char)) (cs : List Char) :
    Option (Option String × List Char) :=
  match fuel with
  | 0 => none
  | fuel + 1 =>
    match cs with
    | [] => none
    | '"' :: rest => some (acc.map fun r => String.ofList r.reverse, rest)
    | '\\' :: 'u' :: rest => do
      let (unit, rest) ← hexFour? rest
      if isHighUnit unit then
        match rest with
        | '\\' :: 'u' :: more =>
          let (low, more) ← hexFour? more
          if isLowUnit low then
            let c := Char.ofNat (0x10000 + (unit - 0xD800) * 1024 + (low - 0xDC00))
            readQuoted fuel (acc.map (c :: ·)) more
          else readQuoted fuel none rest
        | _ => readQuoted fuel none rest
      else if isLowUnit unit then readQuoted fuel none rest
      else readQuoted fuel (acc.map (Char.ofNat unit :: ·)) rest
    | '\\' :: c :: rest => do
      let c ← simpleEscape? c
      readQuoted fuel (acc.map (c :: ·)) rest
    | c :: rest =>
      if c.toNat < 32 || c = '\\' then none else readQuoted fuel (acc.map (c :: ·)) rest

/-- The value of a quoted text. -/
def textNode : Option String → Node
  | some s => .text s
  | none => .unreadable

mutual

/-- Reads one value and gives the text after it. -/
def readValue (fuel : Nat) (cs : List Char) : Option (Node × List Char) :=
  match fuel with
  | 0 => none
  | fuel + 1 =>
    match skipBlanks cs with
    | 'n' :: 'u' :: 'l' :: 'l' :: rest => some (.null, rest)
    | 't' :: 'r' :: 'u' :: 'e' :: rest => some (.bool true, rest)
    | 'f' :: 'a' :: 'l' :: 's' :: 'e' :: rest => some (.bool false, rest)
    | '"' :: rest => do
      let (s, rest) ← readQuoted (rest.length + 1) (some []) rest
      return (textNode s, rest)
    | '[' :: rest =>
      match skipBlanks rest with
      | ']' :: rest => some (.list [], rest)
      | rest => readItems fuel [] rest
    | '\x7b' :: rest =>
      match skipBlanks rest with
      | '\x7d' :: rest => some (.table [], rest)
      | rest => readFields fuel [] rest
    | cs => do
      let (number, rest) ← NumberText.read? cs
      return (number.toNode, rest)

/-- Reads items up to the closing bracket; `acc` holds those before, the last one first. -/
def readItems (fuel : Nat) (acc : List Node) (cs : List Char) : Option (Node × List Char) :=
  match fuel with
  | 0 => none
  | fuel + 1 => do
    let (item, rest) ← readValue fuel cs
    match skipBlanks rest with
    | ',' :: rest => readItems fuel (item :: acc) rest
    | ']' :: rest => some (.list (item :: acc).reverse, rest)
    | _ => none

/-- Reads fields up to the closing brace; `acc` holds those before, the last one first. -/
def readFields (fuel : Nat) (acc : List (Node × Node)) (cs : List Char) :
    Option (Node × List Char) :=
  match fuel with
  | 0 => none
  | fuel + 1 =>
    match skipBlanks cs with
    | '"' :: rest => do
      let (name, rest) ← readQuoted (rest.length + 1) (some []) rest
      match skipBlanks rest with
      | ':' :: rest =>
        let (value, rest) ← readValue fuel rest
        match skipBlanks rest with
        | ',' :: rest => readFields fuel ((textNode name, value) :: acc) rest
        | '\x7d' :: rest => some (.table ((textNode name, value) :: acc).reverse, rest)
        | _ => none
      | _ => none
    | _ => none

end

/-- The value that a text writes; nothing but blanks may follow it. -/
def read? (s : String) : Option Node := do
  let cs := s.toList
  let (value, rest) ← readValue (2 * cs.length + 2) cs
  if (skipBlanks rest).isEmpty then some value else none

end Groundwork.Json
