import Groundwork.Toml.Date
import Groundwork.Toml.Number
import Groundwork.Toml.Quoted
import Groundwork.Toml.Table

/-!
# Reading TOML text

A text is a sequence of statements, each on its own line: assignments and headers.
-/

namespace Groundwork.Toml

/-- A line that says something. -/
inductive Statement where
  | assignment (a : Assignment)
  | header (h : Header)

/-- Values are nested less deep than this, and keys have fewer parts. -/
def depthLimit : Nat := 80

/-! ## Keys -/

/-- Reads one part of a key, with the blanks around it. -/
def readKeyPart? (cs : List Char) : Option (String × List Char) := do
  let cs := dropSpaces cs
  let bare := cs.takeWhile isBareChar
  let (part, rest) ←
    if bare.isEmpty then Quoted.readShort? cs
    else some (String.ofList bare, cs.dropWhile isBareChar)
  return (part, dropSpaces rest)

/-- Reads the parts of a key, of which there are at most `count`. -/
def readKeyParts? (count : Nat) (cs : List Char) : Option (List String × List Char) :=
  match count with
  | 0 => none
  | count + 1 => do
    let (part, rest) ← readKeyPart? cs
    match rest with
    | '.' :: rest =>
      let (parts, rest) ← readKeyParts? count rest
      return (part :: parts, rest)
    | rest => return ([part], rest)

/-- Reads a key: the path to its table, and its last part. -/
def readKey? (cs : List Char) : Option (List String × String × List Char) := do
  let (parts, rest) ← readKeyParts? (depthLimit - 1) cs
  return (parts.dropLast, ← parts.getLast?, rest)

/-! ## Values -/

/-- Reads a word that stands for a value. -/
def readWord? : List Char → Option (Node × List Char)
  | 't' :: 'r' :: 'u' :: 'e' :: rest => some (.bool true, rest)
  | 'f' :: 'a' :: 'l' :: 's' :: 'e' :: rest => some (.bool false, rest)
  | cs => (Date.read? cs).orElse fun _ => Number.read? cs

mutual

/-- Reads a value, which may contain others to the given depth. -/
def readValue (fuel depth : Nat) (cs : List Char) : Option (Node × List Char) :=
  match fuel with
  | 0 => none
  | fuel + 1 =>
    match cs with
    | '[' :: rest =>
      match depth with
      | 0 => none
      | depth + 1 => readItems fuel depth [] (skipLines rest.length rest)
    | '\x7b' :: rest =>
      match depth with
      | 0 => none
      | depth + 1 =>
        match dropSpaces rest with
        | '\x7d' :: rest => some (.table [], rest)
        | rest => readEntries fuel depth [] rest
    | cs =>
      match Quoted.read? cs with
      | some (text, rest) => some (.text text, rest)
      | none => readWord? cs

/-- Reads items up to the closing bracket; `before` holds those before, the last one first. -/
def readItems (fuel depth : Nat) (before : List Node) (cs : List Char) :
    Option (Node × List Char) :=
  match fuel with
  | 0 => none
  | fuel + 1 =>
    match cs with
    | ']' :: rest => some (.list before.reverse, rest)
    | cs => do
      let (item, rest) ← readValue fuel depth cs
      match skipLines rest.length rest with
      | ',' :: rest => readItems fuel depth (item :: before) (skipLines rest.length rest)
      | ']' :: rest => some (.list (item :: before).reverse, rest)
      | _ => none

/-- Reads entries up to the closing brace, after those `before`. -/
def readEntries (fuel depth : Nat) (before : Entries) (cs : List Char) :
    Option (Node × List Char) :=
  match fuel with
  | 0 => none
  | fuel + 1 => do
    let (path, key, rest) ← readKey? cs
    match rest with
    | '=' :: rest =>
      let (value, rest) ← readValue fuel depth (dropSpaces rest)
      let entries ← Entries.assign key value path before
      match dropSpaces rest with
      | ',' :: rest => readEntries fuel depth entries rest
      | '\x7d' :: rest => some (.table (entriesToNodes entries), rest)
      | _ => none
    | _ => none

end

/-! ## Lines -/

/-- Reads an assignment up to the end of its line. -/
def readAssignment? (cs : List Char) : Option (Statement × List Char) := do
  let (path, key, rest) ← readKey? cs
  match rest with
  | '=' :: rest =>
    let rest := dropSpaces rest
    let (value, rest) ← readValue (2 * rest.length + 2) (depthLimit - 1) rest
    return (.assignment ⟨path, key, value⟩, ← afterLine? rest)
  | _ => none

/-- Reads a header up to the end of its line. -/
def readHeader? (cs : List Char) : Option (Statement × List Char) := do
  match cs with
  | '[' :: '[' :: rest =>
    match ← readKey? rest with
    | (path, key, ']' :: ']' :: rest) => return (.header ⟨true, path, key⟩, ← afterLine? rest)
    | _ => none
  | '[' :: rest =>
    match ← readKey? rest with
    | (path, key, ']' :: rest) => return (.header ⟨false, path, key⟩, ← afterLine? rest)
    | _ => none
  | _ => none

/-- Reads the statements of a text, of at most `fuel`. -/
def readStatements (fuel : Nat) (cs : List Char) : Option (List Statement) :=
  match fuel, skipLines cs.length cs with
  | _, [] => some []
  | 0, _ => none
  | fuel + 1, cs =>
    if cs.head? = some '#' then (afterLine? cs).map fun _ => []
    else do
      let (s, rest) ← if cs.head? = some '[' then readHeader? cs else readAssignment? cs
      return s :: (← readStatements fuel rest)

/-- Divides statements into those before the first header and the sections. -/
def sections : List Statement → List Assignment × List Section
  | [] => ([], [])
  | .assignment a :: rest =>
    let (leading, later) := sections rest
    (a :: leading, later)
  | .header h :: rest =>
    let (leading, later) := sections rest
    ([], ⟨h, leading⟩ :: later)

/-- The table that statements build. -/
def build? (statements : List Statement) : Option Entries := do
  let (leading, later) := sections statements
  later.foldlM Entries.addSection (← Entries.fill [] leading)

/-- The text without a mark of the byte order at its front. -/
def dropByteOrderMark (cs : List Char) : List Char :=
  if (cs.head?.map Char.toNat) = some 0xFEFF then cs.tail else cs

/-- The table that a text writes. -/
def read? (s : String) : Option Node := do
  let cs := dropByteOrderMark s.toList
  let entries ← build? (← readStatements cs.length cs)
  return .table (entriesToNodes entries)

end Groundwork.Toml
