import Groundwork.Text.Digit
import Groundwork.Toml.Character

/-!
# Quoted texts

Single quotes take a text as it is; double quotes know escapes.  Three quotes in a row start a text
over several lines, from which a line end right after them is left out.
-/

namespace Groundwork.Toml.Quoted

/-- Reads a character code of so many hexadecimal digits. -/
def readCode? (size : Nat) (cs : List Char) : Option (Char × List Char) := do
  let digits := cs.take size
  if digits.length < size then none
  let c ← scalarChar? (← digits? 16 digits)
  return (c, cs.drop size)

/-- Reads an escape after its backslash. -/
def readEscape? : List Char → Option (Char × List Char)
  | 'b' :: rest => some (Char.ofNat 8, rest)
  | 'f' :: rest => some (Char.ofNat 12, rest)
  | 'n' :: rest => some ('\n', rest)
  | 'r' :: rest => some ('\r', rest)
  | 't' :: rest => some ('\t', rest)
  | 'u' :: rest => readCode? 4 rest
  | 'U' :: rest => readCode? 8 rest
  | '\\' :: rest => some ('\\', rest)
  | '"' :: rest => some ('"', rest)
  | _ => none

/-- Reads up to the closing double quote.  `out` holds the characters before, the last one
first. -/
def readBasic (fuel : Nat) (out cs : List Char) : Option (String × List Char) :=
  match fuel with
  | 0 => none
  | fuel + 1 =>
    match cs with
    | [] => none
    | '"' :: rest => some (String.ofList out.reverse, rest)
    | '\\' :: rest => do
      let (c, rest) ← readEscape? rest
      readBasic fuel (c :: out) rest
    | c :: rest => if isTextChar c then readBasic fuel (c :: out) rest else none

/-- Reads up to the closing single quote. -/
def readLiteral (out : List Char) : List Char → Option (String × List Char)
  | [] => none
  | '\'' :: rest => some (String.ofList out.reverse, rest)
  | c :: rest => if isTextChar c then readLiteral (c :: out) rest else none

/-- What is left after three closing quotes: up to two more belong to the text. -/
def close (quote : Char) (out rest : List Char) : String × List Char :=
  let extra := ((rest.take 2).takeWhile (· = quote)).length
  (String.ofList (List.replicate extra quote ++ out).reverse, rest.drop extra)

/-- Reads up to three closing double quotes. -/
def readLongBasic (fuel : Nat) (out cs : List Char) : Option (String × List Char) :=
  match fuel with
  | 0 => none
  | fuel + 1 =>
    match cs with
    | [] => none
    | '"' :: '"' :: '"' :: rest => some (close '"' out rest)
    | '"' :: rest => readLongBasic fuel ('"' :: out) rest
    | '\\' :: rest =>
      match afterBreak? (dropSpaces rest) with
      | some rest => readLongBasic fuel out (dropBlankLines rest)
      | none => do
        let (c, rest) ← readEscape? rest
        readLongBasic fuel (c :: out) rest
    | '\n' :: rest => readLongBasic fuel ('\n' :: out) rest
    | '\r' :: '\n' :: rest => readLongBasic fuel ('\n' :: out) rest
    | c :: rest => if isTextChar c then readLongBasic fuel (c :: out) rest else none

/-- Reads up to three closing single quotes. -/
def readLongLiteral (out : List Char) : List Char → Option (String × List Char)
  | [] => none
  | '\'' :: '\'' :: '\'' :: rest => some (close '\'' out rest)
  | '\n' :: rest => readLongLiteral ('\n' :: out) rest
  | '\r' :: '\n' :: rest => readLongLiteral ('\n' :: out) rest
  | c :: rest => if isTextChar c then readLongLiteral (c :: out) rest else none

/-- The text without a line end at its front. -/
def dropBreak (cs : List Char) : List Char := (afterBreak? cs).getD cs

/-- Reads a text on one line, which a key can be too. -/
def readShort? : List Char → Option (String × List Char)
  | '"' :: rest => readBasic (rest.length + 1) [] rest
  | '\'' :: rest => readLiteral [] rest
  | _ => none

/-- Reads a quoted text of any kind. -/
def read? : List Char → Option (String × List Char)
  | '"' :: '"' :: '"' :: rest => readLongBasic (rest.length + 1) [] (dropBreak rest)
  | '\'' :: '\'' :: '\'' :: rest => readLongLiteral [] (dropBreak rest)
  | cs => readShort? cs

end Groundwork.Toml.Quoted
