import Groundwork.Document.Node
import Groundwork.Text.Digit

/-!
# Dates and times

A date, a time, or both with perhaps an offset.  As a value it is a table with one entry, under a
key that no document uses, which holds the date in its canonical spelling.
-/

namespace Groundwork.Toml.Date

/-- Reads so many digits. -/
def readDigits? (size : Nat) (cs : List Char) : Option (List Char × List Char) :=
  let digits := cs.take size
  if digits.length = size && digits.all Char.isDigit then some (digits, cs.drop size) else none

/-- Reads two digits that write a number within bounds. -/
def readTwo? (least greatest : Nat) (cs : List Char) : Option (List Char × List Char) := do
  let (digits, rest) ← readDigits? 2 cs
  let n ← digits? 10 digits
  if least ≤ n && n ≤ greatest then some (digits, rest) else none

/-- Reads one character. -/
def readMark? (c : Char) : List Char → Option (List Char)
  | d :: rest => if c = d then some rest else none
  | [] => none

/-- Whether a year has a day more. -/
def isLeapYear (year : Nat) : Bool :=
  year % 4 = 0 && (year % 100 ≠ 0 || year % 400 = 0)

/-- The number of days of a month. -/
def monthDays (year month : Nat) : Nat :=
  if month = 2 then (if isLeapYear year then 29 else 28)
  else if month ∈ [4, 6, 9, 11] then 30
  else 31

/-- Reads a date. -/
def readDate? (cs : List Char) : Option (List Char × List Char) := do
  let (year, rest) ← readDigits? 4 cs
  let (month, rest) ← readTwo? 1 12 (← readMark? '-' rest)
  let greatest := monthDays ((digits? 10 year).getD 0) ((digits? 10 month).getD 0)
  let (day, rest) ← readTwo? 1 greatest (← readMark? '-' rest)
  return (year ++ '-' :: month ++ '-' :: day, rest)

/-- Reads a fraction of a second, if there is one.  Digits beyond the ninth do not count, and zeros
at the end are not written. -/
def readFraction (cs : List Char) : List Char × List Char :=
  match cs with
  | '.' :: rest =>
    let digits := rest.takeWhile Char.isDigit
    if digits.isEmpty then ([], cs)
    else
      let kept := ((digits.take 9).reverse.dropWhile (· = '0')).reverse
      (if kept.isEmpty then [] else '.' :: kept, rest.dropWhile Char.isDigit)
  | _ => ([], cs)

/-- Reads a time of day. -/
def readTime? (cs : List Char) : Option (List Char × List Char) := do
  let (hour, rest) ← readTwo? 0 23 cs
  let (minute, rest) ← readTwo? 0 59 (← readMark? ':' rest)
  let (second, rest) ← readTwo? 0 60 (← readMark? ':' rest)
  let (fraction, rest) := readFraction rest
  return (hour ++ ':' :: minute ++ ':' :: second ++ fraction, rest)

/-- The sign of an offset; an offset of nothing is not negative. -/
def offsetSign (negative : Bool) (digits : List Char) : Char :=
  if negative && digits.any (· ≠ '0') then '-' else '+'

/-- Reads an offset, if there is one. -/
def readOffset (cs : List Char) : List Char × List Char :=
  let read : Option (List Char × List Char) :=
    match cs with
    | c :: rest =>
      if c = 'Z' || c = 'z' then some (['Z'], rest)
      else if c = '+' || c = '-' then do
        let (hour, rest) ← readTwo? 0 23 rest
        let (minute, rest) ← readTwo? 0 59 (← readMark? ':' rest)
        return (offsetSign (c = '-') (hour ++ minute) :: hour ++ ':' :: minute, rest)
      else none
    | [] => none
  read.getD ([], cs)

/-- Reads a time and an offset after a date, if they are there. -/
def readDayTime (cs : List Char) : List Char × List Char :=
  match cs with
  | c :: rest =>
    match if c = 'T' || c = 't' || c = ' ' then readTime? rest else none with
    | some (time, rest) =>
      let (offset, rest) := readOffset rest
      ('T' :: time ++ offset, rest)
    | none => ([], cs)
  | [] => ([], [])

/-- Reads a date or a time. -/
def readText? (cs : List Char) : Option (List Char × List Char) :=
  match readDate? cs with
  | some (date, rest) =>
    let (time, rest) := readDayTime rest
    some (date ++ time, rest)
  | none => readTime? cs

/-- The key of the entry that holds a date. -/
def key : String := "$__toml_private_datetime"

/-- Reads a date or a time as a value. -/
def read? (cs : List Char) : Option (Node × List Char) :=
  (readText? cs).map fun (text, rest) => (.table [(.text key, .text (String.ofList text))], rest)

end Groundwork.Toml.Date
