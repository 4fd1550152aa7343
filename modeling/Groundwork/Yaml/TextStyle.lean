import Groundwork.Document.Scalar
import Groundwork.Yaml.Character

/-!
# How a text is written as a YAML scalar

A text is written plain if a reader then takes it for that text.  One that would be taken for
something else, such as a number, stands in single quotes; one with line feeds is a literal block;
one that neither form can hold stands in double quotes, where escapes can express everything.
-/

namespace Groundwork.Yaml

/-- The forms of a scalar. -/
inductive TextStyle where
  | plain
  | single
  | double
  | literal
  deriving DecidableEq, Repr

/-- Whether the text, written plain, is read as a whole number of at most 128 bits. -/
def looksInteger (s : String) : Bool :=
  match s.toList with
  | '-' :: rest =>
    rest.head? ≠ some '+' &&
      ((Scalar.mk .plain none (String.ofList rest)).natural?).any (· ≤ Nat.pow 2 127)
  | _ => ((Scalar.mk .plain none s).natural?).any (· < Nat.pow 2 128)

/-- Whether the text, written plain, is read as something else than that text, or looks as if it
were. -/
def isAmbiguous (s : String) : Bool :=
  let plain : Scalar := ⟨.plain, none, s⟩
  s.isEmpty || Scalar.isNullWord s || plain.truth?.isSome || looksInteger s
    || Scalar.isPaddedDigits s.toList || plain.float?.isSome

/-- Whether two neighbouring characters satisfy a relation. -/
def hasNeighbours (p : Char → Char → Bool) : List Char → Bool
  | a :: b :: rest => p a b || hasNeighbours p (b :: rest)
  | _ => false

/-- Characters with a meaning of their own at the front of a plain scalar. -/
def isIndicator (c : Char) : Bool :=
  "#,[]\x7b\x7d&*!|>'\"%@".toList.contains c || c.toNat = 96

/-- Whether a colon ends a word, or a number sign starts one, behind the front of a text. -/
def hasInnerIndicator : List Char → Bool
  | a :: b :: rest =>
    (b = ':' && isGap rest.head?) || (b = '#' && isGap (some a)) || hasInnerIndicator (b :: rest)
  | _ => false

/-- Whether a reader would take something in the text for more than text. -/
def hasIndicator (cs : List Char) : Bool :=
  "---".toList.isPrefixOf cs || "...".toList.isPrefixOf cs || hasInnerIndicator cs ||
    match cs with
    | [] => false
    | c :: rest =>
      isIndicator c || ((c = '?' || c = ':' || c = '-') && isGap rest.head?)

/-- Whether a character is a blank or ends a line. -/
def isOuterGap (c : Char) : Bool := c = ' ' || isBreak c

/-- Whether the text can be written plain. -/
def allowsPlain (cs : List Char) : Bool :=
  cs.all (fun c => isPrintable c && !isBreak c)
    && !cs.head?.any isOuterGap && !cs.getLast?.any isOuterGap && !hasIndicator cs

/-- Whether the text can be written between single quotes. -/
def allowsSingle (cs : List Char) : Bool :=
  cs.all isPrintable
    && !hasNeighbours (fun a b => (isBreak a && b = ' ') || (a = ' ' && isBreak b)) cs

/-- Whether the text can be written as a literal block. -/
def allowsLiteral (cs : List Char) : Bool :=
  cs.all isPrintable && cs.getLast? ≠ some ' '
    && !hasNeighbours (fun a b => a = ' ' && isBreak b) cs

/-- The form in which a text is written. -/
def TextStyle.of (s : String) : TextStyle :=
  let cs := s.toList
  if cs.contains '\n' then if allowsLiteral cs then literal else double
  else if !isAmbiguous s && allowsPlain cs then plain
  else if allowsSingle cs then single
  else double

end Groundwork.Yaml
