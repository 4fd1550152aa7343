/-!
# Lines

A text as a list of lines, and the two indentations that generated code knows: one that shifts
every line after the first, used when a value is nested in another, and one that shifts each line
that is not empty, used when a whole block is placed in another.
-/

namespace Groundwork

/-- The pieces between the characters for which `p` holds; always at least one. -/
def splitWhere (p : Char → Bool) : List Char → List (List Char)
  | [] => [[]]
  | c :: rest =>
    match p c, splitWhere p rest with
    | false, piece :: more => (c :: piece) :: more
    | _, pieces => [] :: pieces

/-- A line without the carriage return at its end. -/
def dropReturn (line : List Char) : List Char :=
  if line.getLast? = some '\r' then line.dropLast else line

/-- The lines of a text.  A line ends at a line feed, or at a carriage return and a line feed; what
follows the last line feed is a line only if it is not empty. -/
def lines (s : String) : List String :=
  let pieces := splitWhere (· = '\n') s.toList
  let ended := pieces.dropLast.map dropReturn
  let last := pieces.getLast?.getD []
  (if last.isEmpty then ended else ended ++ [last]).map String.ofList

/-- Puts `pad` after every line feed, so that the text can be nested one level deeper. -/
def hang (pad : List Char) (cs : List Char) : List Char :=
  cs.flatMap fun c => if c = '\n' then c :: pad else [c]

/-- Puts `width` spaces before every line that is not empty. -/
def indent (width : Nat) (s : String) : String :=
  let pad := String.ofList (List.replicate width ' ')
  "\n".intercalate ((lines s).map fun line => if line.isEmpty then "" else pad ++ line)

/-- Nesting keeps a text that has no line feed. -/
theorem hang_eq_self {pad cs : List Char} (h : '\n' ∉ cs) : hang pad cs = cs := by
  induction cs with
  | nil => rfl
  | cons c cs ih =>
    have hc : c ≠ '\n' := fun e => h (by simp [e])
    have hcs : '\n' ∉ cs := fun m => h (by simp [m])
    have := ih hcs
    simp only [hang] at this ⊢
    simp [hc, this]

end Groundwork
