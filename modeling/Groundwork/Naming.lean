import Groundwork.Text.Case

/-!
# Names

How the names that a project declares become code identifiers, labels and cloud names.  Identifiers
and labels allow different characters, so each has its own way to replace the others.

Main statements: `isLabelChar_of_mem_labelOf`, `length_labelOf_le`.
-/

namespace Groundwork

/-- The longest label. -/
def labelMaxLength : Nat := 63

/-- What stands for a character in an identifier: itself if it is a letter or digit, else an
underscore. -/
def identifierChar (c : Char) : Char :=
  if c.isAlphanum then c else '_'

/-- The identifier that a name becomes; one that would start with a digit starts with an
underscore. -/
def identifierOf (cs : List Char) : List Char :=
  match cs.map identifierChar with
  | c :: rest => if c.isDigit then '_' :: c :: rest else c :: rest
  | [] => []

/-- The code identifier that a name becomes. -/
def sanitizeIdentifier (name : String) : String :=
  String.ofList (identifierOf name.toList)

/-- Whether a label may have the character. -/
def isLabelChar (c : Char) : Bool :=
  c.isLower || c.isDigit || c = '-' || c = '_'

/-- What stands for a lowercased character in a label: itself or a hyphen. -/
def labelChar (c : Char) : Char :=
  if isLabelChar c then c else '-'

/-- Puts an `x` before characters that do not start with a letter. -/
def startWithLetter : List Char → List Char
  | [] => ['x']
  | c :: rest => if c.isLower then c :: rest else 'x' :: c :: rest

/-- The label that a value becomes: lowercased, with a letter at its start, and cut. -/
def labelOf (cs : List Char) : List Char :=
  (startWithLetter ((cs.flatMap lowercaseChar).map labelChar)).take labelMaxLength

/-- The label that a value becomes. -/
def sanitizeLabel (value : String) : String :=
  String.ofList (labelOf value.toList)

/-- The name of an output of a resource: `{sanitizedName}{Field}`. -/
def outputVariable (name field : String) : String :=
  sanitizeIdentifier name ++ capitalize field

/-- The identifier that generated code declares for a resource, such as `api_service`. -/
def codeIdentifier (name suffix : String) : String :=
  sanitizeIdentifier name ++ "_" ++ suffix

/-- A name that carries its project: `{project}-{name}`. -/
def prefixedName (project name : String) : String :=
  project ++ "-" ++ name

/-- The text without the slashes at its end. -/
def trimSlashes (s : String) : String :=
  let cs := s.toList
  String.ofList (cs.reverse.dropWhile (· = '/')).reverse

/-- The image of a workload in a registry: `{registry}/{name}:{tag}`. -/
def imageTag (registry name tag : String) : String :=
  trimSlashes registry ++ "/" ++ name ++ ":" ++ tag

@[simp]
theorem isLabelChar_labelChar (c : Char) : isLabelChar (labelChar c) = true := by
  unfold labelChar
  split
  · assumption
  · decide

/-- An `x` before allowed characters is allowed too. -/
theorem isLabelChar_of_mem_startWithLetter {cs : List Char} (h : ∀ c ∈ cs, isLabelChar c = true) :
    ∀ c ∈ startWithLetter cs, isLabelChar c = true := by
  intro c hc
  cases cs with
  | nil =>
    rw [startWithLetter, List.mem_singleton] at hc
    subst c
    decide
  | cons d ds =>
    rw [startWithLetter] at hc
    split at hc
    · exact h c hc
    · rcases List.mem_cons.1 hc with rfl | hc
      · decide
      · exact h c hc

/-- Every character of a label is allowed. -/
theorem isLabelChar_of_mem_labelOf {cs : List Char} {c : Char} (h : c ∈ labelOf cs) :
    isLabelChar c = true := by
  refine isLabelChar_of_mem_startWithLetter (fun d hd => ?_) c (List.mem_of_mem_take h)
  obtain ⟨e, _, rfl⟩ := List.mem_map.1 hd
  exact isLabelChar_labelChar e

/-- No label is longer than the limit. -/
theorem length_labelOf_le (cs : List Char) : (labelOf cs).length ≤ labelMaxLength := by
  simp only [labelOf, List.length_take]
  omega

end Groundwork
