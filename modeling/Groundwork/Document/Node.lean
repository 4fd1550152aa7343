/-!
# Document trees

What the readers of the three description formats deliver.  JSON and TOML say what each scalar is;
a YAML scalar stays a `Scalar`, because what it means depends on the place that takes it.

A value that a format lets pass but that has no meaning, such as a number beyond all bounds, is
`unreadable`: a document may hold it where nobody looks.
-/

namespace Groundwork

/-- How a YAML scalar is written, as far as it matters for its meaning. -/
inductive ScalarStyle where
  | plain
  | literal
  | quoted
  deriving DecidableEq, Repr

/-- A YAML scalar. -/
structure Scalar where
  style : ScalarStyle
  tag : Option String
  text : String
  deriving DecidableEq, Repr

/-- A value in a document.  An `alias` stands for the anchored value of that number. -/
inductive Node where
  | null
  | bool (b : Bool)
  | integer (n : Int)
  | decimal (x : Float)
  | text (s : String)
  | scalar (s : Scalar)
  | list (items : List Node)
  | table (entries : List (Node × Node))
  | alias (anchor : Nat)
  | unreadable
  deriving Inhabited

/-- A document: its outermost value and the values that aliases stand for. -/
structure Document where
  root : Node
  anchors : Array Node

end Groundwork
