import Groundwork.Document.Scalar

/-!
# How documents give values

The rules by which a node of a document is a text, a number, a list, a record and so on.  The
formats agree on most of them; `Conventions` holds those on which they differ.
-/

namespace Groundwork

/-- Which lists stand for records, their items being the fields in order. -/
inductive ListRecords where
  /-- No list is a record. -/
  | never
  /-- A list may leave out fields at the end. -/
  | complete
  /-- A list may also have further items, which nobody reads. -/
  | leading
  deriving DecidableEq, Repr

/-- The rules on which document formats differ, and the anchored values of a document. -/
structure Conventions where
  listRecords : ListRecords
  /-- Whether a table with one entry may name a choice by its key and carry this value. -/
  isChoicePayload : Node → Bool
  anchors : Array Node

namespace Conventions

/-- JSON: `["a", 1]` is a record, and a choice is also written `{"a": null}`. -/
def json : Conventions where
  listRecords := .complete
  isChoicePayload := fun
    | .null => true
    | _ => false
  anchors := #[]

/-- JSON inside a value whose type is given by a tag: as `json`, and the payload of a choice may
also be an empty table. -/
def tagged : Conventions where
  listRecords := .complete
  isChoicePayload := fun
    | .null => true
    | .table [] => true
    | _ => false
  anchors := #[]

/-- TOML: a list is a record and may be too long, and a choice is also a table with an empty
value. -/
def toml : Conventions where
  listRecords := .leading
  isChoicePayload := fun
    | .list [] => true
    | .table [] => true
    | _ => false
  anchors := #[]

/-- YAML: records are tables, and a choice is a scalar. -/
def yaml (anchors : Array Node) : Conventions where
  listRecords := .never
  isChoicePayload := fun _ => false
  anchors := anchors

variable (c : Conventions)

/-- The value that a node stands for. -/
def follow : Node → Node
  | .alias anchor => c.anchors[anchor]?.getD .unreadable
  | n => n

/-- A text; every YAML scalar is one. -/
def text? (n : Node) : Option String :=
  match c.follow n with
  | .text s => some s
  | .scalar s => some s.text
  | _ => none

/-- A truth value. -/
def truth? (n : Node) : Option Bool :=
  match c.follow n with
  | .bool b => some b
  | .scalar s => s.truth?
  | _ => none

/-- A whole number that is not negative. -/
def natural? (n : Node) : Option Nat :=
  match c.follow n with
  | .integer (.ofNat n) => some n
  | .scalar s => s.natural?
  | _ => none

/-- A float; a whole number is one too. -/
def float? (n : Node) : Option Float :=
  match c.follow n with
  | .decimal x => some x
  | .integer n =>
    let size := Decimal.nearest ⟨n.natAbs, 0⟩
    some (if n < 0 then -size else size)
  | .scalar s => s.float?
  | _ => none

/-- A list; in YAML also a place where nothing was written. -/
def list? (n : Node) : Option (List Node) :=
  match c.follow n with
  | .list items => some items
  | .scalar s => if s.isBlank then some [] else none
  | _ => none

/-- The entries of a table; in YAML also a place where nothing was written. -/
def entries? (n : Node) : Option (List (Node × Node)) :=
  match c.follow n with
  | .table entries => some entries
  | .scalar s => if s.isBlank then some [] else none
  | _ => none

/-- Whether a value is there where one may be left out; `none` if a null tag stands before something
else. -/
def presence? (n : Node) : Option Bool :=
  match c.follow n with
  | .null => some false
  | .scalar s =>
    if s.style ≠ .plain then some true
    else
      match s.tag with
      | some tag =>
        if tag = Scalar.nullTag then if Scalar.isNullWord s.text then some false else none
        else some true
      | none => some (!(s.text.isEmpty || Scalar.isNullWord s.text))
  | _ => some true

/-- The word that picks one of several choices.  In YAML a local tag such as `!flat` can name the
choice, on a scalar that says nothing else. -/
def choice? (n : Node) : Option String :=
  match c.follow n with
  | .text s => some s
  | .scalar s =>
    match s.tag.map String.toList with
    | some ('!' :: rest) =>
      if s.style = .plain && (s.text.isEmpty || Scalar.isNullWord s.text) then
        some (String.ofList (if rest.isEmpty then ['!'] else rest))
      else none
    | _ => some s.text
  | .table [(key, payload)] => if c.isChoicePayload payload then c.text? key else none
  | _ => none

/-- The known fields of a record; each at most once.  Entries with other keys are left out. -/
def knownFields? (names : List String) : List (Node × Node) → Option (List (String × Node))
  | [] => some []
  | (key, value) :: rest => do
    let name ← c.text? key
    let fields ← knownFields? names rest
    if name ∈ names then
      if fields.any (·.1 = name) then none else some ((name, value) :: fields)
    else some fields

/-- The known fields of a record, which is written as a table or, where the format allows it, as a
list of its fields in order. -/
def record? (names : List String) (n : Node) : Option (List (String × Node)) :=
  match c.follow n, c.listRecords with
  | .list items, .complete => if items.length ≤ names.length then some (names.zip items) else none
  | .list items, .leading => some (names.zip items)
  | n, _ => do c.knownFields? names (← c.entries? n)

end Conventions

end Groundwork
