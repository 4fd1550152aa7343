import Groundwork.Yaml.Tree

/-!
# Anchors and aliases

Each anchor gets a number where its value starts: the number of names that were in use before.  A
name that is used again gets a new number, and a number that is given out again belongs to the
value that got it last.  An alias stands for the number that its name has at that point.
-/

namespace Groundwork.Yaml

/-- The anchors met so far. -/
structure Anchors where
  /-- The number of each name. -/
  numbers : List (String × Nat)
  /-- The values with their numbers, in the order in which they start. -/
  values : Array (Nat × Node)

namespace Anchors

def empty : Anchors := ⟨[], #[]⟩

/-- Gives a name its number, before the value is known. -/
def declare (a : Anchors) (name : String) : Anchors where
  numbers := (name, a.numbers.length) :: a.numbers.filter (·.1 ≠ name)
  values := a.values.push (a.numbers.length, .unreadable)

/-- Gives the value of the anchor that was declared as the one at `index`. -/
def define (a : Anchors) (index : Nat) (value : Node) : Anchors :=
  { a with values := a.values.modify index fun (number, _) => (number, value) }

/-- The value that a number belongs to in the end. -/
def value (a : Anchors) (number : Nat) : Node :=
  match a.values.toList.reverse.lookup number with
  | some n => n
  | none => .unreadable

/-- The values by their numbers. -/
def toArray (a : Anchors) : Array Node :=
  ((List.range (a.numbers.length + 1)).map a.value).toArray

/-- Goes through a value that may have a name. -/
def within (anchor : Option String) (a : Anchors)
    (read : Anchors → Option (Node × Anchors)) : Option (Node × Anchors) :=
  match anchor with
  | none => read a
  | some name => do
    let (n, after) ← read (a.declare name)
    return (n, after.define a.values.size n)

end Anchors

namespace Tree

mutual

/-- The node that a tree stands for; fails at an alias whose name is not in use. -/
def toNode? (a : Anchors) : Tree → Option (Node × Anchors)
  | .alias name => do return (.alias (← a.numbers.lookup name), a)
  | .scalar anchor s => a.within anchor fun a => some (.scalar s, a)
  | .list anchor items => a.within anchor fun a => do
    let (items, a) ← itemsToNodes? a items
    return (.list items, a)
  | .table anchor entries => a.within anchor fun a => do
    let (entries, a) ← entriesToNodes? a entries
    return (.table entries, a)

def itemsToNodes? (a : Anchors) : List Tree → Option (List Node × Anchors)
  | [] => some ([], a)
  | item :: rest => do
    let (item, a) ← item.toNode? a
    let (rest, a) ← itemsToNodes? a rest
    return (item :: rest, a)

def entriesToNodes? (a : Anchors) : List (Tree × Tree) → Option (List (Node × Node) × Anchors)
  | [] => some ([], a)
  | (key, value) :: rest => do
    let (key, a) ← key.toNode? a
    let (value, a) ← value.toNode? a
    let (rest, a) ← entriesToNodes? a rest
    return ((key, value) :: rest, a)

end

/-- The document that a tree stands for. -/
def toDocument? (t : Tree) : Option Document := do
  let (root, a) ← t.toNode? .empty
  return ⟨root, a.toArray⟩

end Tree

end Groundwork.Yaml
