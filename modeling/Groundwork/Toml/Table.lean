import Groundwork.Document.Node

/-!
# Tables in the making

A document says the entries of its tables one by one: under headers, which name a table or a row of
a list of tables, and with keys of several parts.  Each table is declared once, and it matters how a
table came to be: one that only appears within a longer header can still be declared, one made by
keys of several parts can only get more such keys, and a declared one is closed to them.

Main definitions: `Item`, `Entries.assign`, and `Entries.addSection`.
-/

namespace Groundwork.Toml

/-- How a table came to be. -/
inductive Origin where
  /-- By a header of its own. -/
  | declared
  /-- Within a longer header. -/
  | implied
  /-- By keys of several parts. -/
  | dotted
  deriving DecidableEq, Repr

/-- What stands under a key. -/
inductive Item where
  | value (n : Node)
  | table (origin : Origin) (entries : List (String × Item))
  | rows (tables : List (List (String × Item)))
  deriving Inhabited

/-- The entries of a table, in order. -/
abbrev Entries := List (String × Item)

/-- A key of one or more parts with its value. -/
structure Assignment where
  path : List String
  key : String
  value : Node

/-- A header. -/
structure Header where
  /-- Whether it starts another row of a list of tables. -/
  isRow : Bool
  path : List String
  key : String

/-- A header with the assignments under it. -/
structure Section where
  header : Header
  assignments : List Assignment

namespace Entries

/-- The entries with the item under a key replaced, or added at the end. -/
def put (key : String) (item : Item) : Entries → Entries
  | [] => [(key, item)]
  | (k, old) :: rest => if k = key then (k, item) :: rest else (k, old) :: put key item rest

/-- Changes the last row. -/
def changeLast? (change : Entries → Option Entries) (tables : List Entries) :
    Option (List Entries) := do
  let last ← tables.getLast?
  return tables.dropLast ++ [← change last]

/-- Whether a key that goes through a table of that origin may do so; `isLast` says that the key
ends there. -/
def admits (origin : Origin) (isLast : Bool) : Bool :=
  match origin with
  | .declared => false
  | .implied => !isLast
  | .dotted => true

/-- Adds a value under a key in the table to which a path leads.  The tables on the path are made
where they are missing.  No key gets two values. -/
def assign (key : String) (value : Node) : List String → Entries → Option Entries
  | [], es => if (es.lookup key).isSome then none else some (es ++ [(key, .value value)])
  | step :: path, es =>
    match es.lookup step with
    | none => do return es ++ [(step, .table .dotted (← assign key value path []))]
    | some (.table origin inner) =>
      if admits origin path.isEmpty then do
        return put step (.table origin (← assign key value path inner)) es
      else none
    | some (.rows tables) =>
      if path.isEmpty then none
      else do return put step (.rows (← changeLast? (assign key value path) tables)) es
    | some (.value _) => none

/-- Adds assignments in order. -/
def fill (es : Entries) (assignments : List Assignment) : Option Entries :=
  assignments.foldlM (fun es a => assign a.key a.value a.path es) es

/-- Changes the table to which the path of a header leads; of rows it is the last.  The tables on
the path are made where they are missing. -/
def changeWithin (change : Entries → Option Entries) : List String → Entries → Option Entries
  | [], es => change es
  | step :: path, es =>
    match es.lookup step with
    | none => do return es ++ [(step, .table .implied (← changeWithin change path []))]
    | some (.table origin inner) => do
      return put step (.table origin (← changeWithin change path inner)) es
    | some (.rows tables) => do
      return put step (.rows (← changeLast? (changeWithin change path) tables)) es
    | some (.value _) => none

/-- Declares a table, which goes to the end; it may have been within a longer header before. -/
def addTable (key : String) (assignments : List Assignment) (es : Entries) : Option Entries := do
  let before ← match es.lookup key with
    | none => some []
    | some (.table .implied inner) => some inner
    | some _ => none
  let inner ← fill before assignments
  return es.filter (·.1 ≠ key) ++ [(key, .table .declared inner)]

/-- Adds a row to a list of tables. -/
def addRow (key : String) (assignments : List Assignment) (es : Entries) : Option Entries := do
  let before ← match es.lookup key with
    | none => some []
    | some (.rows tables) => some tables
    | some _ => none
  let row ← fill [] assignments
  return put key (.rows (before ++ [row])) es

/-- Adds what stands under a header. -/
def addSection (es : Entries) (s : Section) : Option Entries :=
  let add := if s.header.isRow then addRow else addTable
  changeWithin (add s.header.key s.assignments) s.header.path es

end Entries

mutual

/-- The value of an item. -/
def Item.toNode : Item → Node
  | .value n => n
  | .table _ entries => .table (entriesToNodes entries)
  | .rows tables => .list (rowsToNodes tables)

/-- The entries of a table with their values. -/
def entriesToNodes : List (String × Item) → List (Node × Node)
  | [] => []
  | (key, item) :: rest => (.text key, item.toNode) :: entriesToNodes rest

/-- The values of rows. -/
def rowsToNodes : List (List (String × Item)) → List Node
  | [] => []
  | entries :: rest => .table (entriesToNodes entries) :: rowsToNodes rest

end

/-- Putting an item under a key makes it the one found there. -/
@[simp] theorem Entries.lookup_put (key : String) (item : Item) (es : Entries) :
    (Entries.put key item es).lookup key = some item := by
  induction es with
  | nil => simp [Entries.put]
  | cons e rest ih =>
    obtain ⟨k, old⟩ := e
    by_cases h : k = key
    · simp [Entries.put, h]
    · simp [Entries.put, h, List.lookup_cons, beq_eq_false_iff_ne.mpr (Ne.symm h), ih]

end Groundwork.Toml
