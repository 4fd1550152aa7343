import Groundwork.Document.Node
import Groundwork.Json.Basic

/-!
# JSON values as documents

A JSON value that is written can be read again without going through its text.  JSON has no
infinities and no value that is not a number; where one would be written there is `null`.
-/

namespace Groundwork.Json

mutual

/-- The document that a JSON value is. -/
def toNode : Json → Node
  | null => .null
  | bool b => .bool b
  | int n => .integer n
  | float x => if x.isFinite then .decimal x else .null
  | text s => .text s
  | list items => .list (toNodes items)
  | object fields => .table (toEntries fields)

/-- The documents that items are. -/
def toNodes : List Json → List Node
  | [] => []
  | item :: rest => item.toNode :: toNodes rest

/-- The entries of a table that fields are. -/
def toEntries : List (String × Json) → List (Node × Node)
  | [] => []
  | (name, value) :: rest => (.text name, value.toNode) :: toEntries rest

end

theorem toNodes_eq_map (items : List Json) : toNodes items = items.map toNode := by
  induction items with
  | nil => rfl
  | cons item rest ih => rw [toNodes, ih, List.map_cons]

theorem toEntries_eq_map (fields : List (String × Json)) :
    toEntries fields = fields.map fun field => (.text field.1, field.2.toNode) := by
  induction fields with
  | nil => rfl
  | cons field rest ih => rw [toEntries, ih, List.map_cons]

end Groundwork.Json
