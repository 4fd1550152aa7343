/-!
# JSON values

The values that this library writes.  The fields of an object keep their order.
-/

namespace Groundwork

/-- A JSON value. -/
inductive Json where
  | null
  | bool (b : Bool)
  | int (n : Int)
  | float (x : Float)
  | text (s : String)
  | list (items : List Json)
  | object (fields : List (String × Json))
  deriving Inhabited

namespace Json

/-- A list of texts. -/
def texts (items : List String) : Json := list (items.map text)

/-- A text, or `null` for none. -/
def textOrNull : Option String → Json
  | some s => text s
  | none => null

/-- Puts a field at the end of an object; a field of that name is replaced in its place. -/
def setField (fields : List (String × Json)) (name : String) (value : Json) :
    List (String × Json) :=
  if fields.any (·.1 = name) then
    fields.map fun field => if field.1 = name then (name, value) else field
  else
    fields ++ [(name, value)]

end Json

end Groundwork
