import Groundwork.Document.Node

/-!
# Tokens

A document between its text and its tree: the words, the brackets and the marks, together with the
brackets that indentation stands for.
-/

namespace Groundwork.Yaml

/-- A token. -/
inductive Token where
  /-- The line `%YAML`. -/
  | version (major minor : Nat)
  /-- The line `%TAG`, which says what a handle stands for. -/
  | handle (name stem : String)
  | documentStart
  | documentEnd
  /-- A list by indentation starts. -/
  | blockList
  /-- A table by indentation starts. -/
  | blockTable
  | blockEnd
  | listOpen
  | listClose
  | tableOpen
  | tableClose
  /-- The dash before an item. -/
  | item
  | comma
  | key
  | value
  | alias (name : String)
  | anchor (name : String)
  | tag (handle suffix : String)
  | scalar (style : ScalarStyle) (text : String)
  deriving DecidableEq, Repr

end Groundwork.Yaml
