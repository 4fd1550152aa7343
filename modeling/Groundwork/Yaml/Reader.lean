import Groundwork.Yaml.Anchor
import Groundwork.Yaml.Layout

/-!
# Reading YAML text

From characters in their places to tokens, from tokens to a tree, and from the tree to a document.
A text must hold exactly one document.
-/

namespace Groundwork.Yaml

/-- The document that a text writes. -/
def read? (s : String) : Option Document := do
  let tokens ← tokens? (← glyphs? s)
  (← Tree.ofTokens? tokens).toDocument?

end Groundwork.Yaml
