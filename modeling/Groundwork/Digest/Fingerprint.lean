import Groundwork.Digest.Blake3
import Groundwork.Json.Printer

/-!
# Fingerprints

The hash of a text, and of a JSON value by its compact text.
-/

namespace Groundwork

/-- The hash of a text, with the name of the hash function before it. -/
def hashText (s : String) : String :=
  "blake3:" ++ Blake3.hex s.toUTF8

/-- The hash of a JSON value: of its text without blanks. -/
def hashJson (value : Json) : String := hashText value.compact

end Groundwork
