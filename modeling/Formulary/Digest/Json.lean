import Formulary.Digest
import Formulary.Json.Fields

/-!
# Digests in JSON

A digest is written as the string of its text, and read from any string that denotes it.
-/

namespace Formulary.Digest

/-- The JSON value of a digest. -/
def toJson (d : Digest) : Json :=
  .string d.toText

/-- The digest that a value is. -/
def ofWritten? (w : Json.Written) : Option Digest := do
  let text ← w.text?
  (ofText text).toOption

end Formulary.Digest
