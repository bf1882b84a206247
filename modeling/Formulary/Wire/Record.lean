import Formulary.Entry
import Formulary.Digest.Json
import Formulary.Expr.Json
import Formulary.Wire

/-!
# Entries as they are sent

An entry travels as a record in which digests are texts and the tree is a free JSON value, its
members in the order of their keys.
-/

namespace Formulary.Wire

/-- An entry, under a digest, as it is sent. -/
def EntryRecord.ofEntry (d : Digest) (entry : Entry) : EntryRecord :=
  ⟨d.toText, entry.operator, entry.parsed.toJson.sorted, entry.operands.map Digest.toText⟩

end Formulary.Wire
