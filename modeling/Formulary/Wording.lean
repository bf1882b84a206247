import Formulary.Bytes

/-!
# The words of other readers

What a text is read as is settled here, but not what is said of a text that cannot be read: the
readers of JSON and of TOML have words of their own for that. They are shown to whoever asked, and
nobody looks at them. So they are a parameter of everything that shows them.
-/

namespace Formulary

/-- What is said of texts that are not what they should be. -/
class Wording where
  /-- Of bytes that are not the JSON of what is wanted, which has a name. -/
  notJson (wanted : String) (b : Bytes) : String
  /-- Of the text of a settings file that is not the TOML of settings. -/
  notToml (text : String) : String

end Formulary
