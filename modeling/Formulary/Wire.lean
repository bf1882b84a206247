import Formulary.Json

/-!
# Messages

What a client and a server say to each other, one JSON object a line: a request names a method and
gives its parameters, and is answered by a result or an error. Digests travel as text and trees as
free JSON values, so a client needs to know nothing of either. The lines of a transcript are
messages too.

`Formulary.Wire.Write` and `Formulary.Wire.Read` hold their JSON forms.
-/

namespace Formulary.Wire

/-- The names of the methods. -/
def testOutput : String := "test_output"

@[inherit_doc testOutput] def check : String := "check"

@[inherit_doc testOutput] def createEntry : String := "create_interchange_entry_parse"

@[inherit_doc testOutput] def getEntry : String := "get_interchange_entry"

@[inherit_doc testOutput] def awaitEntry : String := "await_interchange_entry"

@[inherit_doc testOutput] def listEntries : String := "list_interchange_entries"

/-- A request to run a method. -/
structure Request where
  /-- The number by which the answer refers to the request. -/
  id : Nat
  method : String
  /-- The parameters, null if there are none. -/
  params : Json

/-- The answer to a request that succeeded. -/
structure Response where
  id : Nat
  result : Json

/-- What went wrong with a request. -/
structure ErrorObject where
  code : Int
  message : String
  data : Option Json

/-- The answer to a request that failed. -/
structure ErrorResponse where
  id : Nat
  error : ErrorObject

/-- A line that a server writes. -/
inductive ServerMessage
  | error (response : ErrorResponse)
  | response (response : Response)

/-- The number of the request that a message answers. -/
def ServerMessage.id : ServerMessage → Nat
  | error r => r.id
  | response r => r.id

/-- The parameters of the methods that look at a program. -/
structure TestOutputParams where
  source : String
  deriving DecidableEq

/-- The result of checking a program: its canonical text, or why and at which stage it was
    rejected. -/
structure CheckResult where
  accepted : Bool
  canonical : Option String
  error : Option String
  stage : Option String
  deriving DecidableEq

/-- The parameters of the method that stores a program. -/
structure CreateEntryParams where
  source : String
  /-- The texts of the digests of the operands. -/
  operands : List String
  deriving DecidableEq

/-- The parameters of the methods that fetch an entry: the text of a digest, alone or in an
    object. -/
inductive EntryRef
  | bare (hash : String)
  | named (hash : String)
  deriving DecidableEq

/-- The text of the digest. -/
def EntryRef.hash : EntryRef → String
  | bare hash => hash
  | named hash => hash

/-- An entry as it is sent. -/
structure EntryRecord where
  hash : String
  operator : String
  /-- The tree of the entry. -/
  parsed : Json
  operands : List String

/-- The line of a transcript for a command. -/
structure CommandLog where
  timestamp : String
  command : String
  deriving DecidableEq

/-- The line of a transcript for an output. -/
structure OutputLog where
  timestamp : String
  output : String
  deriving DecidableEq

end Formulary.Wire
