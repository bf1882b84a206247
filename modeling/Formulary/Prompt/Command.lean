import Formulary.Text.Blank

/-!
# Commands at the prompt

A line that starts with a colon is a command: a word, and what stands after it.
-/

namespace Formulary.Prompt

/-- A command. -/
inductive Command
  | create (source : String)
  | get (hash : Option String)
  | wait (hash : Option String)
  | list
  | recordOn (path : String)
  | recordOff
  | help
  | quit
  deriving DecidableEq

/-- Why a line is no command. -/
inductive Command.Fault
  | noSource
  | recordWhat
  | unrecognized (line : String)
  deriving DecidableEq

namespace Command

/-- What is said of a line that is no command. -/
def Fault.message : Fault → String
  | noSource => "Usage: :create <source>"
  | recordWhat => "Usage: :record on <file> | :record off"
  | unrecognized line => "Unrecognized command: " ++ line

/-- The first word of a line and what follows it, blanks around either aside. -/
def split (line : String) : String × String :=
  let cs := (Text.trim line).toList
  (String.ofList (cs.takeWhile (!Text.isBlank ·)),
    Text.trim (String.ofList (cs.dropWhile (!Text.isBlank ·))))

/-- A text, unless it is empty. -/
def unlessEmpty (s : String) : Option String :=
  if s = "" then none else some s

/-- What is to be recorded, given what follows the command. Only the first word after `on`
    counts. -/
def ofRecord (rest : String) : Except Fault Command :=
  match (Text.words rest.toList).map String.ofList with
  | "on" :: path :: _ => .ok (.recordOn path)
  | ["off"] => .ok .recordOff
  | _ => .error .recordWhat

/-- The command that a line is. -/
def ofLine (line : String) : Except Fault Command :=
  let (word, rest) := split line
  match word with
  | ":create" =>
    match unlessEmpty rest with
    | some source => .ok (.create source)
    | none => .error .noSource
  | ":get" => .ok (.get (unlessEmpty rest))
  | ":wait" => .ok (.wait (unlessEmpty rest))
  | ":list" => .ok .list
  | ":record" => ofRecord rest
  | ":help" => .ok .help
  | ":quit" | ":q" => .ok .quit
  | _ => .error (.unrecognized (Text.trim line))

/-- What is shown for help. -/
def helpText : String := "\n".intercalate [
  "Plain lines are checked without being stored.",
  "  :create <source>      store an entry, remembering its hash",
  "  :get [hash]           fetch an entry (defaults to the last created)",
  "  :wait [hash]          like :get, polling until the entry is visible",
  "  :list                 list stored hashes",
  "  :record on <file>     append a JSON-lines transcript to <file>",
  "  :record off           stop recording",
  "  :help                 show this message",
  "  :quit                 leave the REPL"]

end Command

end Formulary.Prompt
