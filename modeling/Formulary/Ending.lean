/-!
# How programs end

A program says how it went by its exit code, and what was wrong on a line among its errors. Only one
that breaks off, because it has come to something that it cannot go on after, says nothing.
-/

namespace Formulary

/-- How a program ends: its exit code, and what it writes among the errors. -/
structure Ending where
  code : Nat
  errors : String
  deriving DecidableEq

namespace Ending

/-- The line that tells of an error. -/
def errorLine (message : String) : String :=
  "Error: " ++ message ++ "\n"

/-- All is well. -/
def well : Ending := ⟨0, ""⟩

/-- Something went wrong that is told. -/
def failed (code : Nat) (message : String) : Ending :=
  ⟨code, errorLine message⟩

/-- The program broke off. -/
def brokenOff : Ending := ⟨101, ""⟩

end Ending

end Formulary
