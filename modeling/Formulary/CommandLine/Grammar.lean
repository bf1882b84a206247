/-!
# Grammars of arguments

The arguments of a command are words and switches. A switch is named by a word after two hyphens or
by a letter after one, and some take a value, which is the next argument or is attached to the
switch. After an argument of two hyphens alone all are words. A grammar says which switches and how
many words a command knows, and which subcommands: the name of one ends the arguments of the command
itself.

Arguments are read one by one (`scan`). What stops the reading first decides what becomes of them
all.
-/

namespace Formulary.CommandLine

/-- What a switch does. -/
inductive Kind
  /-- Takes a value, once. -/
  | value
  /-- Takes a value each time that it is given. -/
  | values
  /-- Is given or not. -/
  | flag
  | help
  | version
  deriving DecidableEq

/-- A switch, with the letter that it may be given by. -/
structure Switch where
  name : String
  letter : Option Char
  kind : Kind

/-- What a command understands. -/
structure Grammar where
  switches : List Switch
  /-- The number of words at most. -/
  words : Nat
  subcommands : List String

/-- Why arguments lead to no command. -/
inductive Stop
  /-- They are not understood. -/
  | misused
  /-- They ask for an explanation only. -/
  | help
  /-- They ask for the version only. -/
  | version
  deriving DecidableEq

/-- The switches, with their values, and the words that were found, in order. -/
structure Found where
  switches : List (String × String)
  words : List String

namespace Found

/-- Nothing was found. -/
def nothing : Found := ⟨[], []⟩

/-- The value of a switch. -/
def value? (found : Found) (name : String) : Option String :=
  found.switches.lookup name

/-- All values of a switch. -/
def values (found : Found) (name : String) : List String :=
  (found.switches.filter (·.1 = name)).map Prod.snd

/-- Whether a switch was given. -/
def has (found : Found) (name : String) : Bool :=
  (found.value? name).isSome

/-- Adds a switch with its value. -/
def addSwitch (found : Found) (switch : Switch) (value : String) : Found :=
  { found with switches := found.switches ++ [(switch.name, value)] }

/-- Every switch must stand there once at most, unless it collects values. -/
def checkOnce (g : Grammar) (found : Found) : Except Stop Unit :=
  if g.switches.all fun s => s.kind = .values || (found.values s.name).length ≤ 1 then .ok ()
  else .error .misused

/-- Adds a switch with a value attached or with none, and checks that it is the only one. -/
def addWhole (g : Grammar) (found : Found) (switch : Switch) (value : String) :
    Except Stop Found := do
  let found := found.addSwitch switch value
  found.checkOnce g
  .ok found

/-- Adds a word, if the grammar allows one more. -/
def addWord (g : Grammar) (found : Found) (word : String) : Except Stop Found :=
  if found.words.length < g.words then .ok { found with words := found.words ++ [word] }
  else .error .misused

end Found

/-- What the next argument is. -/
inductive Expecting
  | anything
  /-- The value of a switch. -/
  | valueOf (switch : Switch)
  /-- A word, whatever it looks like. -/
  | word

/-- Reads what stands after one hyphen: letters of switches, of which the last may have its value
    attached, with an equals sign or without. -/
def letters (g : Grammar) (found : Found) : List Char → Except Stop (Found × Expecting)
  | [] => .ok (found, .anything)
  | c :: cs =>
    match g.switches.find? fun s => s.letter = some c with
    | none => .error .misused
    | some switch =>
      match switch.kind with
      | .help => .error .help
      | .version => .error .version
      | .flag => do letters g (← found.addWhole g switch "") cs
      | .value | .values =>
        match cs with
        | [] => .ok (found, .valueOf switch)
        | '=' :: value => do .ok (← found.addWhole g switch (String.ofList value), .anything)
        | value => do .ok (← found.addWhole g switch (String.ofList value), .anything)

/-- Reads what stands after two hyphens: the name of a switch, with a value after an equals sign. -/
def longSwitch (g : Grammar) (found : Found) (cs : List Char) : Except Stop (Found × Expecting) :=
  let name := String.ofList (cs.takeWhile (· ≠ '='))
  let attached :=
    match cs.dropWhile (· ≠ '=') with
    | [] => none
    | _ :: value => some (String.ofList value)
  match g.switches.find? fun s => s.name = name with
  | none => .error .misused
  | some switch =>
    match switch.kind, attached with
    | .value, none | .values, none => .ok (found, .valueOf switch)
    | .value, some v | .values, some v => do .ok (← found.addWhole g switch v, .anything)
    | .flag, none => do .ok (← found.addWhole g switch "", .anything)
    | .help, none => .error .help
    | .version, none => .error .version
    | _, some _ => .error .misused

/-- Whether an argument looks like a switch. A hyphen alone is a word. -/
def looksLikeSwitch : List Char → Bool
  | '-' :: _ :: _ => true
  | _ => false

/-- Reads arguments up to the name of a subcommand; gives that name, if there is one, and the
    arguments after it. A switch whose value is an argument of its own is checked with what comes
    next, so the name of a subcommand may follow before the check. -/
def scan (g : Grammar) (found : Found) :
    Expecting → List String → Except Stop (Found × Option (String × List String))
  | .valueOf _, [] => .error .misused
  | _, [] => do
    found.checkOnce g
    .ok (found, none)
  | .valueOf switch, arg :: args =>
    if looksLikeSwitch arg.toList then .error .misused
    else scan g (found.addSwitch switch arg) .anything args
  | .word, arg :: args => do scan g (← found.addWord g arg) .word args
  | .anything, arg :: args =>
    if g.subcommands.contains arg then .ok (found, some (arg, args))
    else do
      found.checkOnce g
      match arg.toList with
      | ['-', '-'] => scan g found .word args
      | '-' :: '-' :: cs => do
        let (found, expecting) ← longSwitch g found cs
        scan g found expecting args
      | '-' :: c :: cs => do
        let (found, expecting) ← letters g found (c :: cs)
        scan g found expecting args
      | _ => do scan g (← found.addWord g arg) .anything args

end Formulary.CommandLine
