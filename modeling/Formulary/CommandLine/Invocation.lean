import Formulary.CommandLine.Grammar

/-!
# What the arguments ask for

The program has four commands, and a settings file may be named before or after the command.
-/

namespace Formulary.CommandLine

/-- Where a program is to be taken from. -/
inductive Source
  | file (path : String)
  | text (content : String)
  | nowhere
  deriving DecidableEq

/-- A command with its arguments. -/
inductive Command
  | check (source : Source)
  | create (source : Source) (operands : List String)
  | get (hash : String) (wait : Bool)
  | list
  deriving DecidableEq

/-- All that the arguments say. -/
structure Invocation where
  /-- The path of the settings file. -/
  config : Option String
  command : Command
  deriving DecidableEq

/-- The paths of the files that an invocation names. -/
def Invocation.paths (asked : Invocation) : List String :=
  let source :=
    match asked.command with
    | .check (.file path) | .create (.file path) _ => [path]
    | _ => []
  asked.config.toList ++ source

/-- The switch that names a settings file. -/
def configSwitch : Switch := ⟨"config", none, .value⟩

/-- The switch that asks for an explanation. -/
def helpSwitch : Switch := ⟨"help", some 'h', .help⟩

/-- The switches that every command has. -/
def commonSwitches : List Switch := [configSwitch, helpSwitch]

/-- The switches that say where a program is. -/
def sourceSwitches : List Switch := [⟨"file", some 'f', .value⟩, ⟨"content", some 'c', .value⟩]

/-- The name of the command that explains others. -/
def helpCommand : String := "help"

/-- The grammars of the commands, by name. -/
def commands : List (String × Grammar) := [
  ("check", ⟨sourceSwitches ++ commonSwitches, 0, []⟩),
  ("create", ⟨sourceSwitches ++ [⟨"arg", none, .values⟩] ++ commonSwitches, 0, []⟩),
  ("get", ⟨⟨"wait", none, .flag⟩ :: commonSwitches, 1, []⟩),
  ("list", ⟨commonSwitches, 0, []⟩)]

/-- The grammar of the arguments up to the name of a command. -/
def rootGrammar : Grammar :=
  ⟨⟨"version", some 'V', .version⟩ :: commonSwitches, 0, commands.map Prod.fst ++ [helpCommand]⟩

/-- Where the switches say that a program is. -/
def sourceOf (found : Found) : Except Stop Source :=
  match found.value? "file", found.value? "content" with
  | some _, some _ => .error .misused
  | some path, none => .ok (.file path)
  | none, some content => .ok (.text content)
  | none, none => .ok .nowhere

/-- The command of a name with what was found of its arguments. -/
def commandOf (name : String) (found : Found) : Except Stop Command :=
  match name with
  | "check" => do .ok (.check (← sourceOf found))
  | "create" => do .ok (.create (← sourceOf found) (found.values "arg"))
  | "get" =>
    match found.words with
    | [hash] => .ok (.get hash (found.has "wait"))
    | _ => .error .misused
  | _ => .ok .list

/-- The end of arguments that ask for an explanation of some command. -/
def explain (names : List String) : Stop :=
  match names with
  | [] => .help
  | [name] => if rootGrammar.subcommands.contains name then .help else .misused
  | _ => .misused

/-- What the arguments ask for. Of two settings files the one that is named later counts. -/
def invocation (arguments : List String) : Except Stop Invocation := do
  let (before, rest) ← scan rootGrammar .nothing .anything arguments
  match rest with
  | none => .error .misused
  | some (name, args) =>
    match commands.lookup name with
    | none => .error (explain args)
    | some grammar => do
      let (found, _) ← scan grammar .nothing .anything args
      let command ← commandOf name found
      before.checkOnce rootGrammar
      .ok ⟨found.value? "config" <|> before.value? "config", command⟩

end Formulary.CommandLine
