import TritPuzzle.CommandLine.Grammar

/-!
# Invocations

What the program is asked to do.  The configuration file and verbosity may be
given before or after the command; of two configuration files the one after the
command counts.

## Main definitions

* `Command` — the commands and their arguments.
* `Invocation.read` — the invocation that a list of arguments is.
-/

namespace TritPuzzle.CommandLine

/-- What the program is asked to do. -/
inductive Command where
  /-- Print the truth tables. -/
  | overview
  /-- List the catalog. -/
  | list
  /-- Show a puzzle, perhaps in JSON. -/
  | display (name : String) (json : Bool)
  /-- Fill a puzzle and check it. -/
  | check (name values operators : String)
  /-- Play a puzzle. -/
  | play (name : Option String)
  /-- Check the catalog. -/
  | test
  deriving DecidableEq, Repr

/-- A command with what may accompany every command. -/
structure Invocation where
  /-- The configuration file. -/
  config : Option String
  /-- Report what the program does. -/
  verbose : Bool
  /-- The command. -/
  command : Command
  deriving DecidableEq, Repr

/-- The names of the commands. -/
def commandNames : List String := ["list", "show", "check", "play", "test"]

/-- What may be given before a command. -/
def topGrammar : Grammar where
  flags := [.help, .version, .verbose]
  options := ["config"]
  operands := 0
  commands := "help" :: commandNames

/-- What may be given after a command that takes the given options, operands and
flags. -/
def commandGrammar (options : List String) (operands : Nat) (flags : List Flag) : Grammar where
  flags := .help :: .verbose :: flags
  options := "config" :: options
  operands := operands
  commands := []

/-- The operand that a command needs. -/
def requiredOperand (name : String) (given : Given) : Except Stop String :=
  match given.operands with
  | s :: _ => .ok s
  | [] => .error (.misuse (.missingOperand name))

/-- What a request for help leads to.  Its topic is a command, and no command has a
topic below it. -/
def helpStop : List String → Stop
  | [] => .help
  | topic :: rest =>
    if topGrammar.commands.contains topic then
      match rest with
      | [] => .help
      | below :: _ => .misuse (.unexpected below)
    else .misuse (.unexpected topic)

/-- A command with the arguments after its name. -/
def Command.read (name : String) (arguments : List String) : Except Stop (Given × Command) :=
  match name with
  | "list" => do
    let (given, _) ← (commandGrammar [] 0 []).read .nothing arguments
    return (given, .list)
  | "show" => do
    let (given, _) ← (commandGrammar [] 1 [.json]).read .nothing arguments
    return (given, .display (← requiredOperand "NAME" given) (given.flags.contains .json))
  | "check" => do
    let (given, _) ← (commandGrammar ["values", "ops"] 1 []).read .nothing arguments
    return (given, .check (← requiredOperand "NAME" given)
      ((given.options.lookup "values").getD "") ((given.options.lookup "ops").getD ""))
  | "play" => do
    let (given, _) ← (commandGrammar [] 1 []).read .nothing arguments
    return (given, .play given.operands.head?)
  | "test" => do
    let (given, _) ← (commandGrammar [] 0 []).read .nothing arguments
    return (given, .test)
  | "help" => .error (helpStop arguments)
  | _ => .error (.misuse (.unexpected name))

/-- The invocation that a list of arguments is. -/
def Invocation.read (arguments : List String) : Except Stop Invocation := do
  let (before, rest) ← topGrammar.read .nothing arguments
  let (after, command) ←
    match rest with
    | [] => .ok (Given.nothing, Command.overview)
    | name :: rest => Command.read name rest
  return {
    config := (after.options.lookup "config").or (before.options.lookup "config")
    verbose := after.flags.contains .verbose || before.flags.contains .verbose
    command }

end TritPuzzle.CommandLine
