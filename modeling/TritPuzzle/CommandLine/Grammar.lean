/-!
# The grammar of arguments

The arguments of a command are flags, options with a value, and operands.  An
argument `--` makes operands of all that follow it.  The value of an option
either follows an equals sign or is the next argument, which then must not look
like a flag.  A flag or an option is given at most once.

## Main definitions

* `Grammar` — the flags, options, operands and subcommands of one level.
* `Word.ofArgument` — the four looks of an argument.
* `Grammar.read` — the arguments of one level, up to its subcommand.
-/

namespace TritPuzzle.CommandLine

/-- A flag. -/
inductive Flag where
  /-- Show how the program is used. -/
  | help
  /-- Show the version of the program. -/
  | version
  /-- Report what the program does. -/
  | verbose
  /-- Print JSON. -/
  | json
  deriving DecidableEq, Repr

/-- The long name of a flag. -/
def Flag.name : Flag → String
  | .help => "help"
  | .version => "version"
  | .verbose => "verbose"
  | .json => "json"

/-- The letter of a flag, if it has one. -/
def Flag.letter? : Flag → Option Char
  | .help => some 'h'
  | .version => some 'V'
  | .verbose => some 'v'
  | .json => none

/-- Why the arguments are not understood. -/
inductive Misuse where
  /-- The argument has no meaning here. -/
  | unexpected (argument : String)
  /-- The option has no value. -/
  | missingValue (option : String)
  /-- The flag or option is given twice. -/
  | repeated (name : String)
  /-- An operand is missing. -/
  | missingOperand (name : String)
  deriving DecidableEq, Repr

/-- The message for arguments that are not understood. -/
def Misuse.message : Misuse → String
  | .unexpected argument => "error: unexpected argument '" ++ argument ++ "' found"
  | .missingValue option => "error: a value is required for '--" ++ option ++ "'"
  | .repeated name => "error: the argument '--" ++ name ++ "' cannot be used multiple times"
  | .missingOperand name => "error: the required argument <" ++ name ++ "> was not provided"

/-- Why no command is carried out. -/
inductive Stop where
  /-- The usage is asked for. -/
  | help
  /-- The version is asked for. -/
  | version
  /-- The arguments are not understood. -/
  | misuse (cause : Misuse)
  deriving DecidableEq, Repr

/-- What may be given at one level of the arguments. -/
structure Grammar where
  /-- The flags. -/
  flags : List Flag
  /-- The names of the options with a value. -/
  options : List String
  /-- The largest number of operands. -/
  operands : Nat
  /-- The subcommands. -/
  commands : List String
  deriving DecidableEq, Repr

/-- What was given at one level of the arguments. -/
structure Given where
  /-- The flags. -/
  flags : List Flag
  /-- The options with their values. -/
  options : List (String × String)
  /-- The operands in order. -/
  operands : List String
  deriving DecidableEq, Repr

/-- Nothing given. -/
def Given.nothing : Given := { flags := [], options := [], operands := [] }

/-! ### The looks of an argument -/

/-- The looks of an argument. -/
inductive Word where
  /-- The argument `--`. -/
  | separator
  /-- A long name, perhaps with a value after an equals sign. -/
  | long (name : String) (value : Option String)
  /-- Letters after one hyphen. -/
  | letters (cs : List Char)
  /-- Anything else. -/
  | plain (s : String)
  deriving DecidableEq, Repr

/-- The name and the value in a long argument. -/
def Word.ofLong (cs : List Char) : Word :=
  let name := String.ofList (cs.takeWhile (· ≠ '='))
  match cs.dropWhile (· ≠ '=') with
  | [] => .long name none
  | _ :: value => .long name (some (String.ofList value))

/-- The look of an argument.  A single hyphen is a plain word. -/
def Word.ofArgument (s : String) : Word :=
  match s.toList with
  | ['-', '-'] => .separator
  | '-' :: '-' :: cs => Word.ofLong cs
  | '-' :: c :: cs => .letters (c :: cs)
  | _ => .plain s

/-- Can the argument be the value of the option before it? -/
def Word.isPlain : Word → Bool
  | .plain _ => true
  | _ => false

/-! ### Reading -/

namespace Given

/-- One more flag.  A flag that asks for information stops the reading. -/
def addFlag (g : Given) (f : Flag) : Except Stop Given :=
  match f with
  | .help => .error .help
  | .version => .error .version
  | f =>
    if g.flags.contains f then .error (.misuse (.repeated f.name))
    else .ok { g with flags := f :: g.flags }

/-- One more option. -/
def addOption (g : Given) (name value : String) : Except Stop Given :=
  if (g.options.lookup name).isSome then .error (.misuse (.repeated name))
  else .ok { g with options := (name, value) :: g.options }

end Given

namespace Grammar

/-- One more operand, if there may be another one. -/
def addOperand (g : Grammar) (given : Given) (s : String) : Except Stop Given :=
  if given.operands.length < g.operands then
    .ok { given with operands := given.operands ++ [s] }
  else .error (.misuse (.unexpected s))

/-- One more letter, which has to be that of a flag. -/
def addLetter (g : Grammar) (given : Given) (c : Char) : Except Stop Given :=
  match g.flags.find? (·.letter? = some c) with
  | some f => given.addFlag f
  | none => .error (.misuse (.unexpected (String.ofList ['-', c])))

/-- Reads the arguments of one level.  The rest that is returned begins with a
subcommand, unless it is empty. -/
def read (g : Grammar) (given : Given) : List String → Except Stop (Given × List String)
  | [] => .ok (given, [])
  | argument :: rest =>
    match Word.ofArgument argument with
    | .separator => do return (← rest.foldlM g.addOperand given, [])
    | .plain s =>
      if g.commands.contains s then .ok (given, argument :: rest)
      else do g.read (← g.addOperand given s) rest
    | .letters cs => do g.read (← cs.foldlM g.addLetter given) rest
    | .long name (some value) =>
      if g.options.contains name then do g.read (← given.addOption name value) rest
      else .error (.misuse (.unexpected argument))
    | .long name none =>
      if g.options.contains name then
        match rest with
        | [] => .error (.misuse (.missingValue name))
        | value :: rest' =>
          if (Word.ofArgument value).isPlain then do g.read (← given.addOption name value) rest'
          else .error (.misuse (.missingValue name))
      else
        match g.flags.find? (·.name = name) with
        | some f => do g.read (← given.addFlag f) rest
        | none => .error (.misuse (.unexpected argument))

end Grammar

end TritPuzzle.CommandLine
