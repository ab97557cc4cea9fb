import TritPuzzle.CommandLine.Fill
import TritPuzzle.CommandLine.Invocation
import TritPuzzle.Player.State
import TritPuzzle.Puzzle.Infix

/-!
# Reports

Every command but playing is answered by a report: the lines for the standard
output, the lines for the error output and an exit code.

## Main definitions

* `Report` — lines and exit code.
* `listReport`, `showReport`, `checkReport`, `testReport`, `overviewReport` — the commands.
* `Invocation.respond` — the answer to an invocation.
-/

namespace TritPuzzle.CommandLine

/-- What a command prints, and its exit code. -/
structure Report where
  /-- The exit code. -/
  code : Nat
  /-- The lines for the standard output. -/
  out : List String
  /-- The lines for the error output. -/
  err : List String
  deriving DecidableEq, Repr

/-- Lines as one text, each with a line break after it. -/
def linesText (lines : List String) : String := String.join (lines.map (· ++ "\n"))

/-- The text for the standard output. -/
def Report.stdout (r : Report) : String := linesText r.out

/-- The text for the error output. -/
def Report.stderr (r : Report) : String := linesText r.err

/-- The report of success. -/
def success (out : List String) : Report := { code := 0, out, err := [] }

/-- The report of a failure with the exit code one. -/
def failure (out : List String) (message : String) : Report :=
  { code := 1, out, err := ["❌ " ++ message] }

/-- A text filled up with blanks to a width. -/
def padded (width : Nat) (s : String) : String :=
  s ++ String.ofList (List.replicate (width - s.length) ' ')

/-! ### The catalog -/

/-- The list of the catalog. -/
def listReport : Report :=
  success ("━━━ Puzzles ━━━" ::
    Catalog.entries.map fun e => "  " ++ padded 24 e.name ++ " " ++ e.description)

/-- The outcome of the self-test for one puzzle; `none` if the designer's fill solves it. -/
def testFault? (e : Catalog.Entry) : Option String :=
  match e.solved with
  | .error err => some err.message
  | .ok t =>
    match t.isSolved with
    | .error err => some err.message
    | .ok true => none
    | .ok false => some "intended solution does not reach the answer"

/-- The self-test: every puzzle is solved by its designer's fill. -/
def testReport : Report :=
  let line (e : Catalog.Entry) : String :=
    padded 24 e.name ++ " " ++
      match testFault? e with
      | none => "✓"
      | some fault => "✗ (" ++ fault ++ ")"
  let failed := (Catalog.entries.filter fun e => (testFault? e).isSome).length
  let passed := Catalog.entries.length - failed
  let out :=
    ["━━━ Ternary Puzzle Self-Test ━━━", ""] ++ Catalog.entries.map line ++
      ["", "━━━━━━━━━━━━━━━━━━━━━━━━━━━━━━",
        "Results: " ++ Text.decimal passed ++ " passed, " ++ Text.decimal failed ++ " failed"]
  if failed = 0 then success (out ++ ["✓ All tests passed!"])
  else { code := 1, out, err := [] }

/-! ### Single puzzles -/

/-- A puzzle with the states of its slots, or its JSON. -/
def showReport (name : String) (json : Bool) : Report :=
  match Catalog.template name with
  | .error e =>
    { code := 1
      out := []
      err := ["❌ " ++ e.message, "   Run `ternary-puzzle list` for available puzzles"] }
  | .ok t =>
    if json then success [t.toJson.pretty]
    else
      success ([t.written true, ""] ++
        t.values.zipIdx.map (fun s =>
          "  " ++ (NodeId.value s.2).text ++ ": " ++ s.1.describe Trit.name) ++
        t.operators.zipIdx.map (fun n =>
          "  " ++ (NodeId.operator n.2).text ++ ": " ++ n.1.slot.describe Operator.name))

/-- The puzzle after a list of events, with the slots that were ignored; the first event
that fails ends the list. -/
def applyAll (t : Template) : List SlotEvent → List NodeId × Except InputError Template
  | [] => ([], .ok t)
  | e :: rest =>
    match t.apply e with
    | .error err => ([], .error err)
    | .ok (.applied _, t') => applyAll t' rest
    | .ok (.ignored id, t') =>
      let r := applyAll t' rest
      (id :: r.1, r.2)

/-- The line for an ignored slot. -/
def ignoredLine (id : NodeId) : String := "⚠️  " ++ id.text ++ " is locked, input ignored"

/-- The report on a filled puzzle, after the given lines. -/
def verdictReport (config : ScoringConfig) (out : List String) (t : Template) : Report :=
  let out := out ++ [t.written false]
  match (Scorer.new config).submit t with
  | .error e => failure out e.message
  | .ok (.correct, _) => success (out ++ ["✓ Correct!"])
  | .ok (.incorrect result _ _, _) =>
    { code := 1
      out := out ++
        ["✗ Incorrect: left side is " ++ result.text ++ ", expected " ++ t.answer.text]
      err := [] }
  | .ok (.incomplete e, _) =>
    { code := 2, out := out ++ ["… Incomplete: " ++ e.message], err := [] }

/-- A puzzle filled with the given values and operators, and whether that solves it. -/
def checkReport (config : ScoringConfig) (name values operators : String) : Report :=
  match Catalog.template name with
  | .error e => failure [] e.message
  | .ok t =>
    match readFill values operators with
    | .error e => failure [] e.message
    | .ok events =>
      match applyAll t events with
      | (ignored, .error e) => failure (ignored.map ignoredLine) e.message
      | (ignored, .ok t') => verdictReport config (ignored.map ignoredLine) t'

/-! ### Truth tables -/

/-- One row of the truth table of an operator with two operands. -/
def tableRow (op : Operator) (a : Trit) : String :=
  "      " ++ a.text ++ " |" ++ String.join (Trit.all.map fun b =>
    " " ++ ((op.apply a (some b)).map Trit.text).getD "?")

/-- The truth table of an operator with two operands. -/
def tableLines (op : Operator) : List String :=
  ["", "  " ++ padded 5 op.keyword ++ " | 0 1 2", "  ------+------"] ++ Trit.all.map (tableRow op)

/-- The truth tables of all operators. -/
def overviewReport : Report :=
  success (
    ["Ternary Puzzle v0.1.0", "Expression puzzles over three-valued logic", "",
      "Use --help for available commands", "",
      "━━━ Truth Tables (0 = False, 1 = Neutral, 2 = True) ━━━", "",
      "  NOT  " ++ String.join (Trit.all.map fun a => " " ++ a.text ++ "→" ++ a.not.text)] ++
    (Operator.all.filter (·.arity = .binary)).flatMap tableLines)

/-! ### Answers -/

/-- The answer to an invocation. -/
inductive Response where
  /-- Something to print. -/
  | report (r : Report)
  /-- A game to be played. -/
  | play (p : Player)

/-- The lines on the usage of the program. -/
def usage : List String := [
  "Ternary logic expression puzzles",
  "",
  "Usage: ternary-puzzle [OPTIONS] [COMMAND]",
  "",
  "Commands:",
  "  list   List catalog puzzles",
  "  show   Show a puzzle with its slot positions",
  "  check  Fill open slots and check the result",
  "  play   Play a puzzle in the terminal",
  "  test   Verify every catalog puzzle against its intended solution"]

/-- The report when no command is carried out. -/
def Stop.report : Stop → Report
  | .help => success usage
  | .version => success ["ternary-puzzle 0.1.0"]
  | .misuse cause => { code := 2, out := [], err := [cause.message] }

/-- The answer to a request to play. -/
def playResponse (config : Config) (name : Option String) : Response :=
  match Player.start config.scoring (name.getD config.defaultPuzzle) with
  | .ok p => .play p
  | .error e => .report (failure [] ("Player error: " ++ e.message))

/-- The answer to a command. -/
def Command.respond (config : Config) : Command → Response
  | .overview => .report overviewReport
  | .list => .report listReport
  | .display name json => .report (showReport name json)
  | .check name values operators =>
    .report (checkReport config.scoring name values operators)
  | .play name => playResponse config name
  | .test => .report testReport

/-- The answer to an invocation, given what is found under the name of its configuration
file, if it names one. -/
def Invocation.respond (inv : Invocation) (file : Option FileState) : Response :=
  match file with
  | none => inv.command.respond .standard
  | some file =>
    match Config.load file with
    | .ok config => inv.command.respond config
    | .error e => .report (failure [] ("Failed to load config: " ++ e.message))

/-- The answer to a list of arguments, given what is found under the names of files. -/
def respond (files : String → FileState) (arguments : List String) : Response :=
  match Invocation.read arguments with
  | .error stop => .report stop.report
  | .ok inv => inv.respond (inv.config.map files)

end TritPuzzle.CommandLine
