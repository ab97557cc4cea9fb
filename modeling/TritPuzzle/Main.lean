import TritPuzzle.CommandLine.Report
import TritPuzzle.Player.Key
import TritPuzzle.Screen.Draw
import TritPuzzle.Screen.Terminal

/-!
# The program

Reads the arguments and the configuration file, prints the report of a command
and runs a game in the terminal.
-/

namespace TritPuzzle

/-- The fault that an error of the system stands for. -/
def FileFault.ofError : IO.Error → FileFault
  | .noFileOrDirectory .. => .missing
  | .permissionDenied .. => .denied
  | .inappropriateType _ 21 _ => .directory
  | .inappropriateType .. => .throughFile
  | .invalidArgument .. => .longName
  | e => .other (toString e)

/-- What is found under a path. -/
def readFileState (path : String) : IO FileState := do
  try
    return .ok (← IO.FS.readBinFile path)
  catch e =>
    return .error (.ofError e)

/-- Shows a game and plays the keys that are typed, until one of them quits. -/
partial def playGame (p : Player) (width height : Nat) : IO Unit := do
  let out ← IO.getStdout
  out.putStr (screenCodes (p.draw width height))
  out.flush
  let typed ← (← IO.getStdin).read 64
  match String.fromUTF8? typed with
  | none => playGame p width height
  | some s => do
    let keys := Key.decode s.toList
    if keys.isEmpty then return ()
    match keys.foldlM Player.press? p with
    | some p' => playGame p' width height
    | none => out.putStr "\x1b[0m\r\n"

/-- A positive number in the environment. -/
def environmentSize (name : String) (default : Nat) : IO Nat := do
  return ((← IO.getEnv name).bind String.toNat?).getD default

/-- Carries out the answer to an invocation, and returns the exit code. -/
def carryOut : CommandLine.Response → IO UInt32
  | .report r => do
    IO.print r.stdout
    IO.eprint r.stderr
    return r.code.toUInt32
  | .play p => do
    playGame p (← environmentSize "COLUMNS" 80) (← environmentSize "LINES" 24)
    return 0

end TritPuzzle

open TritPuzzle in
/-- The program. -/
def main (arguments : List String) : IO UInt32 := do
  match CommandLine.Invocation.read arguments with
  | .error stop => carryOut (.report stop.report)
  | .ok inv => do
    let file ← inv.config.mapM readFileState
    carryOut (inv.respond file)
