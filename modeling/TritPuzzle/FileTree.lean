import TritPuzzle.Text.Parts

/-!
# Files and how they are found

A file is found by the names on its path, one directory after the other.  The
search can fail on the way, at a name that is missing, that is too long or that is
no directory, and it can end at a directory, which holds no text.

## Main definitions

* `FileFault` — why no text is read from a file.
* `FileState` — what is found under a path.
* `FileTree` — a directory with all that is below it.
* `FileTree.find` — what a path leads to.
-/

namespace TritPuzzle

/-! ### What a path may lead to -/

/-- Why no text is read from a file. -/
inductive FileFault where
  /-- There is nothing of the name. -/
  | missing
  /-- The file is not to be read. -/
  | denied
  /-- The path goes on after the name of a file. -/
  | throughFile
  /-- The path leads to a directory. -/
  | directory
  /-- A name or the whole path is too long. -/
  | longName
  /-- The bytes of the file are not those of a text. -/
  | notText
  /-- Another reason. -/
  | other (reason : String)
  deriving DecidableEq, Repr

/-- The message for a file that is not read. -/
def FileFault.message : FileFault → String
  | .missing => "No such file or directory (os error 2)"
  | .denied => "Permission denied (os error 13)"
  | .throughFile => "Not a directory (os error 20)"
  | .directory => "Is a directory (os error 21)"
  | .longName => "File name too long (os error 36)"
  | .notText => "stream did not contain valid UTF-8"
  | .other reason => reason

/-- What is found under a path: the bytes of a file, or a fault. -/
abbrev FileState := Except FileFault ByteArray

/-- The text of a file. -/
def FileState.text (file : FileState) : Except FileFault String := do
  match String.fromUTF8? (← file) with
  | some s => return s
  | none => throw .notText

/-! ### Finding a file -/

/-- A file, or a directory with all that is below it. -/
inductive FileTree where
  /-- A file with these bytes. -/
  | file (content : ByteArray)
  /-- A directory with the names in it and what they stand for. -/
  | directory (entries : List (String × FileTree))

namespace FileTree

/-- The largest number of bytes of a name. -/
def nameLimit : Nat := 255

/-- The largest number of bytes of a path. -/
def pathLimit : Nat := 4095

/-- What is read at the end of a path. -/
def state : FileTree → FileState
  | .file content => .ok content
  | .directory _ => .error .directory

/-- What a name stands for in a directory, where two dots stand for the directory
above it; there is none above the outermost one, `[]`. -/
def enter (entries : List (String × FileTree)) (above : List FileTree) (name : String) :
    Except FileFault (FileTree × List FileTree) :=
  match name, above with
  | "", _ | ".", _ | "..", [] => .ok (.directory entries, above)
  | "..", outer :: above => .ok (outer, above)
  | name, _ =>
    if nameLimit < name.utf8ByteSize then .error .longName
    else
      match entries.lookup name with
      | some t => .ok (t, .directory entries :: above)
      | none => .error .missing

/-- What the names of a path lead to from a tree in the given directories. -/
def walk (t : FileTree) (above : List FileTree) : List String → FileState
  | [] => t.state
  | name :: rest =>
    match t with
    | .file _ => .error .throughFile
    | .directory entries =>
      match enter entries above name with
      | .ok (t, above) => t.walk above rest
      | .error e => .error e

/-- What a path leads to.  A path that begins with a slash starts at the outermost
directory, every other one at the directory `here` inside it. -/
def find (outermost here : FileTree) (path : String) : FileState :=
  if path.isEmpty then .error .missing
  else if pathLimit < path.utf8ByteSize then .error .longName
  else
    let names := (Text.parts '/' path.toList).map String.ofList
    match path.toList with
    | '/' :: _ => outermost.walk [] names
    | _ => here.walk [outermost] names

/-- No path goes on after the name of a file. -/
@[simp] theorem walk_file (content : ByteArray) (above : List FileTree) (name : String)
    (rest : List String) : (file content).walk above (name :: rest) = .error .throughFile := rfl

@[simp] theorem walk_nil (t : FileTree) (above : List FileTree) : t.walk above [] = t.state := rfl

@[simp] theorem find_empty (outermost here : FileTree) :
    outermost.find here "" = .error .missing := rfl

example : (directory [("a", file .empty)]).find (directory []) "/./a/b" = .error .throughFile := by
  rfl

example : (directory [("a", file .empty)]).find (directory []) "../a" = .ok .empty := by rfl

end FileTree

end TritPuzzle
