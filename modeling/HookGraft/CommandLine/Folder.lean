import HookGraft.CommandLine.Run

/-!
# Invocations on a folder

A folder with files and three streams, on which an invocation can be followed step by step. Paths
begin at the folder or, with a slash, at the root. Nothing is known of what else the folder lies
beside.

## Main definitions

* `Folder`: files and streams
* `PathDefect`: why a path names no file
* `Folder.read`, `Folder.write`: the file that a path names, and another one in its place
* `Folder.host`: the folder as what an invocation reads from and writes to
* `Folder.run`: the outcome of an invocation, and the folder it leaves
-/

namespace HookGraft

/-- The steps that lead from the folder to a place. To leave the folder they begin with `..`, and to
start at the root with a slash. -/
abbrev Place := List Text

/-- Files and streams. -/
structure Folder where
  files : List (Place × ByteArray) := []
  input : ByteArray := ByteArray.empty
  output : Text := []
  errors : Text := []

/-- Why a path names no file. -/
inductive PathDefect where
  | absent
  | isDirectory
  /-- the path goes on behind a file -/
  | notDirectory
  | nameTooLong
  /-- the path holds a character that no path may hold -/
  | nulCharacter
  deriving DecidableEq

/-- The reason that the system gives. -/
def PathDefect.reason : PathDefect → String
  | absent => "No such file or directory (os error 2)"
  | isDirectory => "Is a directory (os error 21)"
  | notDirectory => "Not a directory (os error 20)"
  | nameTooLong => "File name too long (os error 36)"
  | nulCharacter => "file name contained an unexpected NUL byte"

namespace Place

/-- The root. -/
def root : Place := [['/']]

/-- The place one step up. -/
def up (place : Place) : Place :=
  if place = root then root
  else if place.all (· == ['.', '.']) then ['.', '.'] :: place
  else place.dropLast

/-- The steps of a path. -/
def steps (path : Text) : List Text := (path.pieces '/').filter fun step => !step.isEmpty

end Place

namespace Folder

/-- The file at a place. -/
def file? (f : Folder) (place : Place) : Option ByteArray := f.files.lookup place

/-- Whether there is a directory at a place. -/
def isDirectory (f : Folder) (place : Place) : Bool :=
  place == Place.root || place.all (· == ['.', '.']) || f.files.any fun entry =>
    place.isPrefixOf entry.1 && place.length < entry.1.length

/-- The file at a place, if there is one. -/
def lookUp (f : Folder) (place : Place) : Except PathDefect (Option ByteArray) :=
  if place.any (255 < Text.utf8Size ·) then .error .nameTooLong
  else if f.isDirectory place then .error .isDirectory
  else .ok (f.file? place)

/-- The directory that steps lead to from another one. -/
def enter (f : Folder) : Place → (steps : List Text) → Except PathDefect Place
  | place, [] => .ok place
  | place, step :: rest =>
    if step = ['.'] then enter f place rest
    else if step = ['.', '.'] then enter f place.up rest
    else
      match f.lookUp (place ++ [step]) with
      | .error .isDirectory => enter f (place ++ [step]) rest
      | .error defect => .error defect
      | .ok (some _) => .error .notDirectory
      | .ok none => .error .absent

/-- The place that a path leads to. There is a directory for it, if not a file. -/
def locate (f : Folder) (path : Text) : Except PathDefect Place :=
  let start := if path.head? = some '/' then Place.root else []
  let steps := Place.steps path
  if path.contains '\x00' then .error .nulCharacter
  else if path.isEmpty then .error .absent
  else if 4096 ≤ Text.utf8Size path then .error .nameTooLong
  else
    match steps.getLast? with
    | none | some ['.'] | some ['.', '.'] => f.enter start steps
    | some name => do return (← f.enter start steps.dropLast) ++ [name]

/-- Reads a file. -/
def read (f : Folder) (path : Text) : Except PathDefect ByteArray := do
  match ← f.lookUp (← f.locate path) with
  | none => .error .absent
  | some bytes => if path.getLast? = some '/' then .error .notDirectory else .ok bytes

/-- Puts a file in the place of the one at a place. -/
def put (place : Place) (bytes : ByteArray) :
    List (Place × ByteArray) → List (Place × ByteArray)
  | [] => [(place, bytes)]
  | entry :: rest =>
    if entry.1 = place then (place, bytes) :: rest else entry :: put place bytes rest

/-- Writes a file, which may be new if there is a directory for it. -/
def write (f : Folder) (path : Text) (bytes : ByteArray) : Except PathDefect Folder := do
  let place ← f.locate path
  -- a slash at the end asks for a directory, whatever there is
  if path.getLast? = some '/' then .error .isDirectory
  let _ ← f.lookUp place
  return { f with files := put place bytes f.files }

/-- The folder as what an invocation reads from and writes to. -/
def host : Host (StateM Folder) where
  readFile path := do return ((← get).read path.toList).mapError PathDefect.reason
  readInput := do return .ok (← get).input
  writeFile path text := do
    match (← get).write path.toList (String.ofList text).toUTF8 with
    | .ok f => set f; return .ok ()
    | .error defect => return .error defect.reason
  writeOutput text := do
    modify fun f => { f with output := f.output ++ text }
    return .ok ()
  writeError text := modify fun f => { f with errors := f.errors ++ text }

/-- The outcome of an invocation, and the folder it leaves. -/
def run (f : Folder) (o : Options) : Except Failure Unit × Folder :=
  (o.run host).run.run f

end Folder

end HookGraft
