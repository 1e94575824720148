/-!
# File trees

What stands at the paths that a run looks at. A path leads from the working directory, or from the directory at the very
top, and goes on only from where there is a directory, also where it goes up again or ends in a slash.

* `stateAt_put`: what a change at one place does to all places.
-/

namespace Conveyor

/-- Where the names of a place start. -/
inductive Base where
  /-- So many directories above the working directory. -/
  | above (n : Nat)
  /-- The directory at the very top. -/
  | top
deriving DecidableEq

/-- A place that a file or a directory can have. -/
structure Place where
  base : Base := .above 0
  /-- The names that lead to it, the last one first. -/
  names : List String := []
deriving DecidableEq

/-- What stands at a place. -/
inductive FileState where
  | missing
  | directory
  | regular (content : ByteArray)

namespace Place

/-- The directory that a place lies in; there is nothing above the top. -/
def parent (p : Place) : Place :=
  match p.names, p.base with
  | _ :: names, base => ⟨base, names⟩
  | [], .above n => ⟨.above (n + 1), []⟩
  | [], .top => p

/-- Goes on by one part of a path. -/
def enter (p : Place) (part : String) : Place :=
  if part = "" ∨ part = "." then p
  else if part = ".." then p.parent
  else { p with names := part :: p.names }

end Place

structure FileTree where
  /-- The path by which the working directory is called. -/
  root : String := ""
  entries : List (Place × FileState) := []

namespace FileTree

/-- What stands at a place; the places that have no name are directories. -/
def stateAt (t : FileTree) (p : Place) : FileState :=
  if p.names = [] then .directory else (t.entries.lookup p).getD .missing

/-- The tree in which something stands at a place. -/
def put (t : FileTree) (p : Place) (s : FileState) : FileTree := { t with entries := (p, s) :: t.entries }

/-- Where a path starts, and the parts that lead on from there. -/
def split (t : FileTree) (path : String) : Place × List String :=
  let below : Option (List Char) :=
    if t.root ≠ "" ∧ t.root.toList.isPrefixOf path.toList then some (path.toList.drop t.root.toList.length) else none
  match below with
  | some [] => ({}, [""])
  | some ('/' :: cs) => ({}, (String.ofList cs).splitOn "/")
  | _ => (if path.startsWith "/" then ⟨.top, []⟩ else {}, path.splitOn "/")

def isDirectoryAt (t : FileTree) (p : Place) : Bool :=
  match t.stateAt p with
  | .directory => true
  | _ => false

/-- The place that a path leads to, whether or not anything stands there. -/
def place? (t : FileTree) (path : String) : Option Place :=
  if path.isEmpty then none
  else
    let (start, parts) := t.split path
    parts.foldlM (fun p part => if t.isDirectoryAt p then some (p.enter part) else none) start

/-- The place that a path would lead to if there were directories all the way. -/
def placeOf (t : FileTree) (path : String) : Place :=
  let (start, parts) := t.split path
  parts.foldl Place.enter start

/-- What a path leads to. -/
def state (t : FileTree) (path : String) : FileState :=
  match t.place? path with
  | some p => t.stateAt p
  | none => .missing

def isDirectory (t : FileTree) (path : String) : Bool := (t.place? path).any t.isDirectoryAt

/-- Goes on by the parts of a path and makes the directories on the way that are missing; fails where a file stands in
the way. -/
def makeWay (t : FileTree) (p : Place) : List String → FileTree × Option Place
  | [] => (t, some p)
  | part :: parts =>
    match t.stateAt p with
    | .regular _ => (t, none)
    | .directory => t.makeWay (p.enter part) parts
    | .missing => (t.put p .directory).makeWay (p.enter part) parts

/-- Makes the directories that a path leads through. -/
def makeParents (t : FileTree) (path : String) : FileTree × Option Place :=
  let (start, parts) := t.split path
  t.makeWay start parts

/-- The tree in which there is a file at a path; the directories that the path leads through are there. -/
def write (t : FileTree) (path : String) (content : ByteArray) : FileTree :=
  match t.makeParents path with
  | (t, some p) => t.put p (.regular content)
  | (t, none) => t

/-- The tree in which there is a directory at a path. -/
def makeDirectory (t : FileTree) (path : String) : FileTree :=
  match t.makeParents path with
  | (t, some p) => t.put p .directory
  | (t, none) => t

/-- What a change at one place does to all places. -/
theorem stateAt_put {t : FileTree} {p q : Place} {s : FileState} (h : q.names ≠ []) :
    (t.put p s).stateAt q = if q = p then s else t.stateAt q := by
  by_cases hq : q = p
  · subst hq
    simp [stateAt, put, h]
  · have hb : (q == p) = false := by simpa using hq
    simp [stateAt, put, h, List.lookup_cons, hb, hq]

end FileTree

end Conveyor
