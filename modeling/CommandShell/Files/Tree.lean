import CommandShell.Text.Utf8

/-!
# File trees

A tree maps locations to entries. A location is the list of names that lead to it from the root directory,
which itself is always there and has no entry of its own. A removed entry takes nothing else with it: whoever
removes a directory first removes what is in it.
-/

namespace CommandShell

/-- The names from the root directory on. -/
abbrev Location := List String

/-- What an entry holds. -/
inductive Content where
  | directory
  | file (bytes : Bytes)
  /-- A symbolic link. -/
  | link (target : String)
  /-- A program that the system provides under a name of its own. -/
  | program (name : String)
  /-- A device that swallows what is written to it and has nothing to read. -/
  | sink
deriving DecidableEq, Repr

/-- An entry and its permission bits. -/
structure Entry where
  content : Content
  mode : Nat
deriving DecidableEq, Repr

namespace Entry

/-- The permission bits of a new file. -/
def fileMode : Nat := 0o644

/-- The permission bits of a new directory. -/
def directoryMode : Nat := 0o755

/-- The owner may read. -/
def readable (e : Entry) : Bool := e.mode / 0o400 % 2 = 1

/-- The owner may write. -/
def writable (e : Entry) : Bool := e.mode / 0o200 % 2 = 1

/-- The owner may run a file, or pass through a directory. -/
def executable (e : Entry) : Bool := e.mode / 0o100 % 2 = 1

/-- Whether an entry is a directory. -/
def isDirectory (e : Entry) : Bool :=
  match e.content with
  | .directory => true
  | _ => false

/-- Whether an entry is a symbolic link. -/
def isLink (e : Entry) : Bool :=
  match e.content with
  | .link _ => true
  | _ => false

/-- Whether an entry is a file, a program of the system included. -/
def isFile (e : Entry) : Bool :=
  match e.content with
  | .file _ | .program _ => true
  | _ => false

end Entry

/-- A file tree. -/
structure Tree where
  entries : List (Location × Entry)
deriving DecidableEq, Repr

namespace Tree

/-- The root directory. -/
def rootEntry : Entry := ⟨.directory, Entry.directoryMode⟩

/-- The entry at a location. -/
def find? (tree : Tree) : Location → Option Entry
  | [] => some rootEntry
  | spot => tree.entries.lookup spot

/-- The tree with an entry put at a location, in place of any that was there. -/
def put (tree : Tree) (spot : Location) (e : Entry) : Tree :=
  ⟨tree.entries.filter (·.1 ≠ spot) ++ [(spot, e)]⟩

/-- The tree without the entry at a location. -/
def erase (tree : Tree) (spot : Location) : Tree := ⟨tree.entries.filter (·.1 ≠ spot)⟩

/-- The name of a location directly within a directory. -/
def nameWithin? (directory spot : Location) : Option String :=
  match spot.getLast? with
  | some name => if spot.dropLast = directory then some name else none
  | none => none

/-- The names in a directory, in the order of their code points. -/
def namesIn (tree : Tree) (directory : Location) : List String :=
  (tree.entries.filterMap fun (spot, _) => nameWithin? directory spot).mergeSort (fun a b => a ≤ b)

/-- The greatest number of names of a location. -/
def depth (tree : Tree) : Nat := (tree.entries.map (·.1.length)).foldl max 0

end Tree

end CommandShell
