import CommandShell.Files.Walk
import CommandShell.Path

/-!
# File operations

What the system does to a tree on behalf of somebody who stands at a place in it. Each operation either
succeeds or fails with the system's reason and changes nothing; removing a whole tree is made of such steps,
and what was removed before the step that failed stays removed.
-/

namespace CommandShell

/-- A tree and the working directory in it. -/
structure Files where
  tree : Tree
  place : Place
deriving DecidableEq, Repr

/-- What an open file leads to. -/
inductive Handle where
  | file (spot : Location)
  | sink
deriving DecidableEq, Repr

namespace Files

/-- The files that somebody left behind, for one who has been standing at a place all the while: what is no longer
there of the place has been removed meanwhile. -/
def seenFrom (files : Files) (place : Place) : Files :=
  let (live, gone) := files.tree.standing [] place.live
  { files with place := ⟨live, gone ++ place.lost⟩ }

/-- Where a path leads. -/
def resolve (files : Files) (follow : Bool) (path : String) : Except CallFault Target := do
  let r ← Route.ofText path
  (files.tree.resolve files.place follow r).mapError .system

/-- The names in a directory, in order. -/
def list (files : Files) (path : String) : Except CallFault (List String) := do
  match ← files.resolve true path with
  | .present spot e =>
    if !e.isDirectory then .error (.system .notDirectory)
    else if !e.readable then .error (.system .permission)
    else .ok (files.tree.namesIn spot)
  | .vacant .. => .error (.system .noEntry)
  | .removed _ => .ok []

/-- The octets of an entry that may be read. -/
def contentOf (e : Entry) : Except SystemFault Bytes :=
  if !e.readable then .error .permission
  else
    match e.content with
    | .directory => .error .isDirectory
    | .file bytes => .ok bytes
    | _ => .ok []

/-- The octets of a file. -/
def read (files : Files) (path : String) : Except CallFault Bytes := do
  match ← files.resolve true path with
  | .present _ e => (contentOf e).mapError .system
  | .vacant .. => .error (.system .noEntry)
  | .removed _ => .error (.system .isDirectory)

/-- One may make and remove entries in a directory. -/
def mayChange (tree : Tree) (directory : Location) : Bool :=
  match tree.find? directory with
  | some e => e.writable && e.executable
  | none => false

/-- Opens a target for writing; a file that is not there is made, and one that is there is emptied unless
`keep` is set. -/
def openTarget (files : Files) (keep : Bool) : Target → Except SystemFault (Files × Handle)
  | .present spot e =>
    match e.content with
    | .directory => .error .isDirectory
    | .file bytes =>
      if !e.writable then .error .permission
      else .ok ({ files with tree := files.tree.put spot { e with content := .file (if keep then bytes else []) } },
        .file spot)
    | .sink => .ok (files, .sink)
    | _ => .error .permission
  | .vacant directory name =>
    if !mayChange files.tree directory then .error .permission
    else
      let spot := directory ++ [name]
      .ok ({ files with tree := files.tree.put spot ⟨.file [], Entry.fileMode⟩ }, .file spot)
  | .removed _ => .error .isDirectory

/-- Opens a file for writing. -/
def openForWriting (files : Files) (keep : Bool) (path : String) : Except CallFault (Files × Handle) := do
  let r ← Route.ofText path
  if r.trailing || !r.endsInName then
    discard ((files.tree.resolveParent files.place r).mapError .system)
    if r.endsInName then throw (.system .isDirectory)
  let target ← (files.tree.resolve files.place true r).mapError .system
  (files.openTarget keep target).mapError .system

/-- Adds octets to the end of an open file; a file that is no longer there takes them along. -/
def addTo (files : Files) (bytes : Bytes) : Handle → Files
  | .sink => files
  | .file spot =>
    match files.tree.find? spot with
    | some ⟨.file old, mode⟩ => { files with tree := files.tree.put spot ⟨.file (old ++ bytes), mode⟩ }
    | _ => files

/-- Replaces the content of a file. -/
def write (files : Files) (path : String) (bytes : Bytes) : Except CallFault Files := do
  let (opened, handle) ← files.openForWriting false path
  return opened.addTo bytes handle

/-- Makes a directory in a directory that is there. -/
def makeDirectory (files : Files) (path : String) : Except CallFault Files := do
  let r ← Route.ofText path
  if !r.endsInName then
    discard ((files.tree.resolveParent files.place r).mapError .system)
    throw (.system .alreadyThere)
  match ← (files.tree.resolve files.place false { r with trailing := false }).mapError .system with
  | .present .. => .error (.system .alreadyThere)
  | .removed _ => .error (.system .noEntry)
  | .vacant directory name =>
    if !mayChange files.tree directory then .error (.system .permission)
    else
      .ok { files with tree := files.tree.put (directory ++ [name]) ⟨.directory, Entry.directoryMode⟩ }

/-- Whether a question about the entry at a path is answered with yes; nothing at the path means no, and other
faults are faults. -/
def ask (files : Files) (follow : Bool) (path : String) (question : Target → Bool) : Except SystemFault Bool :=
  match files.resolve follow path with
  | .ok target => .ok (question target)
  | .error .embeddedNull => .ok false
  | .error (.system fault) => if fault.meansAbsent then .ok false else .error fault

/-- Whether a path leads to a directory. -/
def isDirectory (files : Files) (path : String) : Except SystemFault Bool :=
  files.ask true path fun
    | .present _ e => e.isDirectory
    | .vacant .. => false
    | .removed _ => true

/-- Whether a path leads to a file. -/
def isFile (files : Files) (path : String) : Except SystemFault Bool :=
  files.ask true path fun
    | .present _ e => e.isFile
    | _ => false

/-- Whether there is a symbolic link at a path. -/
def isLink (files : Files) (path : String) : Except SystemFault Bool :=
  files.ask false path fun
    | .present _ e => e.isLink
    | _ => false

/-- Whether there is anything at a path. -/
def isThere (files : Files) (path : String) : Except SystemFault Bool :=
  files.ask true path fun
    | .vacant .. => false
    | _ => true

/-- Whether a path leads to something that may be run. -/
def isExecutable (files : Files) (path : String) : Bool :=
  match files.resolve true path with
  | .ok (.present _ e) => e.executable
  | _ => false

/-- Makes a directory; a fault does not matter if a directory is there. -/
def makeDirectoryUnlessThere (files : Files) (path : String) : Except CallFault Files :=
  match files.makeDirectory path with
  | .error (.system fault) =>
    if fault = .noEntry then .error (.system fault)
    else
      match files.isDirectory path with
      | .ok true => .ok files
      | .ok false => .error (.system fault)
      | .error other => .error (.system other)
  | other => other

/-- Makes a directory and those above it that are missing. -/
def makeDirectories (files : Files) (root : Root) (names : List String) : Except CallFault Files :=
  let path := (Path.mk root names).text
  match files.makeDirectoryUnlessThere path with
  | .error (.system .noEntry) =>
    if _h : names = [] then .error (.system .noEntry)
    else do
      let above ← makeDirectories files root names.dropLast
      above.makeDirectoryUnlessThere path
  | other => other
termination_by names.length
decreasing_by
  have := List.length_pos_iff.2 _h
  simp only [List.length_dropLast]
  omega

/-- Takes an entry that is no directory out of its directory. -/
def unlinkAt (files : Files) (spot : Location) : Except SystemFault Files :=
  if !mayChange files.tree spot.dropLast then .error .permission
  else if (files.tree.find? spot).any (·.isDirectory) then .error .isDirectory
  else .ok { files with tree := files.tree.erase spot }

/-- Removes an entry that is no directory; a link is removed and not followed. -/
def unlink (files : Files) (path : String) : Except CallFault Files := do
  let r ← Route.ofText path
  if !r.endsInName then
    discard ((files.tree.resolveParent files.place r).mapError .system)
    throw (.system .isDirectory)
  match ← (files.tree.resolve files.place false r).mapError .system with
  | .present spot _ => (files.unlinkAt spot).mapError .system
  | .vacant .. => .error (.system .noEntry)
  | .removed _ => .error (.system .isDirectory)

/-- Takes an empty directory out of its directory; who stands in it then stands in a removed one. -/
def removeDirectoryAt (files : Files) (spot : Location) : Except SystemFault Files :=
  if !mayChange files.tree spot.dropLast then .error .permission
  else if !(files.tree.namesIn spot).isEmpty then .error .notEmpty
  else
    let place := if files.place.live = spot then ⟨spot.dropLast, spot.drop (spot.length - 1) ++ files.place.lost⟩
      else files.place
    .ok ⟨files.tree.erase spot, place⟩

/-- Removes an empty directory. -/
def removeDirectory (files : Files) (path : String) : Except CallFault Files := do
  let r ← Route.ofText path
  if !r.endsInName then
    discard ((files.tree.resolveParent files.place r).mapError .system)
    throw (.system (match r.names.getLast? with
      | some "." => .invalid
      | some _ => .notEmpty
      | none => .busy))
  match ← (files.tree.resolve files.place false { r with trailing := false }).mapError .system with
  | .present spot e =>
    if !e.isDirectory then .error (.system .notDirectory) else (files.removeDirectoryAt spot).mapError .system
  | .vacant .. => .error (.system .noEntry)
  | .removed _ => .error (.system .noEntry)

/-- Removes what is in a directory, entry by entry in the order of their names, and stops at the first fault.
The fuel is the number of levels below the directory. -/
def removeContent : Nat → Files → Location → Files × Option SystemFault
  | 0, files, _ => (files, none)
  | fuel + 1, files, directory =>
    (files.tree.namesIn directory).foldl
      (fun (state : Files × Option SystemFault) name =>
        match state with
        | (files, some fault) => (files, some fault)
        | (files, none) =>
          let spot := directory ++ [name]
          let finish : Except SystemFault Files → Files × Option SystemFault
            | .ok done => (done, none)
            | .error fault => (files, some fault)
          match files.tree.find? spot with
          | some e =>
            if !e.isDirectory then finish (files.unlinkAt spot)
            else if !e.readable then (files, some .permission)
            else
              match removeContent fuel files spot with
              | (emptied, some fault) => (emptied, some fault)
              | (emptied, none) =>
                match emptied.removeDirectoryAt spot with
                | .ok done => (done, none)
                | .error fault => (emptied, some fault)
          | none => (files, none))
      (files, none)

/-- Removes a directory with everything below it; links in it are removed and not followed. -/
def removeTree (files : Files) (path : String) : Files × Option CallFault :=
  match files.resolve true path with
  | .error fault => (files, some fault)
  | .ok (.vacant ..) => (files, some (.system .noEntry))
  | .ok (.removed _) => finish (files, none)
  | .ok (.present spot e) =>
    if !e.readable then (files, some (.system .permission))
    else finish (removeContent (files.tree.depth + 1) files spot)
where
  /-- Removes the directory itself once it is empty. -/
  finish : Files × Option SystemFault → Files × Option CallFault
    | (emptied, some fault) => (emptied, some (.system fault))
    | (emptied, none) =>
      match emptied.removeDirectory path with
      | .ok done => (done, none)
      | .error fault => (emptied, some fault)

/-- Makes a file if nothing is there. -/
def touch (files : Files) (path : String) : Except CallFault Files :=
  match files.resolve true path with
  | .error .embeddedNull => .error .embeddedNull
  | .ok (.present ..) | .ok (.removed _) => .ok files
  | _ => (files.openForWriting true path).map (·.1)

/-- Stands in another directory. -/
def changeDirectory (files : Files) (path : String) : Except CallFault Files := do
  match ← files.resolve true path with
  | .present spot e =>
    if !e.isDirectory then .error (.system .notDirectory)
    else if !e.executable then .error (.system .permission)
    else .ok { files with place := .ofLocation spot }
  | .vacant .. => .error (.system .noEntry)
  | .removed place => .ok { files with place }

/-- The text of a location. -/
def locationText (spot : Location) : String := "/" ++ String.intercalate "/" spot

/-- The working directory, unless it has been removed. -/
def workingDirectory? (files : Files) : Option String :=
  if files.place.lost.isEmpty then some (locationText files.place.live) else none

/-- Everything below a location: each directory comes before its content, and names come in order. -/
def below (files : Files) (spot : Location) : List (Location × Entry) :=
  (files.tree.entries.filter fun (other, _) => spot.isPrefixOf other && other ≠ spot).mergeSort
    fun a b => !List.lex b.1 a.1 fun x y => x < y

end Files

end CommandShell
