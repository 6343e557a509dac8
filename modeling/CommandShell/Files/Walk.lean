import CommandShell.Files.Fault
import CommandShell.Files.Tree
import CommandShell.Text.Blank

/-!
# Where a path leads

The system reads a path name by name. A single dot stays where it is, double dots go up, and a symbolic link
puts its target in place of its name; at most forty links are followed. Whoever stands in a directory that has
been removed still stands there: nothing can be found or made in it, but double dots lead out of it.
-/

namespace CommandShell

/-- Where one stands: a directory that is there, and below it the names of directories that have been
removed. -/
structure Place where
  live : Location
  lost : List String
deriving DecidableEq, Repr

namespace Place

/-- A directory that is there. -/
def ofLocation (spot : Location) : Place := ⟨spot, []⟩

/-- The directory above. -/
def up (p : Place) : Place :=
  if p.lost.isEmpty then .ofLocation p.live.dropLast else { p with lost := p.lost.dropLast }

end Place

/-- A path as the system reads it. -/
structure Route where
  absolute : Bool
  names : List String
  /-- A slash at the end asks for a directory. -/
  trailing : Bool
deriving DecidableEq, Repr

namespace Route

/-- The names of a text between slashes. -/
def namesOf (s : String) : List String :=
  ((Text.splitAtChar '/' s.toList).filter (!·.isEmpty)).map String.ofList

/-- The longest path, in octets. -/
def longestPath : Nat := 4095

/-- The longest name, in octets. -/
def longestName : Nat := 255

/-- The route that a text describes, without its limits. -/
def ofChars (s : String) : Route :=
  ⟨s.toList.head? = some '/', namesOf s, s.toList.getLast? = some '/'⟩

/-- Reads a path. -/
def ofText (s : String) : Except CallFault Route :=
  if s.toList.contains (Char.ofNat 0) then .error .embeddedNull
  else if s.isEmpty then .error (.system .noEntry)
  else if s.utf8ByteSize > longestPath then .error (.system .nameTooLong)
  else .ok (ofChars s)

/-- The path ends in a name, and not in dots or at the root. -/
def endsInName (r : Route) : Bool :=
  match r.names.getLast? with
  | some name => name ≠ "." && name ≠ ".."
  | none => false

/-- The names that the target of a link puts in place of its own. -/
def spliced (r : Route) : List String := if r.trailing then r.names ++ ["."] else r.names

end Route

/-- Where a path leads. -/
inductive Target where
  | present (spot : Location) (entry : Entry)
  /-- Nothing is there, but the directory that could hold it is. -/
  | vacant (directory : Location) (name : String)
  /-- A directory that has been removed. -/
  | removed (place : Place)
deriving DecidableEq, Repr

namespace Tree

/-- The part of a location, after the names in front of it, that leads through directories, and what is left of it. -/
def standing (tree : Tree) (front : Location) : Location → Location × List String
  | [] => (front, [])
  | name :: rest =>
    if (tree.find? (front ++ [name])).any (·.isDirectory) then standing tree (front ++ [name]) rest
    else (front, name :: rest)

/-- The target that a place is. -/
def targetAt (tree : Tree) (here : Place) : Except SystemFault Target :=
  if !here.lost.isEmpty then .ok (.removed here)
  else
    match tree.find? here.live with
    | some e => .ok (.present here.live e)
    | none => .error .noEntry

/-- One may look up names in a directory. -/
def searchable (tree : Tree) (here : Place) : Bool :=
  !here.lost.isEmpty ||
    match tree.find? here.live with
    | some e => e.executable
    | none => false

/-- Follows names from a place on. The last name is followed if it is a link only when `follow` is set. -/
def walk (tree : Tree) (follow : Bool) (links : Nat) (here : Place) (names : List String) :
    Except SystemFault Target :=
  match names with
  | [] => tree.targetAt here
  | name :: rest =>
    if !tree.searchable here then .error .permission
    else if name = "." then walk tree follow links here rest
    else if name = ".." then walk tree follow links here.up rest
    else if !here.lost.isEmpty then .error .noEntry
    else if name.utf8ByteSize > Route.longestName then .error .nameTooLong
    else
      let spot := here.live ++ [name]
      match tree.find? spot with
      | none => if rest.isEmpty then .ok (.vacant here.live name) else .error .noEntry
      | some e =>
        match e.content with
        | .directory => walk tree follow links (.ofLocation spot) rest
        | .link target =>
          if rest.isEmpty && !follow then .ok (.present spot e)
          else
            match links with
            | 0 => .error .tooManyLinks
            | links + 1 =>
              let r := Route.ofChars target
              if target.isEmpty then .error .noEntry
              else walk tree follow links (if r.absolute then .ofLocation [] else here) (r.spliced ++ rest)
        | _ => if rest.isEmpty then .ok (.present spot e) else .error .notDirectory
termination_by (links, names.length)

/-- The greatest number of links followed on the way. -/
def linkLimit : Nat := 40

/-- Where a route leads from a place. A slash at its end asks for a directory and follows a link. -/
def resolve (tree : Tree) (place : Place) (follow : Bool) (r : Route) : Except SystemFault Target :=
  let start := if r.absolute then .ofLocation [] else place
  match tree.walk (follow || r.trailing) linkLimit start r.names with
  | .ok (.present spot e) =>
    if r.trailing && !e.isDirectory then .error .notDirectory else .ok (.present spot e)
  | other => other

/-- Where the directory of a route's last name is. -/
def resolveParent (tree : Tree) (place : Place) (r : Route) : Except SystemFault Target :=
  tree.walk true linkLimit (if r.absolute then .ofLocation [] else place) (r.names.dropLast ++ ["."])

end Tree

end CommandShell
