import CommandShell.Text.Blank

/-!
# Paths as texts

A path is a root and a list of names. Repeated slashes and single dots vanish when a path is read; double dots
stay, since only the file system knows where they lead. Two slashes at the front, and no third, are a root of
their own.
-/

namespace CommandShell

/-- What a path starts from. -/
inductive Root where
  /-- The working directory. -/
  | relative
  /-- The root directory. -/
  | slash
  /-- The root that two slashes name. -/
  | doubleSlash
deriving DecidableEq, Repr

/-- A path in normal form. -/
structure Path where
  root : Root
  names : List String
deriving DecidableEq, Repr

namespace Root

/-- The written form of a root. -/
def text : Root → String
  | relative => ""
  | slash => "/"
  | doubleSlash => "//"

/-- The root that a text begins with. -/
def ofChars : List Char → Root
  | '/' :: '/' :: '/' :: _ => slash
  | '/' :: '/' :: _ => doubleSlash
  | '/' :: _ => slash
  | _ => relative

end Root

namespace Path

/-- The parts of a text between slashes, the empty ones left out. -/
def partsOf (s : String) : List String :=
  ((Text.splitAtChar '/' s.toList).filter (!·.isEmpty)).map String.ofList

/-- Reads a path. -/
def ofText (s : String) : Path :=
  ⟨Root.ofChars s.toList, (partsOf s).filter (· ≠ ".")⟩

/-- The written form of a path; the empty path is a single dot. -/
def text (p : Path) : String :=
  let written := p.root.text ++ String.intercalate "/" p.names
  if written.isEmpty then "." else written

/-- The entry of a given name below a path. -/
def child (p : Path) (name : String) : Path := { p with names := p.names ++ [name] }

/-- The path without its last name; a path without names is its own parent. -/
def parent (p : Path) : Path := { p with names := p.names.dropLast }

/-- What leads from `base` to `p` when the names of `base`, whole ones, begin those of `p`. -/
def below? (base p : Path) : Option (List String) :=
  if base.root = p.root ∧ base.names <+: p.names then some (p.names.drop base.names.length) else none

/-- The text of a home directory without the slashes at its end; nothing but slashes is the root directory. -/
def homeText (home : String) : String :=
  let kept := home.toList.reverse.dropWhile (· = '/') |>.reverse
  if kept.isEmpty then "/" else String.ofList kept

/-- A path from the working directory that begins with a tilde alone starts from `home` instead. A tilde
followed by a user's name starts from that user's directory, if `directoryOf` knows one. A home directory that
itself begins with a tilde is none. -/
def expandHome (home : String) (directoryOf : String → Option String) (p : Path) : Option Path :=
  match p.root, p.names with
  | .relative, first :: rest =>
    if first.startsWith "~" then
      let base := if first = "~" then some home else directoryOf (String.ofList (first.toList.drop 1))
      base.bind fun dir =>
        let base := ofText (homeText dir)
        if dir.startsWith "~" then none else some { base with names := base.names ++ rest }
    else some p
  | _, _ => some p

/-- A directory as the prompt shows it: the home directory at its front, if it is there, is written as a
tilde. -/
def abbreviate (directory home : Path) : String :=
  match home.below? directory with
  | some [] => "~"
  | some rest => (Path.mk .relative ("~" :: rest)).text
  | none => directory.text

end Path

/-- The working directory as the prompt shows it. -/
def displayDirectory (directory home : String) : String :=
  (Path.ofText directory).abbreviate (Path.ofText home)

end CommandShell
