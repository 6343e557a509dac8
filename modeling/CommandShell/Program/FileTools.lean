import CommandShell.Program.Source

/-!
# Programs that work on files

`ls` lists directories, `mkdir` and `rmdir` make and remove them, `touch` makes files and `rm` removes them.
Each goes through its operands in order and complains about those with which something is wrong.
-/

namespace CommandShell.Program

/-- What has come of some operands: the files, what was said, and whether all went well. -/
structure Progress where
  files : Files
  errors : String
deriving DecidableEq, Repr

/-- Tries one operand after another. -/
def forEach (i : Invocation) (operands : List String) (step : Files → String → Except String Files) : Run :=
  let progress := operands.foldl
    (fun (p : Progress) operand =>
      match step p.files operand with
      | .ok files => { p with files }
      | .error text => { p with errors := p.errors ++ text })
    ⟨i.files, ""⟩
  let code := if progress.errors.isEmpty then 0 else 1
  ⟨progress.files, .empty, Text.encode progress.errors, .done (.exited code)⟩

/-- The text of a fault of a call. -/
def faultText : CallFault → String
  | .system fault => fault.text
  | .embeddedNull => SystemFault.invalid.text

/-- Makes directories. -/
def mkdir (i : Invocation) : Run :=
  withOptions i ⟨['p', 'v'], ['m'], [("parents", 'p'), ("verbose", 'v')], false⟩ 1 fun given operands =>
    if operands.isEmpty then i.complain (misuse i.name "missing operand") 1
    else
      forEach i operands fun files operand =>
        let made := if gave given 'p' then
            let path := Path.ofText operand
            files.makeDirectories path.root path.names
          else files.makeDirectory operand
        made.mapError fun fault =>
          i.name ++ ": cannot create directory " ++ quoteAlways operand ++ ": " ++ faultText fault ++ "\n"

/-- Removes empty directories. -/
def rmdir (i : Invocation) : Run :=
  withOptions i ⟨['p', 'v'], [], [], false⟩ 1 fun _ operands =>
    if operands.isEmpty then i.complain (misuse i.name "missing operand") 1
    else
      forEach i operands fun files operand =>
        (files.removeDirectory operand).mapError fun fault =>
          i.name ++ ": failed to remove " ++ quoteAlways operand ++ ": " ++ faultText fault ++ "\n"

/-- Makes files that are not there. -/
def touch (i : Invocation) : Run :=
  withOptions i ⟨['a', 'c', 'm', 'h', 'f'], ['d', 'r', 't'], [("no-create", 'c')], false⟩ 1 fun given operands =>
    if operands.isEmpty then i.complain (misuse i.name "missing file operand") 1
    else
      forEach i operands fun files operand =>
        match files.isThere operand with
        | .ok false =>
          if gave given 'c' then .ok files
          else (files.touch operand).mapError fun fault =>
            i.name ++ ": cannot touch " ++ quoteAlways operand ++ ": " ++ faultText fault ++ "\n"
        | _ =>
          (files.touch operand).mapError fun fault =>
            i.name ++ ": cannot touch " ++ quoteAlways operand ++ ": " ++ faultText fault ++ "\n"

/-- Removes entries, and directories with what is in them if that is wanted. -/
def rm (i : Invocation) : Run :=
  let known : OptionSet := ⟨['r', 'R', 'f', 'd', 'v', 'i'], [], [("recursive", 'r'), ("force", 'f')], false⟩
  withOptions i known 1 fun given operands =>
    let recursive := gave given 'r' || gave given 'R'
    let force := gave given 'f'
    if operands.isEmpty then
      if force then i.finish [] [] 0 else i.complain (misuse i.name "missing operand") 1
    else
      forEach i operands fun files operand =>
        let cannot (fault : CallFault) : String :=
          i.name ++ ": cannot remove " ++ quoteAlways operand ++ ": " ++ faultText fault ++ "\n"
        match files.resolve false operand with
        | .error fault =>
          if force && fault = .system .noEntry then .ok files else .error (cannot fault)
        | .ok (.vacant ..) => if force then .ok files else .error (cannot (.system .noEntry))
        | .ok (.removed _) => .error (cannot (.system .isDirectory))
        | .ok (.present _ e) =>
          if e.isDirectory then
            if !recursive then .error (cannot (.system .isDirectory))
            else
              match (Route.ofChars operand).names.getLast? with
              | some "." | some ".." =>
                .error (i.name ++ ": refusing to remove '.' or '..' directory: skipping " ++
                  quoteAlways operand ++ "\n")
              | _ =>
                match files.removeTree operand with
                | (done, none) => .ok done
                | (_, some fault) => .error (cannot fault)
          else (files.unlink operand).mapError cannot

/-- How entries are marked in a listing. -/
structure ListingOptions where
  all : Bool
  almostAll : Bool
  reverse : Bool
  classify : Bool
  slash : Bool
  itself : Bool
deriving DecidableEq, Repr

/-- An entry's name in a listing. -/
def listedName (options : ListingOptions) (files : Files) (path name : String) : String :=
  let marked : Bool → Bool → Bool → String := fun link directory executable =>
    if directory then "/"
    else if !options.classify then ""
    else if link then "@"
    else if executable then "*" else ""
  if !options.classify && !options.slash then name
  else
    match files.resolve false path with
    | .ok (.present _ e) => name ++ marked e.isLink e.isDirectory e.executable
    | _ => name

/-- The names in a directory that a listing shows. -/
def listedNames (options : ListingOptions) (files : Files) (directory : String) (names : List String) :
    List String :=
  let hidden (name : String) : Bool := name.startsWith "."
  let shown := if options.all then "." :: ".." :: names
    else if options.almostAll then names else names.filter (!hidden ·)
  let shown := shown.map fun name => (name, listedName options files (directory ++ "/" ++ name) name)
  (if options.reverse then shown.reverse else shown).map (·.2)

/-- Lists directories and files. -/
def ls (i : Invocation) : Run :=
  withOptions i ⟨['a', 'A', '1', 'r', 'F', 'p', 'd'], [],
      [("all", 'a'), ("almost-all", 'A'), ("reverse", 'r'), ("classify", 'F'), ("directory", 'd')], false⟩ 2
    fun given operands =>
      let options : ListingOptions :=
        ⟨gave given 'a', gave given 'A', gave given 'r', gave given 'F',
          gave given 'p' || gave given 'F', gave given 'd'⟩
      let operands := if operands.isEmpty then ["."] else operands
      let sorted := operands.mergeSort fun a b => a ≤ b
      let sorted := if options.reverse then sorted.reverse else sorted
      let isDirectory (operand : String) : Bool := match i.files.isDirectory operand with
        | .ok b => b && !options.itself
        | .error _ => false
      let missing := operands.filterMap fun operand =>
        match i.files.resolve false operand with
        | .ok (.vacant ..) => some (operand, SystemFault.noEntry)
        | .error (.system fault) => some (operand, fault)
        | _ => none
      let present := sorted.filter fun operand => !(missing.any (·.1 = operand))
      let plain := (present.filter (!isDirectory ·)).map fun operand => listedName options i.files operand operand
      let directories := present.filter isDirectory
      let block (operand : String) : Except String (List String) :=
        match i.files.list operand with
        | .ok names => .ok (listedNames options i.files operand names)
        | .error fault =>
          .error (i.name ++ ": cannot open directory " ++ quoteAlways operand ++ ": " ++ faultText fault ++ "\n")
      let titled := operands.length > 1
      let blocks := directories.map fun operand => (operand, block operand)
      let unreadable := String.join (blocks.map fun
        | (_, .error text) => text
        | _ => "")
      let texts := blocks.filterMap fun
        | (operand, .ok names) =>
          some ((if titled then quoteName operand ++ ":\n" else "") ++ String.join (names.map (· ++ "\n")))
        | _ => none
      let first := if plain.isEmpty then [] else [String.join (plain.map (· ++ "\n"))]
      let errors := String.join (missing.map fun (operand, fault) =>
        i.name ++ ": cannot access " ++ quoteAlways operand ++ ": " ++ fault.text ++ "\n") ++ unreadable
      i.finish (Text.encode (String.intercalate "\n" (first ++ texts))) (Text.encode errors)
        (if errors.isEmpty then 0 else 2)

end CommandShell.Program
