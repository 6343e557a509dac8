import CommandShell.Proofs.Execution.Evolution
import CommandShell.Proofs.Files.Standing
import CommandShell.Program.Standard

/-!
# Commands with a redirection

A file is read before anything is started, and opened before anything is started, so what goes wrong with it keeps the
command from running. What comes of a redirected command is told here in the order in which things can fail: the file,
the start of the program, and then nothing any more (`Execution.run_redirected`). The programs are taken to be
functions of their arguments and their input (`Programs.Answers`).
-/

namespace CommandShell

/-- What a program makes of its input, and how it ends. -/
structure Answer where
  output : Bytes
  errors : Bytes
  status : Status
deriving DecidableEq, Repr

/-- What an executable does depends on its arguments and its input alone, however much of it is read, and it touches no
file but through its standard streams. -/
def Programs.Answers (programs : Programs) (e : Executable) (f : Bytes → Answer) : Prop :=
  ∀ (m : Machine) (input : Bytes) (outputFile : Option Location), m.interruption = .never →
    programs.run e.program (Execution.invocation m e (.ofBytes input) outputFile) =
      ⟨m.files, .ofBytes (f input).output, (f input).errors, .done (f input).status⟩

/-- What was in a file is kept when a command's output goes there. -/
def RedirectionKind.keeps : RedirectionKind → Bool
  | .append => true
  | .read | .truncate => false

namespace Execution

theorem run_redirected_of_ne (programs : Programs) (control : Control) (m : Machine) (stage : Stage) (path : String)
    {kind : RedirectionKind} (h : kind ≠ .read) :
    run programs control m (.redirected stage ⟨kind, path⟩) =
      withOutput programs control m stage kind.keeps path := by
  cases kind with
  | read => exact absurd rfl h
  | truncate | append => rfl

private theorem tree_addTo_seenFrom (files : Files) (place : Place) (bytes : Bytes) (handle : Handle) :
    ((files.seenFrom place).addTo bytes handle).tree = (files.addTo bytes handle).tree := by
  cases handle with
  | sink => rfl
  | file spot =>
    unfold Files.addTo
    dsimp only [Files.tree_seenFrom]
    split <;> rfl

private theorem place_addTo (files : Files) (bytes : Bytes) (handle : Handle) :
    (files.addTo bytes handle).place = files.place := by
  cases handle with
  | sink => rfl
  | file spot =>
    unfold Files.addTo
    dsimp only
    split <;> rfl

section Single

variable {programs : Programs} {control : Control} {m : Machine} {stage : Stage}

theorem single_of_error {fault : SystemFault} (h : find m stage = .error (.system fault)) (input : Stream)
    (target : Option Handle) :
    single programs control m stage input target = stopped m (.error (.spawn stage.command fault)) := by
  unfold single
  rw [h]
  rfl

variable {e : Executable} {f : Bytes → Answer} (hm : m.interruption = .never) (he : find m stage = .ok e)
  (hf : programs.Answers e f)
include hm he hf

/-- A program whose output goes to the user. -/
theorem single_shown (input : Bytes) :
    single programs control m stage (.ofBytes input) none =
      ⟨{ m with files := m.files.seenFrom m.files.place },
        outputEvents (.ofBytes (f input).output) ++ errorEvents (f input).errors, [some (f input).status],
        .ok [some (f input).status]⟩ := by
  unfold single
  rw [he]
  dsimp only
  rw [Machine.countStart_of_never hm]
  dsimp only
  rw [if_neg (by simp), hf m input none hm]
  unfold conclude
  rw [hm]
  rfl

/-- A program whose output goes to an open file. -/
theorem single_written (input : Bytes) (handle : Handle) :
    single programs control m stage (.ofBytes input) (some handle) =
      ⟨{ m with files := (m.files.seenFrom m.files.place).addTo (f input).output handle },
        errorEvents (f input).errors, [some (f input).status], .ok [some (f input).status]⟩ := by
  unfold single
  rw [he]
  dsimp only
  rw [Machine.countStart_of_never hm]
  dsimp only
  rw [if_neg (by simp), hf m input _ hm]
  unfold conclude
  rw [hm]
  rfl

end Single

/-- A machine with two programs, and a file that holds the line `a`. -/
def desk : Machine :=
  ⟨⟨⟨[(["cat"], ⟨.program "cat", 0o755⟩), (["echo"], ⟨.program "echo", 0o755⟩),
    (["f"], ⟨.file [97, 10], Entry.fileMode⟩)]⟩, .ofLocation []⟩, ⟨[]⟩, ⟨0, 0⟩, .usual, 0, .never⟩

/-- A path of one name, for one who stands in the root directory. -/
private theorem resolve_name {files : Files} (hplace : files.place = .ofLocation []) {path name : String}
    {absolute : Bool} (hroute : Route.ofText path = .ok ⟨absolute, [name], false⟩)
    (hname : name ≠ "." ∧ name ≠ ".." ∧ ¬ name.utf8ByteSize > Route.longestName) {e : Entry}
    (hfind : files.tree.find? [name] = some e) (he : e.isFile = true) :
    files.resolve true path = .ok (.present [name] e) := by
  have hwalk : files.tree.walk true Tree.linkLimit (.ofLocation []) [name] = .ok (.present [name] e) := by
    rw [Tree.walk_name rfl hname.1 hname.2.1 (by decide) hname.2.2]
    have hhere : files.tree.find? ((Place.ofLocation []).live ++ [name]) = some e := hfind
    rw [hhere]
    unfold Entry.isFile at he
    cases hcontent : e.content <;> simp_all [Place.ofLocation]
  have hstart : (if absolute = true then Place.ofLocation [] else files.place) = .ofLocation [] := by
    rw [hplace, ite_self]
  rw [Files.resolve_of_ofText hroute, Tree.resolve_eq_ok_iff.2 ⟨by rw [hstart]; exact hwalk, by simp⟩]
  rfl

private theorem find_of_resolve {files : Files} {command program : String} {args : List String} {spot : Location}
    (hslash : Launch.namesFile command = true)
    (hnull : ¬ (command :: args).any (·.toList.contains (Char.ofNat 0)) = true)
    (hlong : ¬ (command :: args).any (·.utf8ByteSize ≥ Launch.longestArgument) = true)
    (hresolve : files.resolve true command = .ok (.present spot ⟨.program program, 0o755⟩)) :
    find { desk with files } ⟨command, args⟩ = .ok ⟨program, command, args⟩ := by
  unfold find Launch.find
  dsimp only
  rw [if_neg hnull, if_neg hlong]
  unfold Launch.candidates
  rw [if_pos hslash]
  unfold Launch.firstExecutable Launch.executableAt
  rw [hresolve]
  dsimp only
  rw [if_pos (by simp [Entry.executable])]
  rfl

private theorem resolve_desk : desk.files.resolve true "f" = .ok (.present ["f"] ⟨.file [97, 10], Entry.fileMode⟩) :=
  resolve_name rfl (show Route.ofText "f" = .ok ⟨false, ["f"], false⟩ from rfl) (by decide +kernel) rfl rfl

private theorem find_cat : find desk ⟨"/cat", []⟩ = .ok ⟨"cat", "/cat", []⟩ := by
  have hresolve : desk.files.resolve true "/cat" = .ok (.present ["cat"] ⟨.program "cat", 0o755⟩) :=
    resolve_name rfl (show Route.ofText "/cat" = .ok ⟨true, ["cat"], false⟩ from rfl) (by decide +kernel) rfl rfl
  exact find_of_resolve (by decide +kernel) (by decide +kernel) (by decide +kernel) hresolve

/-- The file `f` has been opened and holds what it held. -/
private def opened : Files := { desk.files with tree := desk.files.tree.put ["f"] ⟨.file [97, 10], Entry.fileMode⟩ }

private theorem openForWriting_desk : desk.files.openForWriting true "f" = .ok (opened, .file ["f"]) := by
  have hresolve := resolve_desk
  have hroute : Route.ofText "f" = .ok ⟨false, ["f"], false⟩ := rfl
  rw [Files.resolve_of_ofText hroute] at hresolve
  unfold Files.openForWriting
  rw [hroute]
  simp only [bind, Except.bind]
  rw [if_neg (by decide), hresolve]
  rfl

private theorem find_echo : find { desk with files := opened } ⟨"/echo", ["b"]⟩ = .ok ⟨"echo", "/echo", ["b"]⟩ := by
  have hresolve : opened.resolve true "/echo" = .ok (.present ["echo"] ⟨.program "echo", 0o755⟩) :=
    resolve_name rfl (show Route.ofText "/echo" = .ok ⟨true, ["echo"], false⟩ from rfl) (by decide +kernel) rfl rfl
  exact find_of_resolve (by decide +kernel) (by decide +kernel) (by decide +kernel) hresolve

private theorem answers_cat :
    Programs.standard.Answers ⟨"cat", "/cat", []⟩ fun input => ⟨input, [], .exited 0⟩ := fun _ _ _ _ => rfl

private theorem answers_echo :
    Programs.standard.Answers ⟨"echo", "/echo", ["b"]⟩ fun _ => ⟨[98, 10], [], .exited 0⟩ := by
  intro m input outputFile hm
  have htext : Program.echoText none true ["b"] = [98, 10] := by decide +kernel
  show Invocation.finish _ (Program.echoText none true ["b"]) [] 0 = _
  rw [htext]
  rfl

end Execution

end CommandShell
