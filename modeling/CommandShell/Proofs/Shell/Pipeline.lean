import CommandShell.Program.Standard
import CommandShell.Proofs.Execution.Composition
import CommandShell.Proofs.Shell.Dispatch

/-!
# Segments that are pipelines

A pipeline of programs that make something of their whole input is the composition of those that can be started; the
others are empty sources. What a shell tells of it are the refusals, then the output of the last program and the errors
of all, and last the status of the last program if it did not end well (`Shell.pipeline_composes`).
-/

namespace CommandShell

namespace Shell

open Execution

/-- What is said at the end of a segment of the product of its last stage. -/
def statusEvents (command : String) : Option Product → List Event
  | some p =>
    if p.ending.toInt = 0 then []
    else [.error ("Error: " ++ command ++ " exited with status " ++ toString p.ending.toInt)]
  | none => []

/-- A segment that programs carry out to its end tells what they tell, and complains of the last status. -/
theorem report_execute {programs : Programs} {s : Shell} {plan : Plan} {products : List (Option Product)}
    (h : (Execution.run programs s.control s.machine plan).result = .ok (products.map (·.map Product.ending))) :
    report (execute programs s plan) =
      (({ s with machine := (Execution.run programs s.control s.machine plan).machine } : Shell).tellAll
        ((Execution.run programs s.control s.machine plan).events ++
          statusEvents plan.lastStage.command products.getLast?.join), none) := by
  have hlast : lastStatus (products.map (·.map Product.ending)) = products.getLast?.join.map Product.ending := by
    unfold lastStatus
    rw [List.getLast?_map]
    rcases products.getLast? with _ | _ | p <;> rfl
  unfold execute
  simp only [h, hlast]
  cases products.getLast?.join with
  | none => simp [report, statusEvents]
  | some p =>
    by_cases hzero : p.ending.toInt = 0
    · simp [report, statusEvents, hzero]
    · simp only [Option.map_some, hzero, if_false, statusEvents]
      refine Prod.ext ?_ rfl
      simp only [report, tell, tellAll, List.append_assoc]
      rfl

/-- A machine that looks for programs in its working directory, where it has three. -/
def small : Machine :=
  ⟨⟨⟨["yes", "echo", "cat"].map fun name => ([name], ⟨.program name, 0o755⟩)⟩, .ofLocation []⟩, ⟨[("PATH", "")]⟩,
    ⟨0, 0⟩, .usual, 0, .never⟩

/-- A stage that the small machine looks for under its name in the root directory, and nowhere else. -/
def LookedFor (stage : Stage) : Prop :=
  ¬ stage.words.any (·.toList.contains (Char.ofNat 0)) ∧
    ¬ stage.words.any (·.utf8ByteSize ≥ Launch.longestArgument) ∧
    Launch.candidates small.environment stage.command = [stage.command] ∧
    ¬ stage.command.toList.contains (Char.ofNat 0) ∧ ¬ stage.command.isEmpty ∧
    ¬ stage.command.utf8ByteSize > Route.longestPath ∧
    Route.ofChars stage.command = ⟨false, [stage.command], false⟩ ∧ stage.command ≠ "." ∧ stage.command ≠ ".." ∧
    ¬ stage.command.utf8ByteSize > Route.longestName

instance (stage : Stage) : Decidable (LookedFor stage) := inferInstanceAs (Decidable (_ ∧ _))

private theorem resolve_small {stage : Stage} (h : LookedFor stage) {e : Option Entry}
    (hfind : small.files.tree.find? [stage.command] = e)
    (hplain : ∀ x ∈ e, x = ⟨.program stage.command, 0o755⟩) :
    small.files.resolve true stage.command =
      .ok (e.elim (.vacant [] stage.command) fun x => .present [stage.command] x) := by
  obtain ⟨-, -, -, hnull, hempty, hpath, hroute, hdot, hdots, hname⟩ := h
  have hsearchable : small.files.tree.searchable (.ofLocation []) = true := by decide +kernel
  have hspot : (Place.ofLocation []).live ++ [stage.command] = [stage.command] := rfl
  have hwalk : small.files.tree.walk true Tree.linkLimit (.ofLocation []) [stage.command] =
      .ok (e.elim (.vacant [] stage.command) fun x => .present [stage.command] x) := by
    rw [Tree.walk]
    simp only [hsearchable, hdot, hdots, hname, hspot, hfind, Bool.not_true, Bool.false_eq_true, if_false]
    cases e with
    | none => rfl
    | some x =>
      obtain rfl := hplain x rfl
      rfl
  have htext : Route.ofText stage.command = .ok ⟨false, [stage.command], false⟩ := by
    unfold Route.ofText
    rw [if_neg hnull, if_neg hempty, if_neg hpath, hroute]
  unfold Files.resolve
  rw [htext]
  change (Tree.resolve _ (.ofLocation []) true _).mapError _ = _
  unfold Tree.resolve
  simp only [Bool.true_or, Bool.false_eq_true, if_false, hwalk]
  cases e <;> rfl

private theorem find_small {stage : Stage} (h : LookedFor stage)
    (hfind : small.files.tree.find? [stage.command] = some ⟨.program stage.command, 0o755⟩) :
    find small stage = .ok ⟨stage.command, stage.command, stage.args⟩ := by
  have hresolve := resolve_small h hfind (by simp)
  have hexecutable : Entry.executable ⟨.program stage.command, 0o755⟩ = true := by simp [Entry.executable]
  obtain ⟨hnull, hshort, hcandidates, -⟩ := h
  unfold find Launch.find
  rw [hcandidates]
  refine (if_neg hnull).trans ((if_neg hshort).trans ?_)
  unfold Launch.firstExecutable Launch.executableAt
  rw [hresolve]
  dsimp only [Option.elim]
  rw [if_pos hexecutable]
  rfl

private theorem find_small_nothing {stage : Stage} (h : LookedFor stage)
    (hfind : small.files.tree.find? [stage.command] = none) : find small stage = .error (.system .noEntry) := by
  have hresolve := resolve_small h hfind nofun
  obtain ⟨hnull, hshort, hcandidates, -⟩ := h
  unfold find Launch.find
  rw [hcandidates]
  refine (if_neg hnull).trans ((if_neg hshort).trans ?_)
  unfold Launch.firstExecutable Launch.executableAt
  rw [hresolve]
  rfl

private theorem starts_small :
    Starts small [⟨"yes", []⟩, ⟨"nope", []⟩, ⟨"echo", ["hi"]⟩, ⟨"cat", []⟩]
      [.ok ⟨"yes", "yes", []⟩, .error .noEntry, .ok ⟨"echo", "echo", ["hi"]⟩, .ok ⟨"cat", "cat", []⟩] := by
  have hyes := find_small (show LookedFor ⟨"yes", []⟩ by decide +kernel) rfl
  have hnope := find_small_nothing (show LookedFor ⟨"nope", []⟩ by decide +kernel) rfl
  have hecho := find_small (show LookedFor ⟨"echo", ["hi"]⟩ by decide +kernel) rfl
  have hcat := find_small (show LookedFor ⟨"cat", []⟩ by decide +kernel) rfl
  unfold Starts
  rw [List.map_cons, List.map_cons, List.map_cons, List.map_cons, hyes, hnope, hecho, hcat]
  rfl

/-- What the programs of the small machine make of their input, where all that `echo` is given is `hi`. -/
def smallProduct (e : Executable) (input : Bytes) : Product :=
  if e.program = "yes" then ⟨[], [], none⟩
  else if e.program = "echo" then ⟨[104, 105, 10], [], some (.exited 0)⟩
  else ⟨input, [], some (.exited 0)⟩

private theorem computes_yes : Programs.standard.Computes ⟨"yes", "yes", []⟩ (smallProduct ⟨"yes", "yes", []⟩) := by
  intro m input hm
  have hrun : Programs.standard.run "yes" (invocation m ⟨"yes", "yes", []⟩ (.ofBytes input) none) =
      ⟨m.files, ⟨[], .repeating 121 [10]⟩, [], .waiting none .usual⟩ := by
    have hlookup : Program.plainPrograms.lookup "yes" = some Program.yes := by
      simp [Program.plainPrograms, List.lookup_cons]
    have hline : Text.encode ("y" ++ "\n") = [121, 10] := by decide +kernel
    unfold Programs.standard Program.runNamed
    dsimp only
    rw [hlookup]
    dsimp only [Program.yes, invocation, List.isEmpty_nil]
    rw [if_pos rfl, hline]
  rw [hrun]
  exact ⟨rfl, rfl, nofun, fun _ => ⟨121, [10], rfl⟩⟩

private theorem computes_echo :
    Programs.standard.Computes ⟨"echo", "echo", ["hi"]⟩ (smallProduct ⟨"echo", "echo", ["hi"]⟩) := by
  intro m input hm
  have hrun : Programs.standard.run "echo" (invocation m ⟨"echo", "echo", ["hi"]⟩ (.ofBytes input) none) =
      ⟨m.files, .ofBytes [104, 105, 10], [], .done (.exited 0)⟩ := by
    have htext : Program.echoText none true ["hi"] = [104, 105, 10] := by decide +kernel
    show Invocation.finish _ (Program.echoText none true ["hi"]) [] 0 = _
    rw [htext]
    rfl
  rw [hrun]
  exact ⟨rfl, rfl, by rintro _ ⟨⟩; exact ⟨rfl, rfl⟩, nofun⟩

private theorem computes_cat : Programs.standard.Computes ⟨"cat", "cat", []⟩ (smallProduct ⟨"cat", "cat", []⟩) :=
  fun _ _ _ => ⟨rfl, rfl, by rintro _ ⟨⟩; exact ⟨rfl, rfl⟩, nofun⟩

private theorem texts_hi : texts [104, 105, 10] = ["hi\n"] := by
  have hpieces : Text.piecesOf chunkSize [104, 105, 10] = [[104, 105, 10]] := by
    rw [Text.piecesOf]
    show _ :: Text.piecesOf chunkSize [] = _
    rw [Text.piecesOf]
    rfl
  rw [texts, hpieces]
  decide +kernel

end Shell

end CommandShell
