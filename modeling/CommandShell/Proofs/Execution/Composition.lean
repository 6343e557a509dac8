import CommandShell.Proofs.Execution.Evolution
import CommandShell.Proofs.Execution.Turns
import CommandShell.Proofs.Files.Standing
import CommandShell.Proofs.Text.Decoding
import Mathlib.Data.List.ReduceOption

/-!
# Pipelines as compositions

Programs that make something of their whole input (`Programs.Computes`) are put one behind another by `compose`: each
reads what the one before it writes, and one that stands behind a stage without a program reads nothing. A pipeline of
such programs comes to this composition (`Execution.pipeline_eq_compose`), whichever of its stages can be started.
-/

namespace CommandShell

/-- What a program makes of its input. -/
structure Product where
  output : Bytes
  errors : Bytes
  /-- How it ends. A program that writes on for ever has no status of its own: it ends when nobody reads on. -/
  status : Option Status
deriving DecidableEq, Repr

namespace Product

/-- The status that a program comes to. -/
def ending (p : Product) : Status := p.status.getD (.killed Status.pipeSignal)

end Product

/-- What comes of a program is a product. -/
structure Run.Makes (r : Run) (p : Product) : Prop where
  output : r.output.head = p.output
  errors : r.errors = p.errors
  ends : ∀ status, p.status = some status → r.output.tail = .ended ∧ r.ending = .done status
  endless : p.status = none → ∃ first others, r.output.tail = .repeating first others

/-- What comes of an executable in a pipeline depends on its input alone. -/
def Programs.Computes (programs : Programs) (e : Executable) (f : Bytes → Product) : Prop :=
  ∀ (m : Machine) (input : Bytes), m.interruption = .never →
    (programs.run e.program (Execution.invocation m e (.ofBytes input) none)).Makes (f input)

namespace Execution

/-- What the executables of a pipeline make of its input, one behind another. -/
def compose (f : Executable → Bytes → Product) (input : Bytes) : List (Option Executable) → List (Option Product)
  | [] => []
  | none :: rest => none :: compose f [] rest
  | some e :: rest => some (f e input) :: compose f (f e input).output rest

/-- What is to be read of a product by the stage behind it; nothing if there is none. -/
def outputOf (product : Option Product) : Bytes := (product.map Product.output).getD []

/-- Whoever writes on for ever stands before a stage that does not read. -/
def EndlessUnread (products : List (Option Product)) : Prop :=
  ∀ i p, products[i]? = some (some p) → p.status = none → products[i + 1]? = some none

section Compose

variable {f : Executable → Bytes → Product}

@[simp] theorem length_compose (input : Bytes) (executables : List (Option Executable)) :
    (compose f input executables).length = executables.length := by
  induction executables generalizing input with
  | nil => rfl
  | cons executable rest ih => cases executable <;> simp [compose, ih]

/-- Each stage reads what the stage before it makes, and the first reads the input. -/
theorem getElem?_compose (input : Bytes) (executables : List (Option Executable)) (i : Nat) :
    (compose f input executables)[i]? =
      executables[i]?.map fun executable => executable.map fun e =>
        f e (match i with
          | 0 => input
          | i + 1 => outputOf ((compose f input executables)[i]?.join)) := by
  induction executables generalizing input i with
  | nil => simp [compose]
  | cons executable rest ih =>
    cases executable with
    | none =>
      cases i with
      | zero => rfl
      | succ i =>
        rw [compose, List.getElem?_cons_succ, List.getElem?_cons_succ, ih]
        cases i <;> simp [outputOf]
    | some e =>
      cases i with
      | zero => rfl
      | succ i =>
        rw [compose, List.getElem?_cons_succ, List.getElem?_cons_succ, ih]
        cases i <;> simp [outputOf]

theorem EndlessUnread.tail {product : Option Product} {products : List (Option Product)}
    (h : EndlessUnread (product :: products)) : EndlessUnread products :=
  fun i p hp hs => h (i + 1) p hp hs

end Compose

/-! ### Running programs one behind another -/

/-- What is seen of a run: its output, its errors, and its status once it has ended. -/
def seen (r : Run) : Product := ⟨r.output.head, r.errors, statusOf r⟩

/-- A product, once the program has ended. -/
def concluded (p : Product) : Product := { p with status := some p.ending }

section RunAll

variable {programs : Programs} {f : Executable → Bytes → Product}

private theorem seen_stopWriter {r : Run} {p : Product} (h : r.Makes p) {readerEnded : Bool}
    (hread : p.status = none → readerEnded = true) : seen (stopWriter r readerEnded) = concluded p := by
  have houtput := h.output
  have herrors := h.errors
  unfold stopWriter
  cases hs : p.status with
  | some status =>
    obtain ⟨htail, hending⟩ := h.ends status hs
    simp [htail, seen, concluded, statusOf, hending, houtput, herrors, Product.ending, hs]
  | none =>
    obtain ⟨first, others, htail⟩ := h.endless hs
    simp [htail, seen, concluded, statusOf, hread hs, houtput, herrors, Product.ending, hs]

/-- Whoever writes on for ever has nobody behind that reads. -/
theorem EndlessUnread.unread {e : Executable} {input : Bytes} {rest : List (Option Executable)}
    (h : EndlessUnread (compose f input (some e :: rest))) (hs : (f e input).status = none) :
    ∃ others, rest = none :: others := by
  have hnext : (compose f (f e input).output rest)[0]? = some none := h 0 (f e input) rfl hs
  cases rest with
  | nil => simp [compose] at hnext
  | cons executable others => cases executable <;> simp [compose] at hnext ⊢

/-- Programs that run one behind another come to the composition of what each makes of its input. -/
theorem runAll_eq_compose {m : Machine} (hm : m.interruption = .never) {executables : List (Option Executable)}
    (hf : ∀ e, some e ∈ executables → programs.Computes e (f e)) {input : Bytes}
    (hu : EndlessUnread (compose f input executables)) :
    (∃ files : Files, m.files.place.Remains files.place ∧
        (runAll programs m (.ofBytes input) executables).1 = { m with files }) ∧
      (runAll programs m (.ofBytes input) executables).2.map (·.map seen) =
        (compose f input executables).map (·.map concluded) := by
  induction executables generalizing m input with
  | nil => exact ⟨⟨m.files, .refl _, rfl⟩, rfl⟩
  | cons executable rest ih =>
    have hrest : ∀ e, some e ∈ rest → programs.Computes e (f e) := fun e he => hf e (List.mem_cons_of_mem _ he)
    cases executable with
    | none =>
      obtain ⟨hfiles, hruns⟩ := ih hm hrest hu.tail
      exact ⟨hfiles, congrArg (none :: ·) hruns⟩
    | some e =>
      have hmakes := hf e (List.mem_cons_self ..) m input hm
      unfold runAll
      generalize programs.run e.program (invocation m e (.ofBytes input) none) = r at hmakes ⊢
      let after : Machine := { m with files := r.files.seenFrom m.files.place }
      -- What is behind reads the output, or does not read at all.
      have hbehind : runAll programs after r.output rest =
          runAll programs after (.ofBytes (f e input).output) rest := by
        cases hs : (f e input).status with
        | some status =>
          obtain ⟨htail, -⟩ := hmakes.ends status hs
          rw [← hmakes.output, Stream.ofBytes, ← htail]
        | none =>
          obtain ⟨others, rfl⟩ := hu.unread hs
          rfl
      obtain ⟨⟨files, hplace, hfiles⟩, hruns⟩ := ih (m := after) hm hrest hu.tail
      have hremains := (r.files.seenFrom_remains m.files.place).trans hplace
      refine ⟨⟨files, hremains, (congrArg Prod.fst hbehind).trans hfiles⟩, ?_⟩
      show some (seen (stopWriter r _)) :: (runAll programs after r.output rest).2.map _ = _
      rw [seen_stopWriter hmakes, hbehind, hruns]
      · rfl
      · intro hs
        obtain ⟨others, rfl⟩ := hu.unread hs
        rfl

end RunAll

/-! ### Starting the stages -/

/-- The system starts the stages or refuses them, as is told. -/
def Starts (m : Machine) (stages : List Stage) (starts : List (Except SystemFault Executable)) : Prop :=
  stages.map (find m) = starts.map (·.mapError .system)

/-- What happens at a stage that is started or refused. -/
def happeningOf : Except SystemFault Executable → Happening Executable Escape
  | .ok e => ⟨none, .started e, none⟩
  | .error fault => ⟨none, .refused fault, none⟩

/-- The errors of the stages that were refused, in order. -/
def refused (stages : List Stage) (starts : List (Except SystemFault Executable)) : List Event :=
  (stages.zip starts).filterMap fun (stage, start) =>
    match start with
    | .ok _ => none
    | .error fault => some (.error ("Error: " ++ stage.command ++ ": " ++ fault.text))

/-- What the products of a pipeline tell the user: the output of the last, and the errors of all. -/
def shown (products : List (Option Product)) : List Event :=
  (texts (outputOf products.getLast?.join)).map .write ++
    (products.filterMap id).flatMap fun p => (texts p.errors).map .writeError

section Pipeline

variable {programs : Programs} {f : Executable → Bytes → Product} {m : Machine} {stages : List Stage}
  {starts : List (Except SystemFault Executable)}

theorem Starts.length_eq (h : Starts m stages starts) : starts.length = stages.length := by
  simpa using (congrArg List.length h).symm

theorem happenings_of_starts (hm : m.interruption = .never) (h : Starts m stages starts) :
    happenings m false stages = (m, starts.map happeningOf) := by
  induction stages generalizing starts with
  | nil =>
    obtain rfl : starts = [] := by simpa [Starts, eq_comm] using h
    rfl
  | cons stage rest ih =>
    cases starts with
    | nil => simp [Starts] at h
    | cons start others =>
      obtain ⟨hfind, hrest⟩ : find m stage = start.mapError .system ∧ Starts m rest others := List.cons.inj h
      unfold happenings
      rw [hfind]
      cases start with
      | ok e => simp [Except.mapError, Machine.countStart_of_never hm, ih hrest, happeningOf]
      | error fault => simp [Except.mapError, ih hrest, happeningOf]

theorem refusals_of_starts (stages : List Stage) (starts : List (Except SystemFault Executable)) :
    refusals stages (starts.map happeningOf) = refused stages starts := by
  unfold refusals refused
  rw [List.zip_map_right, List.filterMap_map]
  refine List.filterMap_congr fun ⟨stage, start⟩ _ => ?_
  cases start <;> rfl

/-- No turn of the wiring breaks off where every stage is started or refused. -/
theorem breakAt_of_starts (hm : m.interruption = .never) (h : Starts m stages starts) {stage : Nat}
    (hs : stage < stages.length) :
    Wiring.breakAt (fun n => ((happenings m false stages).2[n]?).getD ⟨none, .broken .interrupted, none⟩)
      stages.length stage = none := by
  have hs' : stage < starts.length := h.length_eq ▸ hs
  simp only [happenings_of_starts hm h, Wiring.breakAt, Wiring.pipeBreak, List.getElem?_map,
    List.getElem?_eq_getElem hs', Option.map_some, Option.getD_some]
  cases starts[stage] <;> simp [happeningOf, Wiring.startBreak]

theorem wiring_of_starts (hm : m.interruption = .never) (h : Starts m stages starts) :
    (wiring m stages).broken = none ∧ (wiring m stages).processes = starts.map (·.toOption) := by
  have hwire := Wiring.wire_of_no_break _ fun stage hs => breakAt_of_starts hm h hs
  unfold wiring
  rw [hwire]
  refine ⟨rfl, List.ext_getElem? fun i => ?_⟩
  simp only [Wiring.processesOf, happenings_of_starts hm h, List.getElem?_map]
  by_cases hi : i < starts.length
  · rw [List.getElem?_range (h.length_eq ▸ hi), List.getElem?_eq_getElem hi]
    cases hstart : starts[i] <;> simp [hi, hstart, happeningOf, Wiring.processOf, Except.toOption]
  · rw [List.getElem?_eq_none (by simpa [← h.length_eq] using hi), List.getElem?_eq_none (by simpa using hi)]
    rfl

/-- Where every stage is started or refused, the programs that were started run one behind another. -/
theorem pipeline_of_starts (programs : Programs) (control : Control) (hm : m.interruption = .never)
    (h : Starts m stages starts) :
    pipeline programs control m stages =
      conclude control (runAll programs m .empty (starts.map (·.toOption))).1
        (refused stages starts ++ pipelineEvents (runAll programs m .empty (starts.map (·.toOption))).2)
        (runAll programs m .empty (starts.map (·.toOption))).2 := by
  obtain ⟨hbroken, hprocesses⟩ := wiring_of_starts hm h
  unfold wiring at hbroken hprocesses
  unfold pipeline
  dsimp only
  rw [hbroken, hprocesses]
  simp only [happenings_of_starts hm h, hm, refusals_of_starts]
  rfl

@[simp] theorem texts_nil : texts [] = [] := by simp [texts, Text.piecesOf, Text.decodePieces, Text.decodePieces.go,
  Text.Decoder.finish]

/-- What runs tell the user is settled by what is seen of them. -/
theorem pipelineEvents_eq_shown (runs : List (Option Run)) :
    pipelineEvents runs = shown (runs.map (·.map seen)) := by
  have herrors : (runs.map (·.map seen)).filterMap id = (runs.filterMap id).map seen := List.reduceOption_map
  unfold pipelineEvents shown
  rw [herrors, List.flatMap_map, List.getLast?_map]
  rcases runs.getLast? with _ | _ | r
  · simp [outputOf, seen, errorEvents]
  · simp [outputOf, seen, errorEvents]
  · rfl

theorem shown_concluded (products : List (Option Product)) :
    shown (products.map (·.map concluded)) = shown products := by
  have herrors : (products.map (·.map concluded)).filterMap id = (products.filterMap id).map concluded :=
    List.reduceOption_map
  unfold shown
  rw [herrors, List.flatMap_map, List.getLast?_map]
  rcases products.getLast? with _ | _ | p <;> rfl

/-- Where every stage is started or refused, a pipeline comes to the composition of what its programs make. -/
theorem pipeline_eq_compose (control : Control) (hm : m.interruption = .never) (h : Starts m stages starts)
    (hf : ∀ e, .ok e ∈ starts → programs.Computes e (f e))
    (hu : EndlessUnread (compose f [] (starts.map (·.toOption)))) :
    ∃ files : Files, m.files.place.Remains files.place ∧
      pipeline programs control m stages =
        ⟨{ m with files }, refused stages starts ++ shown (compose f [] (starts.map (·.toOption))),
          ((compose f [] (starts.map (·.toOption))).filterMap id).map fun p => some p.ending,
          .ok ((compose f [] (starts.map (·.toOption))).map fun product => product.map Product.ending)⟩ := by
  have hf' : ∀ e, some e ∈ starts.map (·.toOption) → programs.Computes e (f e) := by
    intro e he
    obtain ⟨start, hmem, hstart⟩ := List.mem_map.1 he
    cases start with
    | ok e' =>
      obtain rfl : e' = e := Option.some.inj hstart
      exact hf e' hmem
    | error fault => cases hstart
  obtain ⟨⟨files, hplace, hlast⟩, hruns⟩ := runAll_eq_compose hm hf' hu
  change (runAll programs m .empty _).1 = _ at hlast
  change (runAll programs m .empty _).2.map _ = _ at hruns
  refine ⟨files, hplace, ?_⟩
  rw [pipeline_of_starts programs control hm h]
  generalize compose f [] (starts.map (·.toOption)) = products at hruns ⊢
  generalize runAll programs m .empty (starts.map (·.toOption)) = ran at hlast hruns ⊢
  obtain ⟨last, runs⟩ := ran
  obtain rfl : last = { m with files } := hlast
  have hevents : pipelineEvents runs = shown products := by
    rw [pipelineEvents_eq_shown, hruns, shown_concluded]
  have hresult : runs.map (fun r => r.bind statusOf) = products.map fun product => product.map Product.ending :=
    calc runs.map (fun r => r.bind statusOf)
      _ = (runs.map (·.map seen)).map (·.bind Product.status) := by
        rw [List.map_map]
        exact List.map_congr_left fun r _ => by cases r <;> rfl
      _ = (products.map (·.map concluded)).map (·.bind Product.status) := by rw [hruns]
      _ = products.map fun product => product.map Product.ending := by
        rw [List.map_map]
        exact List.map_congr_left fun product _ => by cases product <;> rfl
  have hchildren : (runs.filterMap id).map statusOf = (products.filterMap id).map fun p => some p.ending := by
    have := congrArg (fun seen => (List.reduceOption seen).map Product.status) hruns
    simp only [List.reduceOption_map, List.map_map] at this
    exact this
  unfold conclude
  simp only [hm, hevents, hresult, hchildren]

end Pipeline

end Execution

end CommandShell
