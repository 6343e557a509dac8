import CommandShell.CommandLine.Running
import CommandShell.Proofs.History.Loading
import CommandShell.Proofs.Shell.Resolution

/-!
# What a history file does to the start of the shell

A shell is made from settings and a loaded history, so once the settings are read it is the history file alone that
can keep it from being made (`CommandLine.prepare_of_load`).
-/

namespace CommandShell

namespace CommandLine

/-- The history of a new shell, before it is loaded. -/
def emptyHistory (c : CommandLine) (settings : Settings) : History :=
  .empty settings.maxHistorySize (if c.keepsHistory then some settings.historyFile else none)

theorem prepare_of_load {machine : Machine} {historyFile : Path} (c : CommandLine) {settings : Settings}
    (hsettings : Settings.readWithFile [] machine.environment machine.files historyFile = .ok settings) :
    c.prepare machine historyFile =
      match (c.emptyHistory settings).load machine.files with
      | .ok history =>
        .ok (settings, .start .builtins history ⟨settings.terminateOnInterrupt, settings.killGraceSeconds⟩ machine)
      | .error m => .error (.escape (.mishap m)) := by
  unfold prepare
  rw [hsettings]
  show (((c.emptyHistory settings).load machine.files).mapError _ >>= _) = _
  cases (c.emptyHistory settings).load machine.files <;> rfl

/-- A history file keeps the shell from being made exactly if the system cannot tell what its path leads to, or if it
may be read and holds no text; nothing else is lost by a file that cannot be read, or written. -/
theorem history_file_faults (h : History) (files : Files) (machine : Machine) (historyFile : Path) (c : CommandLine) :
    (∀ m, h.load files = .error m ↔ h.LoadFault files m) ∧
      (∀ s, h.HoldsText files s → h.load files = .ok (h.appendAll (History.linesOfText s.toList))) ∧
      ((∀ m, ¬ h.LoadFault files m) → (∀ s, ¬ h.HoldsText files s) → h.load files = .ok h) ∧
      ((∃ answer, h.save files = .ok answer) ↔ ∀ path, h.file = some path → ¬ Text.HoldsNull path.text) ∧
      (∀ after, h.save files = .ok (after, false) → after = files) ∧
      ∀ settings, Settings.readWithFile [] machine.environment machine.files historyFile = .ok settings →
        ((∀ m, ¬ (c.emptyHistory settings).LoadFault machine.files m) ↔
          ∃ shell, c.prepare machine historyFile = .ok (settings, shell) ∧
            ∀ b : Builtin, shell.registry.find? b.name = some (.native (.builtin b) b.description)) := by
  refine ⟨fun m => History.load_eq_error_iff, fun s => History.load_of_holdsText, fun hfault htext => ?_,
    History.exists_save_iff h files, fun after => History.save_unsaved, fun settings hsettings => ?_⟩
  · rcases h.load_cases files with ⟨m, hm⟩ | ⟨s, hs⟩ | hsame
    · exact absurd hm (hfault m)
    · exact absurd hs (htext s)
    · exact hsame
  · rw [prepare_of_load c hsettings]
    simp only [← History.load_eq_error_iff]
    cases (c.emptyHistory settings).load machine.files with
    | error m => simp
    | ok history => simp [Shell.start, Registry.find?_builtins]

end CommandLine

end CommandShell
