import CommandShell.Dialogue
import CommandShell.Proofs.History.Entries
import CommandShell.Proofs.History.Loading
import CommandShell.Proofs.Shell.Line

/-!
# Whole dialogues

A dialogue as a sequence of turns. At each of them the shell waits for a reply: the user has not asked to leave, and
the prompt can be shown (`Shell.Awaits`). What a reply leads to is told without the dialogue (`Shell.heard`). The main
statement is that the replies are taken from the front, turn by turn (`Shell.Turns`), until the shell waits no longer
or no reply is left, that nothing behind them matters, and how the dialogue ends then (`Dialogue.converse_turns`).

It ends without a mishap exactly if the prompt can be shown when the shell waits for the last time, and the path of a
history that is kept can be handed to the system.
-/

namespace CommandShell

/-- The line that a reply gives the shell to run, without the blanks around it; none if nothing is left. -/
def Reply.command? : Reply → Option String
  | .line text | .interruptedLine text _ => if (Text.trim text).isEmpty then none else some (Text.trim text)
  | _ => none

/-- What the user is told of a reply that gives no line to run. -/
def Reply.signs : Reply → List Event
  | .interrupt => [.interrupted]
  | .clearScreen => [.clear]
  | _ => []

/-- What the user is told of a line that is left before its end. -/
def Escape.signs : Escape → List Event
  | .interrupted => [.interrupted]
  | .mishap m => [.error (Dialogue.unexpectedText m)]

/-- What the user is told before a line is run. -/
def Settings.stamps (settings : Settings) (now : Instant) : List Event :=
  if settings.showTimestamp then [.timestamp now] else []

namespace Shell

/-- The prompt can be shown: the working directory is still there, and the home directory is known. -/
def ShowsPrompt (s : Shell) : Prop :=
  s.files.workingDirectory?.isSome = true ∧ s.machine.environment.homePath.isSome = true

/-- The shell waits for a reply. -/
def Awaits (s : Shell) : Prop := s.exitRequested = false ∧ s.ShowsPrompt

/-- The shell on a machine where the user is about to interrupt, if the reply says so. -/
def expecting (s : Shell) : Reply → Shell
  | .interruptedLine _ starts => { s with machine := { s.machine with interruption := .afterStarts starts } }
  | _ => s

/-- The shell after a reply. -/
def heard (programs : Programs) (settings : Settings) (s : Shell) (reply : Reply) : Shell :=
  match reply.command? with
  | none => (s.expecting reply).tellAll reply.signs
  | some line =>
    let ended := ((s.expecting reply).tellAll (settings.stamps s.machine.now)).run programs line
    ended.1.tellAll (ended.2.elim [] Escape.signs)

/-- What the user is told while a line is run. -/
def told (programs : Programs) (s : Shell) (line : String) : List Event :=
  (s.run programs line).1.events.drop s.events.length

/-- What the user is told of a reply: for a line, the time if it is to be shown, then what the line tells, then how it
was left. -/
def heardEvents (programs : Programs) (settings : Settings) (s : Shell) (reply : Reply) : List Event :=
  match reply.command? with
  | none => reply.signs
  | some line =>
    let stamped := (s.expecting reply).tellAll (settings.stamps s.machine.now)
    settings.stamps s.machine.now ++
      (stamped.told programs line ++ (stamped.run programs line).2.elim [] Escape.signs)

/-- What the user is told of replies in turn. -/
def transcript (programs : Programs) (settings : Settings) : Shell → List Reply → List Event
  | _, [] => []
  | s, reply :: rest =>
    s.heardEvents programs settings reply ++ transcript programs settings (s.heard programs settings reply) rest

/-- Replies for which a shell waits one after another, and the shell after them. -/
inductive Turns (programs : Programs) (settings : Settings) : Shell → List Reply → Shell → Prop where
  | nil (s : Shell) : Turns programs settings s [] s
  | cons {s t : Shell} {reply : Reply} {rest : List Reply} (hawaits : s.Awaits) (hreply : reply ≠ .endOfInput)
    (hrest : Turns programs settings (s.heard programs settings reply) rest t) :
    Turns programs settings s (reply :: rest) t

@[simp] theorem tellAll_nil (s : Shell) : s.tellAll [] = s := by simp [tellAll]

section Turns

variable {programs : Programs} {settings : Settings} {s t : Shell} {replies : List Reply}

theorem history_heard (programs : Programs) (settings : Settings) (hs : s.registry.Selfless) (reply : Reply) :
    (s.heard programs settings reply).history = s.history.appendAll reply.command?.toList ∧
      (s.heard programs settings reply).registry.Selfless := by
  have hregistry : (s.expecting reply).registry = s.registry := by cases reply <;> rfl
  have hhistory : (s.expecting reply).history = s.history := by cases reply <;> rfl
  unfold heard
  cases reply.command? with
  | none => exact ⟨hhistory, hregistry ▸ hs⟩
  | some line =>
    have hstamped : ((s.expecting reply).tellAll (settings.stamps s.machine.now)).registry.Selfless := hregistry ▸ hs
    obtain ⟨hrun, hkept⟩ := run_history programs hstamped line
    exact ⟨hrun.trans (congrArg (·.append line) hhistory), hkept⟩

theorem Turns.history_eq (h : Turns programs settings s replies t) (hs : s.registry.Selfless) :
    t.history = s.history.appendAll (replies.filterMap Reply.command?) := by
  induction h with
  | nil => rfl
  | @cons s t reply rest _ _ _ ih =>
    obtain ⟨hhistory, hkept⟩ := history_heard programs settings hs reply
    rw [ih hkept, hhistory]
    cases hcommand : reply.command? <;> simp [hcommand, History.appendAll]

theorem events_run (programs : Programs) (s : Shell) (line : String) :
    (s.run programs line).1.events = s.events ++ s.told programs line := by
  obtain ⟨es, hes⟩ := run_events programs s line
  unfold told
  rw [← hes, List.drop_left]

theorem events_heard (programs : Programs) (settings : Settings) (s : Shell) (reply : Reply) :
    (s.heard programs settings reply).events = s.events ++ s.heardEvents programs settings reply := by
  have hevents : (s.expecting reply).events = s.events := by cases reply <;> rfl
  unfold heard heardEvents
  cases reply.command? with
  | none => exact congrArg (· ++ reply.signs) hevents
  | some line =>
    dsimp only [tellAll]
    rw [events_run, hevents, List.append_assoc, List.append_assoc]

theorem Turns.events_eq (h : Turns programs settings s replies t) :
    t.events = s.events ++ s.transcript programs settings replies := by
  induction h with
  | nil s => exact (List.append_nil _).symm
  | cons _ _ _ ih =>
    rw [ih, events_heard, List.append_assoc]
    rfl

end Turns

end Shell

namespace Dialogue

variable {d : Dialogue}

theorem ask_of_showsPrompt (h : d.shell.ShowsPrompt) :
    ∃ asked, d.ask = .ok asked ∧ asked.shell = d.shell ∧ asked.settings = d.settings ∧
      asked.keepsHistory = d.keepsHistory := by
  obtain ⟨directory, hdirectory⟩ := Option.isSome_iff_exists.1 h.1
  obtain ⟨home, hhome⟩ := Option.isSome_iff_exists.1 h.2
  unfold ask promptText
  rw [hdirectory]
  dsimp only
  rw [hhome]
  exact ⟨_, rfl, rfl, rfl, rfl⟩

theorem ask_of_not_showsPrompt (h : ¬ d.shell.ShowsPrompt) : ∃ m, d.ask = .error m := by
  unfold ask promptText
  cases hdirectory : d.shell.files.workingDirectory? with
  | none => exact ⟨_, rfl⟩
  | some directory =>
    cases hhome : d.shell.machine.environment.homePath with
    | none => exact ⟨_, rfl⟩
    | some home => exact absurd ⟨by simp [hdirectory], by simp [hhome]⟩ h

/-- A dialogue under the same settings, whose history is saved in the end if that of the first is. -/
def SameRules (d other : Dialogue) : Prop := other.settings = d.settings ∧ other.keepsHistory = d.keepsHistory

theorem runLine_eq (programs : Programs) (d : Dialogue) (line : String) :
    (d.runLine programs line).shell =
        (d.shell.run programs line).1.tellAll ((d.shell.run programs line).2.elim [] Escape.signs) ∧
      d.SameRules (d.runLine programs line) := by
  unfold runLine
  rcases d.shell.run programs line with ⟨s, _ | m | _⟩
  · exact ⟨(s.tellAll_nil).symm, rfl, rfl⟩
  · exact ⟨rfl, rfl, rfl⟩
  · exact ⟨rfl, rfl, rfl⟩

section Turn

variable (programs : Programs)

theorem take_of_blank {text : String} (h : (Text.trim text).isEmpty = true) : d.take programs text = d := by
  unfold take
  rw [if_pos h]

theorem take_of_command {text : String} (h : ¬ (Text.trim text).isEmpty = true) :
    (d.take programs text).shell =
        (let ended := (d.shell.tellAll (d.settings.stamps d.shell.machine.now)).run programs (Text.trim text)
        ended.1.tellAll (ended.2.elim [] Escape.signs)) ∧
      d.SameRules (d.take programs text) := by
  unfold take
  rw [if_neg h]
  unfold Settings.stamps
  cases hstamp : d.settings.showTimestamp with
  | true => exact runLine_eq programs (d.tell (.timestamp d.shell.machine.now)) (Text.trim text)
  | false => simpa using runLine_eq programs d (Text.trim text)

/-- A line is taken as it is heard. -/
theorem take_eq_heard (reply : Reply) {text : String}
    (hcommand : reply.command? = if (Text.trim text).isEmpty then none else some (Text.trim text))
    (hsigns : reply.signs = []) :
    (({ d with shell := d.shell.expecting reply } : Dialogue).take programs text).shell =
        d.shell.heard programs d.settings reply ∧
      d.SameRules (({ d with shell := d.shell.expecting reply } : Dialogue).take programs text) := by
  have hnow : (d.shell.expecting reply).machine.now = d.shell.machine.now := by cases reply <;> rfl
  unfold Shell.heard
  rw [hcommand]
  by_cases hblank : (Text.trim text).isEmpty = true
  · rw [take_of_blank programs hblank, if_pos hblank, hsigns]
    exact ⟨(Shell.tellAll_nil _).symm, rfl, rfl⟩
  · rw [if_neg hblank, ← hnow]
    exact take_of_command programs hblank

theorem receive_of_ne {reply : Reply} (hreply : reply ≠ .endOfInput) :
    ∃ after, d.receive programs reply = some after ∧ after.shell = d.shell.heard programs d.settings reply ∧
      d.SameRules after := by
  cases reply with
  | line text => exact ⟨_, rfl, take_eq_heard programs (.line text) rfl rfl⟩
  | interruptedLine text starts => exact ⟨_, rfl, take_eq_heard programs (.interruptedLine text starts) rfl rfl⟩
  | clearScreen => exact ⟨_, rfl, rfl, rfl, rfl⟩
  | interrupt => exact ⟨_, rfl, rfl, rfl, rfl⟩
  | endOfInput => exact absurd rfl hreply

/-- How a dialogue ends with a shell that waits for no further reply, or for one that does not come. -/
structure Closes (keepsHistory : Bool) (s : Shell) (ended : Dialogue × Option Mishap) : Prop where
  proper : ended.2 = none ↔ (s.exitRequested = true ∨ s.ShowsPrompt) ∧
    (keepsHistory = true → ∀ path, s.history.file = some path → ¬ Text.HoldsNull path.text)
  kept : ended.2 = none → keepsHistory = true → ∃ files saved, s.history.save s.files = .ok (files, saved) ∧
    ended.1.shell = ((s.setFiles files).tellAll (if saved then [] else [.warning unsavedText])).tell .goodbye
  notKept : ended.2 = none → keepsHistory = false → ended.1.shell = s.tell .goodbye
  brokenOff : ended.2 ≠ none → ended.1.shell = s

theorem closes_finish (h : d.shell.exitRequested = true ∨ d.shell.ShowsPrompt) :
    Closes d.keepsHistory d.shell d.finish := by
  unfold finish close
  cases hkeeps : d.keepsHistory with
  | false => exact ⟨by simp [h], nofun, fun _ _ => rfl, fun hne => absurd rfl hne⟩
  | true =>
    -- Whether saving answers at all depends on the path alone, whatever the answer is.
    have hsave := History.exists_save_iff d.shell.history d.shell.files
    cases hanswer : d.shell.history.save d.shell.files with
    | error fault =>
      have hnull : ¬ ∀ path, d.shell.history.file = some path → ¬ Text.HoldsNull path.text := by
        rw [← hsave, hanswer]
        simp
      exact ⟨by simp [hnull], nofun, nofun, fun _ => rfl⟩
    | ok answer =>
      obtain ⟨files, saved⟩ := answer
      have hnull := hsave.1 ⟨_, hanswer⟩
      refine ⟨iff_of_true rfl ⟨h, fun _ => hnull⟩, fun _ _ => ⟨files, saved, hanswer, ?_⟩, nofun,
        fun hne => absurd rfl hne⟩
      cases saved with
      | true => exact congrArg (·.tell .goodbye) (Shell.tellAll_nil _).symm
      | false => rfl

/-- A shell that does not wait takes no reply. -/
theorem closes_of_not_awaits (h : ¬ d.shell.Awaits) (replies : List Reply) :
    Closes d.keepsHistory d.shell (d.converse programs replies) := by
  cases hexit : d.shell.exitRequested with
  | true =>
    have hfinish : d.converse programs replies = d.finish := by cases replies <;> simp [converse, hexit]
    rw [hfinish]
    exact closes_finish (.inl hexit)
  | false =>
    have hprompt : ¬ d.shell.ShowsPrompt := fun hshows => h ⟨hexit, hshows⟩
    obtain ⟨m, hask⟩ := ask_of_not_showsPrompt hprompt
    have hbroken : d.converse programs replies = (d, some m) := by cases replies <;> simp [converse, hexit, hask]
    rw [hbroken]
    exact ⟨by simp [hexit, hprompt], nofun, nofun, fun _ => rfl⟩

/-- Where nothing comes any more the dialogue ends as if the user had asked to leave. -/
theorem closes_of_awaits (h : d.shell.Awaits) {replies : List Reply}
    (hend : replies = [] ∨ ∃ later, replies = .endOfInput :: later) :
    Closes d.keepsHistory d.shell (d.converse programs replies) := by
  obtain ⟨hexit, hprompt⟩ := h
  obtain ⟨asked, hask, hshell, -, hkeeps⟩ := ask_of_showsPrompt hprompt
  have hfinish : d.converse programs replies = asked.finish := by
    rcases hend with rfl | ⟨later, rfl⟩ <;> simp [converse, hexit, hask, receive]
  rw [hfinish, ← hshell, ← hkeeps]
  exact closes_finish (.inr (hshell ▸ hprompt))

/-- One turn. -/
theorem converse_of_awaits (h : d.shell.Awaits) {reply : Reply} (hreply : reply ≠ .endOfInput) (rest : List Reply) :
    ∃ after, d.converse programs (reply :: rest) = after.converse programs rest ∧
      after.shell = d.shell.heard programs d.settings reply ∧ d.SameRules after := by
  obtain ⟨hexit, hprompt⟩ := h
  obtain ⟨asked, hask, hshell, hsettings, hkeeps⟩ := ask_of_showsPrompt hprompt
  obtain ⟨after, hafter, hheard, hrules⟩ := receive_of_ne programs (d := asked) hreply
  refine ⟨after, by simp [converse, hexit, hask, hafter], ?_, ?_, ?_⟩
  · rw [hheard, hshell, hsettings]
  · rw [hrules.1, hsettings]
  · rw [hrules.2, hkeeps]

theorem exists_turns (d : Dialogue) (replies : List Reply) :
    ∃ taken rest s, replies = taken ++ rest ∧ Shell.Turns programs d.settings d.shell taken s ∧
      (s.Awaits → rest = [] ∨ ∃ later, rest = .endOfInput :: later) ∧
      Closes d.keepsHistory s (d.converse programs replies) := by
  -- Each turn leaves another dialogue under the same rules, so the induction is for every dialogue at once.
  induction replies generalizing d with
  | nil =>
    refine ⟨[], [], d.shell, rfl, .nil _, fun _ => .inl rfl, ?_⟩
    by_cases hawaits : d.shell.Awaits
    · exact closes_of_awaits programs hawaits (.inl rfl)
    · exact closes_of_not_awaits programs hawaits []
  | cons reply rest ih =>
    by_cases hawaits : d.shell.Awaits
    · by_cases hreply : reply = .endOfInput
      · subst hreply
        exact ⟨[], .endOfInput :: rest, d.shell, rfl, .nil _, fun _ => .inr ⟨rest, rfl⟩,
          closes_of_awaits programs hawaits (.inr ⟨rest, rfl⟩)⟩
      · obtain ⟨after, hconverse, hheard, hsettings, hkeeps⟩ :=
          converse_of_awaits programs hawaits hreply rest
        obtain ⟨taken, left, s, rfl, hturns, hend, hcloses⟩ := ih after
        rw [hheard, hsettings] at hturns
        rw [hkeeps] at hcloses
        exact ⟨reply :: taken, left, s, rfl, .cons hawaits hreply hturns, hend, hconverse ▸ hcloses⟩
    · exact ⟨[], reply :: rest, d.shell, rfl, .nil _, fun h => absurd h hawaits, closes_of_not_awaits programs hawaits _⟩

end Turn

/-- A dialogue greets the user and takes replies turn by turn, until its shell no longer waits for one or nothing comes
any more; then it ends as `Closes` tells. What has been told is the greeting, and then what each turn tells. All the
lines that were run, and nothing else, have been added to the history. -/
theorem converse_turns (programs : Programs) (shell : Shell) (settings : Settings) (keepsHistory : Bool)
    (replies : List Reply) :
    ∃ taken rest s, replies = taken ++ rest ∧
      Shell.Turns programs settings (shell.tellAll Event.welcome) taken s ∧
      (s.Awaits → rest = [] ∨ ∃ later, rest = .endOfInput :: later) ∧
      s.events = shell.events ++ Event.welcome ++ (shell.tellAll Event.welcome).transcript programs settings taken ∧
      (shell.registry.Selfless → shell.history.Capped →
        s.history.entries =
          (shell.history.entries ++ taken.filterMap Reply.command?).rtake shell.history.maxSize.toNat) ∧
      Closes keepsHistory s ((start shell settings keepsHistory).converse programs replies) := by
  obtain ⟨taken, rest, s, hreplies, hturns, hend, hcloses⟩ :=
    exists_turns programs (start shell settings keepsHistory) replies
  refine ⟨taken, rest, s, hreplies, hturns, hend, hturns.events_eq, fun hs hcap => ?_, hcloses⟩
  rw [hturns.history_eq hs]
  exact History.entries_appendAll hcap _

/-- A shell whose working directory has been removed. -/
def stranded : Shell := (Shell.bare .builtins).setFiles ⟨⟨[]⟩, ⟨[], ["d"]⟩⟩

/-- Where the prompt cannot be shown, a line is not run, nor is the user told goodbye. -/
theorem converse_stranded :
    (start stranded (.default History.barePath) true).converse ⟨[], fun _ i => i.finish [] [] 0⟩
        [.line "echo hi", .endOfInput] =
      (⟨stranded.tellAll Event.welcome, .default History.barePath, true, []⟩, some (.system .noEntry none)) ∧
      stranded.exitRequested = false ∧ (stranded.tellAll Event.welcome).history.entries = [] :=
  ⟨rfl, rfl, rfl⟩

end Dialogue

end CommandShell
