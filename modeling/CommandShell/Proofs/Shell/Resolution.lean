import CommandShell.Proofs.Lookup
import CommandShell.Proofs.Shell.Dispatch
import CommandShell.Proofs.Shell.Frame
import Mathlib.Data.Finset.Card

/-!
# Resolving aliases

What a text comes to once its aliases have been expanded: a refusal, a command that the shell runs itself, or a
plan for programs. It depends on the registry and on the aliases already being expanded, and on nothing else. The
main statement is that running a segment does what the text comes to, once, and leaves the aliases being expanded
as it found them (`runSegment_eq_resolve`).
-/

namespace CommandShell

/-- What a text comes to. -/
inductive Leaf where
  | refused (e : ParseError)
  | native (stage : Stage) (handler : Handler)
  | external (plan : Plan)
deriving DecidableEq, Repr

/-- The aliases that are expanded on the way, in order, and what is reached in the end. -/
structure Resolution where
  expanded : List String
  leaf : Leaf
deriving DecidableEq, Repr

namespace Registry

/-- The aliases that may still be expanded. -/
def unseen (r : Registry) (seen : List String) : Finset String := r.aliasNames.toFinset \ seen.toFinset

theorem card_unseen_lt {r : Registry} {seen : List String} {name line : String}
    (h : r.find? name = some (.aliasOf line)) (hn : name ∉ seen) :
    (r.unseen (name :: seen)).card < (r.unseen seen).card := by
  refine Finset.card_lt_card ((Finset.ssubset_iff_of_subset ?_).2 ⟨name, ?_, ?_⟩)
  · intro x hx
    simp only [unseen, Finset.mem_sdiff, List.mem_toFinset, List.mem_cons, not_or] at hx ⊢
    exact ⟨hx.1, hx.2.2⟩
  · simp [unseen, mem_aliasNames h, hn]
  · simp [unseen]

/-- Resolves what a text reads as. `inner` resolves the text that takes the place of an alias. -/
def resolveReadWith (r : Registry) (seen : List String)
    (inner : (name : String) → (r.unseen (name :: seen)).card < (r.unseen seen).card → String → Resolution) :
    Except ParseError Plan → Resolution
  | .error e => ⟨[], .refused e⟩
  | .ok (.command stage) =>
    match h : r.find? stage.command with
    | none => ⟨[], .external (.command stage)⟩
    | some (.native handler _) => ⟨[], .native stage handler⟩
    | some (.aliasOf line) =>
      if hn : stage.command ∈ seen then ⟨[], .external (.command stage)⟩
      else
        let rest := inner stage.command (card_unseen_lt h hn) (Text.spaced (line :: stage.args))
        ⟨stage.command :: rest.expanded, rest.leaf⟩
  | .ok plan => ⟨[], .external plan⟩

/-- Expands the aliases of a text until something else is reached. An alias in `seen` is not expanded. -/
def resolve (r : Registry) (seen : List String) (text : String) : Resolution :=
  resolveReadWith r seen (fun name _ next => resolve r (name :: seen) next) (Plan.ofSegment text)
termination_by (r.unseen seen).card

section Turns

variable {r : Registry} {seen : List String} {text : String}

theorem resolve_of_error {e : ParseError} (h : Plan.ofSegment text = .error e) :
    r.resolve seen text = ⟨[], .refused e⟩ := by
  rw [resolve, h]
  rfl

theorem resolve_of_leaves {plan : Plan} (h : Plan.ofSegment text = .ok plan) (hl : r.Leaves seen plan) :
    r.resolve seen text = ⟨[], .external plan⟩ := by
  rw [resolve, h]
  cases hl with
  | unregistered hf =>
    unfold resolveReadWith
    dsimp only
    split <;> simp_all
  | expanding hf hn =>
    unfold resolveReadWith
    dsimp only
    split <;> simp_all
  | redirected | pipeline => rfl

theorem resolve_of_native {stage : Stage} {handler : Handler} {description : String}
    (h : Plan.ofSegment text = .ok (.command stage))
    (hf : r.find? stage.command = some (.native handler description)) :
    r.resolve seen text = ⟨[], .native stage handler⟩ := by
  rw [resolve, h]
  unfold resolveReadWith
  dsimp only
  split <;> simp_all

theorem resolve_of_alias {stage : Stage} {line : String} (h : Plan.ofSegment text = .ok (.command stage))
    (hf : r.find? stage.command = some (.aliasOf line)) (hn : stage.command ∉ seen) :
    r.resolve seen text =
      ⟨stage.command :: (r.resolve (stage.command :: seen) (Text.spaced (line :: stage.args))).expanded,
        (r.resolve (stage.command :: seen) (Text.spaced (line :: stage.args))).leaf⟩ := by
  rw [resolve, h]
  unfold resolveReadWith
  dsimp only
  split
  · simp_all
  · simp_all
  · next line' hf' =>
    obtain rfl := Action.aliasOf.inj (Option.some.inj (hf'.symm.trans hf))
    rw [dif_neg hn]

end Turns

/-- Every expansion uses up an alias. -/
theorem length_expanded_le (r : Registry) (seen : List String) (text : String) :
    (r.resolve seen text).expanded.length ≤ (r.unseen seen).card := by
  rcases r.turn_cases seen text with ⟨e, h⟩ | ⟨plan, h, hl⟩ | ⟨stage, handler, description, h, hf⟩ |
    ⟨stage, line, h, hf, hn⟩
  · simp [resolve_of_error h]
  · simp [resolve_of_leaves h hl]
  · simp [resolve_of_native h hf]
  · rw [resolve_of_alias h hf hn]
    exact Nat.lt_of_le_of_lt (length_expanded_le r _ _) (card_unseen_lt hf hn)
termination_by (r.unseen seen).card
decreasing_by exact card_unseen_lt hf hn

/-- No native command gives the shell another line to run. -/
def Selfless (r : Registry) : Prop :=
  ∀ name line description, r.find? name ≠ some (.native (.rerun line) description)

private theorem mem_actions_of_find? {r : Registry} {name : String} {action : Action}
    (h : r.find? name = some action) : (name, action) ∈ r.actions := by
  obtain ⟨before, after, hactions, -⟩ := List.lookup_eq_some_iff.1 h
  simp [hactions]

/-- No native command reruns a line if none of the registered ones does. -/
theorem selfless_of_forall_actions {r : Registry}
    (h : ∀ entry ∈ r.actions, ∀ line description, entry.2 ≠ .native (.rerun line) description) : r.Selfless :=
  fun _ line description hfind => h _ (mem_actions_of_find? hfind) line description rfl

/-- Registering a name changes what this name stands for and nothing else. -/
theorem find?_enrol? {r r' : Registry} {name : String} {action : Action} (h : r.enrol? name action = some r')
    (other : String) : r'.find? other = if other = name then some action else r.find? other := by
  unfold enrol? at h
  split at h
  · obtain rfl := Option.some.inj h
    exact lookup_replace r.actions name other action
  · simp at h

/-- Every built-in is registered under its name. -/
theorem find?_builtins (b : Builtin) : builtins.find? b.name = some (.native (.builtin b) b.description) := by
  cases b <;> decide +kernel

/-- The commands of a new shell give it no line to run. -/
theorem selfless_builtins : builtins.Selfless := selfless_of_forall_actions (by simp [builtins])

/-- An alias gives the shell no line to run either: it takes the place of a segment. -/
theorem Selfless.addAlias? {r r' : Registry} (hs : r.Selfless) {name line : String}
    (h : r.addAlias? name line = some r') : r'.Selfless := by
  intro other line' description
  rw [find?_enrol? h]
  split
  · simp
  · exact hs other line' description

/-- A text does not come to a command that gives the shell another line, if there is none. -/
theorem Selfless.resolve_leaf_ne {r : Registry} (hs : r.Selfless) (seen : List String) (text : String) (stage : Stage)
    (line : String) : (r.resolve seen text).leaf ≠ .native stage (.rerun line) := by
  rcases r.turn_cases seen text with ⟨e, h⟩ | ⟨plan, h, hl⟩ | ⟨stage', handler, description, h, hf⟩ |
    ⟨stage', line', h, hf, hn⟩
  · simp [resolve_of_error h]
  · simp [resolve_of_leaves h hl]
  · rw [resolve_of_native h hf]
    intro heq
    obtain ⟨-, rfl⟩ := Leaf.native.inj heq
    exact hs _ _ _ hf
  · rw [resolve_of_alias h hf hn]
    exact hs.resolve_leaf_ne _ _ stage line
termination_by (r.unseen seen).card
decreasing_by exact card_unseen_lt hf hn

end Registry

namespace Shell

/-- The shell with other aliases being expanded. -/
def setExpanding (s : Shell) (names : List String) : Shell := { s with expanding := names }

@[simp] theorem setExpanding_expanding (s : Shell) (names : List String) : (s.setExpanding names).expanding = names :=
  rfl

@[simp] theorem setExpanding_registry (s : Shell) (names : List String) :
    (s.setExpanding names).registry = s.registry := rfl

@[simp] theorem setExpanding_tell (s : Shell) (names : List String) (e : Event) :
    (s.setExpanding names).tell e = (s.tell e).setExpanding names := rfl

theorem setExpanding_self (s : Shell) : s.setExpanding s.expanding = s := rfl

/-- Does what a text comes to. -/
def perform (programs : Programs) (rerun : Shell → String → Shell × Option Escape) (s : Shell) :
    Leaf → Shell × Option Stop
  | .refused e => (s, some (.error (.parse e)))
  | .native stage handler => runHandler programs rerun s stage handler
  | .external plan => execute programs s plan

/-- Ends a segment of which some aliases were expanded: a mishap becomes an error of the alias that was expanded
last, and without one it goes on. -/
def settle (expanded : List String) : Shell × Option Stop → Shell × Option Escape
  | (s, some (.escape (.mishap m))) =>
    match expanded.getLast? with
    | some name => report (s, some (.error (.builtin name (.mishap m))))
    | none => (s, some (.mishap m))
  | ended => report ended

/-- What is being expanded are aliases. -/
def ExpandsAliases (s : Shell) : Prop :=
  ∀ name ∈ s.expanding, ∃ line, s.registry.find? name = some (.aliasOf line)

private theorem steady_setExpanding (names : List String) : Steady fun s t => t = s.setExpanding names where
  registry h := by rw [h]; rfl
  machine h := by rw [h]; rfl
  tell h e := by rw [h]; rfl
  evolve h _ := by rw [h]; rfl
  enrol h _ _ := by rw [h]; rfl
  requestExit h := by rw [h]; rfl

/-- A handler does not look at the aliases that are being expanded. -/
theorem runHandler_setExpanding (programs : Programs) (rerun : Shell → String → Shell × Option Escape) (s : Shell)
    (names : List String) (stage : Stage) {handler : Handler} (h : ∀ line, handler ≠ .rerun line) :
    runHandler programs rerun (s.setExpanding names) stage handler =
      ((runHandler programs rerun s stage handler).1.setExpanding names,
        (runHandler programs rerun s stage handler).2) := by
  cases handler with
  | builtin b =>
    have hrun : Builtin.run programs b (s.setExpanding names) stage.args =
        ((Builtin.run programs b s stage.args).1.setExpanding names, (Builtin.run programs b s stage.args).2) := by
      obtain ⟨hshell, hfailure⟩ :=
        Builtin.run_related (s := s) (steady_setExpanding names) programs b rfl (fun _ => rfl) stage.args
      exact Prod.ext hshell hfailure.symm
    simp only [runHandler, hrun]
    rcases Builtin.run programs b s stage.args with ⟨after, _ | complaint | mishap | _⟩ <;> rfl
  | record | fail | refuse => rfl
  | rerun line => exact absurd rfl (h line)

theorem execute_setExpanding (programs : Programs) (s : Shell) (names : List String) (plan : Plan) :
    execute programs (s.setExpanding names) plan =
      ((execute programs s plan).1.setExpanding names, (execute programs s plan).2) := by
  unfold execute
  dsimp only [setExpanding]
  split
  · rfl
  · split
    · split <;> rfl
    · rfl

/-- What a text comes to does not depend on the aliases that are being expanded. -/
theorem perform_setExpanding (programs : Programs) (rerun : Shell → String → Shell × Option Escape) (s : Shell)
    (names : List String) {leaf : Leaf} (h : ∀ stage line, leaf ≠ .native stage (.rerun line)) :
    perform programs rerun (s.setExpanding names) leaf =
      ((perform programs rerun s leaf).1.setExpanding names, (perform programs rerun s leaf).2) := by
  cases leaf with
  | refused e => rfl
  | native stage handler =>
    exact runHandler_setExpanding programs rerun s names stage fun line he => h stage line (by rw [he])
  | external plan => exact execute_setExpanding programs s names plan

theorem perform_expanding (programs : Programs) (rerun : Shell → String → Shell × Option Escape) (s : Shell)
    {leaf : Leaf} (h : ∀ stage line, leaf ≠ .native stage (.rerun line)) :
    (perform programs rerun s leaf).1.expanding = s.expanding := by
  have := perform_setExpanding programs rerun s s.expanding h
  rw [setExpanding_self] at this
  rw [this]
  rfl

private theorem filter_of_notMem {names : List String} {name : String} (h : name ∉ names) :
    names.filter (· ≠ name) = names := by
  rw [List.filter_eq_self]
  intro x hx
  simpa using fun he : x = name => h (he ▸ hx)

private theorem endExpansion_of_notMem {s : Shell} {name : String} (h : name ∉ s.expanding) :
    s.endExpansion name = s := by
  unfold endExpansion
  rw [filter_of_notMem h]

private theorem endExpansion_expand {s : Shell} {name : String} (h : name ∉ s.expanding) :
    (s.setExpanding (name :: s.expanding)).endExpansion name = s := by
  have hfilter : (name :: s.expanding).filter (· ≠ name) = s.expanding := by
    rw [List.filter_cons_of_neg (by simp), filter_of_notMem h]
  unfold endExpansion
  rw [setExpanding_expanding, hfilter]
  rfl

private theorem settle_nil (ended : Shell × Option Stop) : settle [] ended = report ended := by
  obtain ⟨s, _ | e | m | _⟩ := ended <;> rfl

/-- Ending the expansion of an alias within which a segment has been settled settles the segment for the alias. -/
private theorem settle_cons {s : Shell} {name : String} {names : List String} (hnames : s.expanding = names)
    (h : name ∉ names) (expanded : List String) (stop : Option Stop) :
    report ((settle expanded (s.setExpanding (name :: names), stop)).1.endExpansion name,
        stopOf name (settle expanded (s.setExpanding (name :: names), stop)).2) =
      settle (name :: expanded) (s, stop) := by
  subst hnames
  have hself := endExpansion_expand h
  have htell : ∀ e, ((s.tell e).setExpanding (name :: s.expanding)).endExpansion name = s.tell e :=
    fun e => endExpansion_expand (s := s.tell e) h
  rcases stop with _ | e | m | _
  · show (Shell.endExpansion (s.setExpanding _) name, none) = (s, none)
    rw [hself]
  · have hclosed := htell (.error e.message)
    show (Shell.endExpansion ((s.tell (.error e.message)).setExpanding (name :: s.expanding)) name, none) = _
    rw [hclosed]
    rfl
  · -- The mishap is told by the alias that was expanded last, which is `name` itself if it was the only one.
    rcases hlast : expanded.getLast? with _ | last
    · obtain rfl := List.getLast?_eq_none_iff.1 hlast
      show (Shell.tell (Shell.endExpansion (s.setExpanding _) name) _, none) = (s.tell _, none)
      rw [hself]
      rfl
    · have hlast' : (name :: expanded).getLast? = some last := by
        rw [List.getLast?_cons, hlast]
        rfl
      simp only [settle, hlast, hlast', report, setExpanding_tell, stopOf, htell]
  · show (Shell.endExpansion (s.setExpanding _) name, some _) = (s, some _)
    rw [hself]

theorem ExpandsAliases.setExpanding_cons {s : Shell} (he : s.ExpandsAliases) {name line : String}
    (hf : s.registry.find? name = some (.aliasOf line)) : (s.setExpanding (name :: s.expanding)).ExpandsAliases := by
  intro other hother
  rcases List.mem_cons.1 hother with rfl | hother
  · exact ⟨line, hf⟩
  · exact he other hother

/-- Running a segment does what its text comes to. -/
theorem runSegmentWith_eq_resolve (programs : Programs) (rerun : Shell → String → Shell × Option Escape) {s : Shell}
    (hs : s.registry.Selfless) (he : s.ExpandsAliases) (text : String) :
    runSegmentWith programs rerun s text =
      settle (s.registry.resolve s.expanding text).expanded
        (perform programs rerun s (s.registry.resolve s.expanding text).leaf) := by
  rcases s.registry.turn_cases s.expanding text with ⟨e, h⟩ | ⟨plan, h, hl⟩ | ⟨stage, handler, description, h, hf⟩ |
    ⟨stage, line, h, hf, hn⟩
  · rw [runSegmentWith_of_error programs rerun h, Registry.resolve_of_error h]
    rfl
  · rw [runSegmentWith_of_leaves programs rerun h hl, Registry.resolve_of_leaves h hl, settle_nil]
    rfl
  · -- What is being expanded are aliases, so the native command is none of it.
    have hn : stage.command ∉ s.expanding := by
      intro hmem
      obtain ⟨line, hline⟩ := he _ hmem
      simp [hf] at hline
    have hleaf : ∀ stage' line, Leaf.native stage handler ≠ .native stage' (.rerun line) := by
      intro stage' line heq
      obtain ⟨-, rfl⟩ := Leaf.native.inj heq
      exact hs _ _ _ hf
    have hkeep := perform_expanding programs rerun s hleaf
    rw [runSegmentWith_of_native programs rerun h hf, Registry.resolve_of_native h hf, settle_nil,
      endExpansion_of_notMem (hkeep ▸ hn)]
    rfl
  · have ih := runSegmentWith_eq_resolve programs rerun (s := s.setExpanding (stage.command :: s.expanding)) hs
      (he.setExpanding_cons hf) (Text.spaced (line :: stage.args))
    have hne := hs.resolve_leaf_ne (stage.command :: s.expanding) (Text.spaced (line :: stage.args))
    have hkeep := perform_expanding programs rerun s hne
    have hperform := perform_setExpanding programs rerun s (stage.command :: s.expanding) hne
    -- The text in place of the alias runs while the alias is being expanded. What it comes to does not look at that,
    -- and the end of the expansion takes it back.
    rw [runSegmentWith_of_alias programs rerun h hf hn, Registry.resolve_of_alias h hf hn]
    show report ((runSegmentWith programs rerun (s.setExpanding _) _).1.endExpansion _,
      stopOf _ (runSegmentWith programs rerun (s.setExpanding _) _).2) = _
    rw [ih]
    show report ((settle _ (perform programs rerun (s.setExpanding _) _)).1.endExpansion _,
      stopOf _ (settle _ (perform programs rerun (s.setExpanding _) _)).2) = _
    rw [setExpanding_expanding, setExpanding_registry, hperform]
    exact settle_cons hkeep hn _ _
termination_by (s.registry.unseen s.expanding).card
decreasing_by exact Registry.card_unseen_lt hf hn

theorem settle_expanding (expanded : List String) (ended : Shell × Option Stop) :
    (settle expanded ended).1.expanding = ended.1.expanding := by
  obtain ⟨s, _ | e | m | _⟩ := ended
  · rfl
  · rfl
  · rcases h : expanded.getLast? with _ | last
    · simp only [settle, h]
    · simp only [settle, h]
      rfl
  · rfl

/-- Running a segment expands aliases for as long as the text comes to one that is not being expanded, at most each
of the others once. Then it does what is reached, once, and nothing else. However it ends, what was being expanded
before is being expanded again. -/
theorem runSegment_eq_resolve (programs : Programs) {s : Shell} (hs : s.registry.Selfless) (he : s.ExpandsAliases)
    (text : String) :
    (s.registry.resolve s.expanding text).expanded.length ≤ (s.registry.unseen s.expanding).card ∧
      runSegment programs s text =
        settle (s.registry.resolve s.expanding text).expanded
          (perform programs (runNested programs (nestingLimit - 1)) s (s.registry.resolve s.expanding text).leaf) ∧
      (runSegment programs s text).1.expanding = s.expanding := by
  have hrun := runSegmentWith_eq_resolve programs (runNested programs (nestingLimit - 1)) hs he text
  refine ⟨s.registry.length_expanded_le s.expanding text, hrun, ?_⟩
  unfold runSegment
  rw [hrun, settle_expanding]
  exact perform_expanding programs _ s (hs.resolve_leaf_ne s.expanding text)

/-- A shell on a machine that has nothing in it. -/
def bare (registry : Registry) : Shell :=
  start registry (.empty 10 none) ⟨true, .finite false 2⟩
    ⟨⟨⟨[]⟩, .ofLocation []⟩, ⟨[]⟩, ⟨0, 0⟩, .usual, 0, .never⟩

/-- Two aliases that stand for each other. -/
def circular : Registry := ⟨[("ping", .aliasOf "pong a"), ("pong", .aliasOf "ping b")]⟩

private theorem resolve_circular :
    circular.resolve [] "ping" = ⟨["ping", "pong"], .external (.command ⟨"ping", ["b", "a"]⟩)⟩ := by
  have hping : Plan.ofSegment "ping" = .ok (.command ⟨"ping", []⟩) := rfl
  have hpong : Plan.ofSegment (Text.spaced ["pong a"]) = .ok (.command ⟨"pong", ["a"]⟩) := by
    rw [show Text.spaced ["pong a"] = "pong a" by decide +kernel]
    rfl
  have hagain : Plan.ofSegment (Text.spaced ["ping b", "a"]) = .ok (.command ⟨"ping", ["b", "a"]⟩) := by
    rw [show Text.spaced ["ping b", "a"] = "ping b a" by decide +kernel]
    rfl
  have hleaves : circular.Leaves ["pong", "ping"] (.command ⟨"ping", ["b", "a"]⟩) := .expanding rfl (by simp)
  rw [Registry.resolve_of_alias hping rfl (by simp), Registry.resolve_of_alias hpong rfl (by simp),
    Registry.resolve_of_leaves hagain hleaves]

theorem runSegment_eq_resolve_circular :
    circular.Selfless ∧ (bare circular).ExpandsAliases ∧
      runSegment ⟨[], fun _ i => i.finish [] [] 0⟩ (bare circular) "ping" = settle ["ping", "pong"]
        (execute ⟨[], fun _ i => i.finish [] [] 0⟩ (bare circular) (.command ⟨"ping", ["b", "a"]⟩)) ∧
      (runSegment ⟨[], fun _ i => i.finish [] [] 0⟩ (bare circular) "ping").1.expanding = [] := by
  have hs : (bare circular).registry.Selfless :=
    Registry.selfless_of_forall_actions (by simp [bare, start, circular])
  have he : (bare circular).ExpandsAliases := by simp [ExpandsAliases, bare, start]
  obtain ⟨-, hrun, hkeep⟩ := runSegment_eq_resolve ⟨[], fun _ i => i.finish [] [] 0⟩ hs he "ping"
  refine ⟨hs, he, hrun.trans ?_, hkeep⟩
  show settle (circular.resolve [] "ping").expanded (perform _ _ _ (circular.resolve [] "ping").leaf) = _
  rw [resolve_circular]
  rfl

end Shell

end CommandShell
