import CommandShell.Proofs.Execution.Survival
import Mathlib.Data.List.Count

/-!
# Signals of an interrupted line

What a line does to its processes when it is interrupted while it waits for them, seen as a list of incidents: what
happens to it, and which signal it sends to which process (`Supervision.Course`). The key fact is the shape of such a
list when no other interrupt follows (`Supervision.Course.exists_shape`): first come the requests to end, then some
processes end, and last the others are killed if the period of grace runs out. Everything that is said of the signals
is read off this shape.
-/

namespace CommandShell

/-- What is seen of a line. -/
inductive Incident where
  | happened (o : Occurrence)
  | sent (child : Nat) (signal : Signal)
deriving DecidableEq, Repr

/-- The signal of an incident. -/
def Incident.signal? : Incident → Option (Nat × Signal)
  | .happened _ => none
  | .sent child signal => some (child, signal)

namespace Supervision

open Termination

/-- The numbers of the processes that are running. -/
def running (children : List (Option Status)) : List Nat :=
  (children.zipIdx.filter fun (child, _) => child.isNone).map (·.2)

/-- The signals that an occurrence makes a line send. -/
def signals (terminates : Bool) (s : Supervision) : Occurrence → List (Nat × Signal)
  | .interrupt =>
    if s.phase = .starting ∨ s.phase = .waiting ∧ terminates = true then (running s.children).map (·, .terminate)
    else []
  | .broken => (running s.children).map (·, .terminate)
  | .graceOver => (running s.children).map (·, .kill)
  | _ => []

/-- An occurrence, and the signals that follow at once. -/
def incidents (terminates : Bool) (s : Supervision) (o : Occurrence) : List Incident :=
  .happened o :: (signals terminates s o).map fun (child, signal) => .sent child signal

/-- What is seen of a line from one state to another. -/
inductive Course (terminates : Bool) : Supervision → List Incident → Supervision → Prop
  | nil {s : Supervision} : Course terminates s [] s
  | cons {s t u : Supervision} {o : Occurrence} {l : List Incident} (hstep : Step terminates s o t)
      (h : Course terminates t l u) : Course terminates s (incidents terminates s o ++ l) u

/-- Processes end one after another. -/
inductive Exits : List (Option Status) → List Incident → List (Option Status) → Prop
  | nil {children : List (Option Status)} : Exits children [] children
  | cons {children after : List (Option Status)} {child : Nat} {status : Status} {l : List Incident}
      (h : children[child]? = some none) (hrest : Exits (children.set child (some status)) l after) :
      Exits children (.happened (.ended child status) :: l) after

/-- How a line that has asked its processes to end is left: with none that is running, or killing those that are. -/
inductive Parting (children : List (Option Status)) : List Incident → List (Option Status) → Prop
  | atOnce (h : none ∉ children) : Parting children [] children
  | completed (h : none ∉ children) : Parting children [.happened .completed] children
  | killed : Parting children
      (.happened .graceOver :: (running children).map (.sent · .kill) ++ [.happened .completed]) (kill children)

variable {terminates : Bool} {s t u : Supervision} {children after : List (Option Status)} {l : List Incident}

/-! ### Processes that are running -/

theorem mem_running {n : Nat} : n ∈ running children ↔ children[n]? = some none := by
  unfold running
  simp only [List.mem_map, List.mem_filter, Prod.exists, exists_eq_right]
  constructor
  · rintro ⟨child, hmem, hnone⟩
    obtain rfl := Option.isNone_iff_eq_none.1 hnone
    exact List.mem_zipIdx_iff_getElem?.1 hmem
  · intro h
    exact ⟨none, List.mem_zipIdx_iff_getElem?.2 h, rfl⟩

theorem nodup_running (children : List (Option Status)) : (running children).Nodup := by
  have hnumbers : (children.zipIdx.map Prod.snd).Nodup := by
    rw [List.zipIdx_map_snd]
    exact List.nodup_range'
  exact hnumbers.sublist (List.filter_sublist.map _)

theorem count_running (n : Nat) : (running children).count n = if children[n]? = some none then 1 else 0 := by
  rw [(nodup_running children).count]
  simp only [mem_running]

theorem running_eq_nil_iff : running children = [] ↔ none ∉ children := by
  rw [List.eq_nil_iff_forall_not_mem, List.mem_iff_getElem?, not_exists]
  simp only [mem_running]

theorem none_notMem_kill (children : List (Option Status)) : none ∉ kill children := by simp [kill]

/-- A process is running after some have ended if it was before and is none of them. -/
theorem Exits.getElem?_eq_none_iff (h : Exits children l after) (n : Nat) :
    after[n]? = some none ↔ children[n]? = some none ∧ ∀ status, .happened (.ended n status) ∉ l := by
  induction h with
  | nil => simp
  | @cons children after child status l h hrest ih =>
    have hset : (children.set child (some status))[n]? = some none ↔ n ≠ child ∧ children[n]? = some none := by
      rw [List.getElem?_set]
      by_cases hn : child = n
      · subst hn
        simp
      · simp [hn, Ne.symm hn]
    have hended : (∀ status', .happened (.ended n status') ∉ .happened (.ended child status) :: l) ↔
        n ≠ child ∧ ∀ status', .happened (.ended n status') ∉ l := by
      simp only [List.mem_cons, Incident.happened.injEq, Occurrence.ended.injEq, not_or, not_and]
      constructor
      · intro hall
        exact ⟨fun hn => (hall status).1 hn rfl, fun status' => (hall status').2⟩
      · rintro ⟨hn, hall⟩ status'
        exact ⟨fun hn' => absurd hn' hn, hall status'⟩
    rw [ih, hset, hended]
    tauto

theorem Exits.eq_nil (h : Exits children l after) (hnone : none ∉ children) : l = [] := by
  cases h with
  | nil => rfl
  | cons hchild _ => exact absurd (List.mem_of_getElem? hchild) hnone

theorem Exits.eq_ended (h : Exits children l after) : ∀ i ∈ l, ∃ n status, i = .happened (.ended n status) := by
  induction h with
  | nil => simp
  | cons _ _ ih => exact List.forall_mem_cons.2 ⟨⟨_, _, rfl⟩, ih⟩

/-! ### The shape of a course -/

theorem Course.of_over (h : Course terminates ⟨.over, children⟩ l u) : l = [] ∧ u = ⟨.over, children⟩ := by
  cases h with
  | nil => exact ⟨rfl, rfl⟩
  | cons hstep h =>
    cases hstep with
    | ended hphase => exact absurd rfl hphase

private theorem Course.of_killing (h : Course terminates ⟨.killing, children⟩ l u) (hnone : none ∉ children)
    (hover : u.phase = .over) (honce : .happened .interrupt ∉ l) :
    l = [.happened .completed] ∧ u = ⟨.over, children⟩ := by
  cases h with
  | nil => cases hover
  | cons hstep h =>
    cases hstep with
    | ended hphase hchild status => exact absurd (List.mem_of_getElem? hchild) hnone
    | killed hnone' =>
      obtain ⟨rfl, rfl⟩ := h.of_over
      exact ⟨rfl, rfl⟩
    | interruptKilling => exact absurd (by simp [incidents]) honce

private theorem Course.of_asking (h : Course terminates ⟨.asking, children⟩ l u) (hover : u.phase = .over)
    (honce : .happened .interrupt ∉ l) :
    ∃ exits left parting, Exits children exits left ∧ Parting left parting u.children ∧ l = exits ++ parting := by
  -- The phase stays the same for as long as processes end, so this is an induction with the processes generalized.
  generalize hs : (⟨.asking, children⟩ : Supervision) = s at h
  induction h generalizing children with
  | nil =>
    rw [← hs] at hover
    cases hover
  | cons hstep h ih =>
    subst hs
    have honce' := fun hmem => honce (List.mem_append_right _ hmem)
    cases hstep with
    | ended hphase hchild status =>
      obtain ⟨exits, left, parting, hexits, hparting, rfl⟩ := ih hover honce' rfl
      exact ⟨_, left, parting, .cons hchild hexits, hparting, rfl⟩
    | asked hnone =>
      obtain ⟨rfl, rfl⟩ := h.of_over
      exact ⟨[], children, _, .nil, .completed hnone, rfl⟩
    | graceOver =>
      obtain ⟨rfl, rfl⟩ := h.of_killing (none_notMem_kill children) hover honce'
      refine ⟨[], children, _, .nil, .killed, ?_⟩
      simp [incidents, signals, Function.comp_def]
    | interruptAsking => exact absurd (by simp [incidents]) honce

/-- What is seen of a line from the moment on at which its processes are to be ended, if no interrupt follows. -/
theorem Course.of_wind (h : Course terminates (wind children) l u) (hover : u.phase = .over)
    (honce : .happened .interrupt ∉ l) :
    ∃ exits left parting, Exits children exits left ∧ Parting left parting u.children ∧ l = exits ++ parting := by
  unfold wind at h
  split at h
  · exact h.of_asking hover honce
  · next hnone =>
    obtain ⟨rfl, rfl⟩ := h.of_over
    exact ⟨[], children, [], .nil, .atOnce hnone, rfl⟩

/-- What is seen of a line that is interrupted once begins with what the interrupt does. -/
theorem Course.of_interrupt (h : Course terminates s l u) (hhead : l.head? = some (.happened .interrupt))
    (honce : l.count (.happened .interrupt) = 1) :
    ∃ t rest, Step terminates s .interrupt t ∧ Course terminates t rest u ∧
      l = incidents terminates s .interrupt ++ rest ∧ .happened .interrupt ∉ rest := by
  cases h with
  | nil => simp at hhead
  | @cons _ t _ o rest hstep h =>
    obtain rfl : o = .interrupt := by simpa [incidents] using hhead
    refine ⟨t, rest, hstep, h, rfl, fun hmem => ?_⟩
    have hpos := List.count_pos_iff.2 hmem
    have hfirst : 0 < (incidents terminates s .interrupt).count (.happened .interrupt) :=
      List.count_pos_iff.2 (by simp [incidents])
    rw [List.count_append] at honce
    omega

/-- What is seen of a line that is interrupted while it waits, if no other interrupt follows. -/
theorem Course.exists_shape (h : Course true ⟨.waiting, children⟩ l u)
    (hhead : l.head? = some (.happened .interrupt)) (honce : l.count (.happened .interrupt) = 1)
    (hover : u.phase = .over) :
    ∃ exits left parting, Exits children exits left ∧ Parting left parting u.children ∧
      l = incidents true ⟨.waiting, children⟩ .interrupt ++ (exits ++ parting) := by
  obtain ⟨t, rest, hstep, h, rfl, hnone⟩ := h.of_interrupt hhead honce
  cases hstep with
  | interruptWaiting =>
    obtain ⟨exits, left, parting, hexits, hparting, rfl⟩ := h.of_wind hover hnone
    exact ⟨exits, left, parting, hexits, hparting, rfl⟩
  | interruptIgnored hfalse => cases hfalse

theorem Course.of_ignored (h : Course false ⟨.waiting, children⟩ l u)
    (hhead : l.head? = some (.happened .interrupt)) (hover : u.phase = .over) :
    l = [.happened .interrupt] ∧ u.children = children := by
  cases h with
  | nil => cases hover
  | cons hstep h =>
    obtain rfl : _ = Occurrence.interrupt := by simpa [incidents] using hhead
    cases hstep with
    | interruptWaiting htrue => cases htrue
    | interruptIgnored =>
      obtain ⟨rfl, rfl⟩ := h.of_over
      exact ⟨rfl, rfl⟩

theorem Parting.none_notMem {parting : List Incident} (h : Parting children parting after) : none ∉ after := by
  cases h with
  | atOnce hnone | completed hnone => exact hnone
  | killed => exact none_notMem_kill children

/-! ### What the shape says -/

/-- The rules by which a line sends signals to the processes that it has when it is interrupted. -/
structure Disciplined (children : List (Option Status)) (l : List Incident) : Prop where
  /-- A process that is running is asked to end, once, and no other is. -/
  asked : ∀ n, l.count (.sent n .terminate) = if children[n]? = some none then 1 else 0
  /-- Killed are those that were asked to end and have not when the period of grace is over. -/
  killed : ∀ n, .sent n .kill ∈ l ↔ .sent n .terminate ∈ l ∧
    ∃ before after, l = before ++ .happened .graceOver :: after ∧ ∀ status, .happened (.ended n status) ∉ before
  killedOnce : ∀ n, l.count (.sent n .kill) ≤ 1
  /-- Nothing is sent to a process that has ended, be it before the interrupt or after. -/
  running : ∀ n signal, .sent n signal ∈ l → children[n]? = some none
  unended : l.Pairwise fun a b => ∀ n status signal, a = .happened (.ended n status) → b ≠ .sent n signal
  /-- Nothing is killed if all have ended within the period of grace. -/
  graceful : (∀ before after, l = before ++ .happened .graceOver :: after →
    ∀ n, children[n]? = some none → ∃ status, .happened (.ended n status) ∈ before) → ∀ n, .sent n .kill ∉ l

private theorem requests_eq (children : List (Option Status)) :
    incidents true ⟨.waiting, children⟩ .interrupt =
      .happened .interrupt :: (running children).map (.sent · .terminate) := by
  simp [incidents, signals, Function.comp_def]

private theorem count_map_sent (ns : List Nat) (n : Nat) (signal : Signal) :
    (ns.map (Incident.sent · signal)).count (.sent n signal) = ns.count n := by
  have hinjective : Function.Injective (Incident.sent · signal) := fun a b h => (Incident.sent.inj h).1
  exact List.count_map_of_injective ns _ hinjective n

private theorem Exits.notMem (h : Exits children l after) {i : Incident}
    (hi : ∀ n status, i ≠ .happened (.ended n status)) : i ∉ l := by
  intro hmem
  obtain ⟨n, status, rfl⟩ := h.eq_ended i hmem
  exact hi n status rfl

private theorem Parting.notMem_ended {parting : List Incident} (h : Parting children parting after) (n : Nat)
    (status : Status) : .happened (.ended n status) ∉ parting := by
  cases h <;> simp

private theorem Parting.notMem_terminate {parting : List Incident} (h : Parting children parting after) (n : Nat) :
    .sent n .terminate ∉ parting := by
  cases h <;> simp

private theorem Parting.count_kill {parting : List Incident} (h : Parting children parting after) (n : Nat) :
    parting.count (.sent n .kill) = if children[n]? = some none then 1 else 0 := by
  have hended : none ∉ children → children[n]? ≠ some none := fun hnone h => hnone (List.mem_of_getElem? h)
  cases h with
  | atOnce hnone => simp [hended hnone]
  | completed hnone => simp [hended hnone]
  | killed =>
    have hcount := count_map_sent (running children) n .kill
    rw [count_running] at hcount
    simpa [List.count_append, List.count_cons] using hcount

private theorem Parting.graceOver_mem {parting : List Incident} (h : Parting children parting after) {n : Nat}
    (hn : children[n]? = some none) : .happened .graceOver ∈ parting := by
  cases h with
  | atOnce hnone | completed hnone => exact absurd (List.mem_of_getElem? hn) hnone
  | killed => simp

private theorem Parting.eq_graceOver_cons {parting : List Incident} (h : Parting children parting after)
    (hmem : .happened .graceOver ∈ parting) : ∃ rest, parting = .happened .graceOver :: rest := by
  cases h with
  | atOnce => simp at hmem
  | completed => simp at hmem
  | killed => exact ⟨_, rfl⟩

/-- What comes before an element that does not occur earlier. -/
private theorem prefix_of_append_cons {α : Type} {front rest before more : List α} {x : α} (hx : x ∉ front)
    (h : front ++ x :: rest = before ++ x :: more) : front <+: before := by
  rcases List.append_eq_append_iff.1 h with ⟨d, hd, -⟩ | ⟨d, hd, hmore⟩
  · exact ⟨d, hd.symm⟩
  · cases d with
    | nil => exact ⟨[], by simpa using hd⟩
    | cons y d =>
      obtain ⟨rfl, -⟩ := List.cons.inj hmore
      exact absurd (by simp [hd]) hx

theorem disciplined_of_shape {exits parting : List Incident} {left : List (Option Status)}
    (hexits : Exits children exits left) (hparting : Parting left parting after)
    (hl : l = incidents true ⟨.waiting, children⟩ .interrupt ++ (exits ++ parting)) : Disciplined children l := by
  rw [requests_eq] at hl
  have hasked : ∀ n, l.count (.sent n .terminate) = if children[n]? = some none then 1 else 0 := by
    intro n
    have hexit : exits.count (.sent n .terminate) = 0 := List.count_eq_zero.2 (hexits.notMem (by simp))
    have hpart : parting.count (.sent n .terminate) = 0 := List.count_eq_zero.2 (hparting.notMem_terminate n)
    have hrequest := count_map_sent (running children) n .terminate
    rw [count_running] at hrequest
    simp [hl, List.count_append, hexit, hpart, hrequest]
  have hkilled : ∀ n, l.count (.sent n .kill) = if left[n]? = some none then 1 else 0 := by
    intro n
    have hexit : exits.count (.sent n .kill) = 0 := List.count_eq_zero.2 (hexits.notMem (by simp))
    have hrequest : ((running children).map (Incident.sent · .terminate)).count (.sent n .kill) = 0 :=
      List.count_eq_zero.2 (by simp)
    simp [hl, List.count_append, hexit, hrequest, hparting.count_kill n]
  have hterminate : ∀ n, .sent n .terminate ∈ l ↔ children[n]? = some none := by
    intro n
    rw [← List.count_pos_iff, hasked]
    split <;> simp_all
  have hkill : ∀ n, .sent n .kill ∈ l ↔ left[n]? = some none := by
    intro n
    rw [← List.count_pos_iff, hkilled]
    split <;> simp_all
  -- The period of grace runs out behind the exits, if it does.
  have hfront : .happened .graceOver ∉
      (Incident.happened .interrupt :: (running children).map (.sent · .terminate)) ++ exits := by
    have hexit : Incident.happened .graceOver ∉ exits := hexits.notMem (by simp)
    simp [hexit]
  have hgrace : ∀ before more, l = before ++ .happened .graceOver :: more →
      ∀ n status, .happened (.ended n status) ∈ exits → .happened (.ended n status) ∈ before := by
    intro before more heq n status hmem
    rw [← List.append_assoc] at hl
    have hin : .happened .graceOver ∈ parting := by
      have hmem : Incident.happened .graceOver ∈ l := by simp [heq]
      rw [hl] at hmem
      exact (List.mem_append.1 hmem).resolve_left hfront
    obtain ⟨rest, rfl⟩ := hparting.eq_graceOver_cons hin
    have hprefix := prefix_of_append_cons hfront (hl.symm.trans heq)
    exact hprefix.subset (List.mem_append_right _ hmem)
  have hkills : ∀ n, .sent n .kill ∈ l ↔ .sent n .terminate ∈ l ∧
      ∃ before more, l = before ++ .happened .graceOver :: more ∧ ∀ status, .happened (.ended n status) ∉ before := by
    intro n
    rw [hkill, hterminate]
    constructor
    · intro hleft
      obtain ⟨hchild, hrunning⟩ := (hexits.getElem?_eq_none_iff n).1 hleft
      obtain ⟨rest, rfl⟩ := hparting.eq_graceOver_cons (hparting.graceOver_mem hleft)
      refine ⟨hchild, _, rest, by rw [hl, List.append_assoc], fun status hmem => ?_⟩
      rcases List.mem_append.1 hmem with hmem | hmem
      · simp at hmem
      · exact hrunning status hmem
    · rintro ⟨hchild, before, more, heq, hbefore⟩
      rw [hexits.getElem?_eq_none_iff]
      exact ⟨hchild, fun status hmem => hbefore status (hgrace before more heq n status hmem)⟩
  refine ⟨hasked, hkills, ?_, ?_, ?_, ?_⟩
  · intro n
    rw [hkilled]
    split <;> omega
  · intro n signal hmem
    cases signal with
    | terminate => exact (hterminate n).1 hmem
    | kill => exact ((hexits.getElem?_eq_none_iff n).1 ((hkill n).1 hmem)).1
  · rw [hl, List.pairwise_append, List.pairwise_append]
    refine ⟨?_, ⟨?_, ?_, ?_⟩, ?_⟩
    · apply List.pairwise_of_forall_mem_list
      rintro a ha b - n status signal rfl
      simp at ha
    · apply List.pairwise_of_forall_mem_list
      rintro a - b hb n status signal - rfl
      exact hexits.notMem (by simp) hb
    · apply List.pairwise_of_forall_mem_list
      rintro a ha b - n status signal rfl
      exact absurd ha (hparting.notMem_ended n status)
    · -- Signals behind the exits are sent to processes that are left.
      rintro a ha b hb n status signal rfl rfl
      cases signal with
      | terminate => exact hparting.notMem_terminate n hb
      | kill =>
        have hleft : left[n]? = some none := by
          rw [← hkill n, hl]
          exact List.mem_append_right _ (List.mem_append_right _ hb)
        exact ((hexits.getElem?_eq_none_iff n).1 hleft).2 status ha
    · rintro a ha b - n status signal rfl
      simp at ha
  · intro hall n hmem
    obtain ⟨hasks, before, more, heq, hbefore⟩ := (hkills n).1 hmem
    obtain ⟨status, hended⟩ := hall before more heq n ((hterminate n).1 hasks)
    exact hbefore status hended

private theorem filterMap_signal?_sent (ns : List Nat) (signal : Signal) :
    (ns.map (Incident.sent · signal)).filterMap Incident.signal? = ns.map (·, signal) := by
  rw [List.filterMap_map]
  exact congrFun List.filterMap_eq_map ns

private theorem Parting.filterMap_signal? {parting : List Incident} (h : Parting children parting after) :
    parting.filterMap Incident.signal? = (running children).map (·, .kill) := by
  cases h with
  | atOnce hnone | completed hnone =>
    rw [running_eq_nil_iff.2 hnone]
    rfl
  | killed =>
    rw [List.cons_append, List.filterMap_cons, List.filterMap_append, filterMap_signal?_sent]
    simp [Incident.signal?]

private theorem Parting.notMem_interrupt {parting : List Incident} (h : Parting children parting after) :
    .happened .interrupt ∉ parting := by
  cases h <;> simp

theorem signals_of_shape {exits parting : List Incident} {left : List (Option Status)}
    (hexits : Exits children exits left) (hparting : Parting left parting after) :
    (incidents true ⟨.waiting, children⟩ .interrupt ++ (exits ++ parting)).count (.happened .interrupt) = 1 ∧
      (incidents true ⟨.waiting, children⟩ .interrupt ++ (exits ++ parting)).filterMap Incident.signal? =
        (running children).map (·, .terminate) ++ (running left).map (·, .kill) := by
  have hexit : exits.filterMap Incident.signal? = [] := by
    rw [List.filterMap_eq_nil_iff]
    intro i hi
    obtain ⟨n, status, rfl⟩ := hexits.eq_ended i hi
    rfl
  have hexitCount : exits.count (.happened .interrupt) = 0 := List.count_eq_zero.2 (hexits.notMem (by simp))
  have hpartCount : parting.count (.happened .interrupt) = 0 := List.count_eq_zero.2 hparting.notMem_interrupt
  rw [requests_eq]
  constructor
  · simp [List.count_append, hexitCount, hpartCount, List.count_eq_zero]
  · rw [List.filterMap_append, List.filterMap_append, hexit, hparting.filterMap_signal?, List.nil_append,
      List.filterMap_cons, filterMap_signal?_sent]
    rfl

/-! ### Processes that are ended -/

theorem Course.trans {more : List Incident} (h : Course terminates s l t) (h' : Course terminates t more u) :
    Course terminates s (l ++ more) u := by
  induction h with
  | nil => exact h'
  | cons hstep _ ih =>
    rw [List.append_assoc]
    exact .cons hstep (ih h')

theorem Exits.course {phase : Phase} (hphase : phase ≠ .over) (h : Exits children l after) :
    Course terminates ⟨phase, children⟩ l ⟨phase, after⟩ := by
  induction h with
  | nil => exact .nil
  | cons hchild _ ih => exact .cons (.ended hphase hchild _) ih

theorem exists_exits (front : List (Option Status)) {before after : List (Option Status)} (h : Advances before after) :
    ∃ l, Exits (front ++ before) l (front ++ after) := by
  induction h generalizing front with
  | nil => exact ⟨[], .nil⟩
  | @cons c d before after hchild _ ih =>
    obtain ⟨l, hrest⟩ := ih (front ++ [d])
    simp only [List.append_assoc, List.singleton_append] at hrest
    cases d with
    | none =>
      obtain rfl : c = none := by simpa using hchild
      exact ⟨l, hrest⟩
    | some status =>
      rcases hchild with rfl | rfl
      · exact ⟨l, hrest⟩
      · have hchild : (front ++ none :: before)[front.length]? = some none := by simp
        have hset : (front ++ none :: before).set front.length (some status) = front ++ some status :: before := by simp
        exact ⟨_, .cons hchild (hset.symm ▸ hrest)⟩

end Supervision

namespace Termination

open Supervision

variable (grace : Option Rat) (children : List Child)

theorem numbersWhere_isRunning : numbersWhere Child.isRunning children = running (statuses children) := by
  unfold numbersWhere running statuses
  rw [List.zipIdx_map, List.filter_map, List.map_map]
  rfl

theorem settle_of_none {children : List Child} (h : none ∉ statuses children) (time : Option Rat) :
    settle time children = children := by
  have hended : ∀ c ∈ children, c.isRunning = false := by
    rw [none_mem_statuses_iff] at h
    simpa using h
  unfold settle
  conv_rhs => rw [← List.map_id children]
  refine List.map_congr_left fun c hc => ?_
  simp [hended c hc]

theorem kill_of_none {statuses : List (Option Status)} (h : none ∉ statuses) : kill statuses = statuses := by
  unfold kill
  conv_rhs => rw [← List.map_id statuses]
  refine List.map_congr_left fun child hchild => ?_
  cases child with
  | none => exact absurd hchild h
  | some status => rfl

/-- Where no further interrupt comes, the processes that are running are asked to end, and killed if they have not when
the period of grace is over. -/
theorem signals_run : (run grace none children).signals =
    (running (statuses children)).map (·, .terminate) ++ (running (statuses (settle grace children))).map (·, .kill) := by
  unfold run
  split
  · next hall =>
    have hnone : none ∉ statuses children := by
      rw [none_mem_statuses_iff]
      simpa using hall
    rw [settle_of_none hnone, running_eq_nil_iff.2 hnone]
    rfl
  · simp only [numbersWhere_isRunning, Bool.false_eq_true, if_false]

/-- Ending processes is what is seen of a line from the moment on at which they are to be ended. -/
theorem exists_course_wind (terminates : Bool) : ∃ exits parting,
    Exits (statuses children) exits (statuses (settle grace children)) ∧
      Parting (statuses (settle grace children)) parting (statuses (run grace none children).children) ∧
      Course terminates (wind (statuses children)) (exits ++ parting)
        ⟨.over, statuses (run grace none children).children⟩ := by
  obtain ⟨exits, hexits⟩ := exists_exits [] (advances_settle grace children)
  simp only [List.nil_append] at hexits
  rcases run_cases grace none children with ⟨hnone, hrun⟩ | ⟨-, hsome, -⟩ | ⟨hsome, hrun, -⟩
  · rw [settle_of_none hnone] at hexits ⊢
    obtain rfl : exits = [] := hexits.eq_nil hnone
    rw [hrun, wind, if_neg hnone]
    exact ⟨[], [], .nil, .atOnce hnone, .nil⟩
  · cases hsome
  · have hasking : wind (statuses children) = ⟨.asking, statuses children⟩ := by rw [wind, if_pos hsome]
    have hended : Course terminates ⟨.asking, statuses children⟩ exits ⟨.asking, statuses (settle grace children)⟩ :=
      hexits.course (by decide)
    rw [hasking, hrun, statuses_killed]
    by_cases hleft : none ∈ statuses (settle grace children)
    · have hkill : Course terminates ⟨.killing, kill (statuses (settle grace children))⟩ [.happened .completed]
          ⟨.over, kill (statuses (settle grace children))⟩ := .cons (.killed (none_notMem_kill _)) .nil
      refine ⟨exits, _, hexits, .killed, hended.trans ?_⟩
      have hgrace := Course.cons .graceOver hkill
      simpa [incidents, Supervision.signals, Function.comp_def] using hgrace
    · rw [kill_of_none hleft]
      exact ⟨exits, _, hexits, .completed hleft, hended.trans (.cons (.asked hleft) .nil)⟩

/-- Ending processes is what is seen of a line that is interrupted while it waits for them. -/
theorem exists_course : ∃ l,
    Course true ⟨.waiting, statuses children⟩ l ⟨.over, statuses (run grace none children).children⟩ ∧
      l.head? = some (.happened .interrupt) ∧ l.count (.happened .interrupt) = 1 ∧
      l.filterMap Incident.signal? = (run grace none children).signals := by
  obtain ⟨exits, parting, hexits, hparting, hcourse⟩ := exists_course_wind grace children true
  obtain ⟨hcount, hsignals⟩ := signals_of_shape hexits hparting
  exact ⟨_, .cons (.interruptWaiting rfl) hcourse, rfl, hcount, by rw [hsignals, signals_run]⟩

/-! ### Which process is sent what -/

theorem getElem?_statuses_iff {children : List Child} {n : Nat} :
    (statuses children)[n]? = some none ↔ ∃ c, children[n]? = some c ∧ c.isRunning = true := by
  unfold statuses Child.isRunning
  rw [List.getElem?_map, Option.map_eq_some_iff]
  simp only [Option.isNone_iff_eq_none]

theorem getElem?_settle_iff {grace : Option Rat} {children : List Child} {n : Nat} :
    (statuses (settle grace children))[n]? = some none ↔
      ∃ c, children[n]? = some c ∧ c.isRunning = true ∧ c.endsBy grace = none := by
  rw [getElem?_statuses_iff]
  unfold settle
  simp only [List.getElem?_map, Option.map_eq_some_iff]
  constructor
  · rintro ⟨_, ⟨c, hc, rfl⟩, hrunning⟩
    refine ⟨c, hc, ?_⟩
    split at hrunning
    · next hc' =>
      refine ⟨hc', ?_⟩
      split at hrunning
      · cases hrunning
      · next hends => exact hends
    · next hc' => exact absurd hrunning hc'
  · rintro ⟨c, hc, hrunning, hends⟩
    refine ⟨c, ⟨c, hc, ?_⟩, hrunning⟩
    rw [if_pos hrunning, hends]

private theorem count_map_pair (ns : List Nat) (n : Nat) (signal : Signal) :
    (ns.map (·, signal)).count (n, signal) = ns.count n := by
  have hinjective : Function.Injective fun n : Nat => (n, signal) := fun a b h => (Prod.mk.inj h).1
  exact List.count_map_of_injective ns _ hinjective n

theorem count_terminate (n : Nat) : (run grace none children).signals.count (n, .terminate) =
    if (statuses children)[n]? = some none then 1 else 0 := by
  have hkills : ((running (statuses (settle grace children))).map (·, Signal.kill)).count (n, .terminate) = 0 :=
    List.count_eq_zero.2 (by simp)
  rw [signals_run, List.count_append, count_map_pair, hkills, count_running, Nat.add_zero]

theorem count_kill (n : Nat) : (run grace none children).signals.count (n, .kill) =
    if (statuses (settle grace children))[n]? = some none then 1 else 0 := by
  have hrequests : ((running (statuses children)).map (·, Signal.terminate)).count (n, .kill) = 0 :=
    List.count_eq_zero.2 (by simp)
  rw [signals_run, List.count_append, count_map_pair, hrequests, count_running, Nat.zero_add]

theorem running_of_signals {n : Nat} {signal : Signal} (h : (n, signal) ∈ (run grace none children).signals) :
    ∃ c, children[n]? = some c ∧ c.isRunning = true := by
  rw [signals_run, List.mem_append] at h
  rcases h with h | h
  · obtain ⟨m, hm, heq⟩ := List.mem_map.1 h
    obtain ⟨rfl, -⟩ := Prod.mk.inj heq
    exact getElem?_statuses_iff.1 (mem_running.1 hm)
  · obtain ⟨m, hm, heq⟩ := List.mem_map.1 h
    obtain ⟨rfl, -⟩ := Prod.mk.inj heq
    obtain ⟨c, hc, hrunning, -⟩ := getElem?_settle_iff.1 (mem_running.1 hm)
    exact ⟨c, hc, hrunning⟩

end Termination

namespace Execution

open Supervision Termination

/-- The number of a stage's process among the processes that there are. -/
def numberOf {α : Type} (processes : List (Option α)) (stage : Nat) : Nat :=
  ((processes.take stage).filterMap id).length

theorem getElem?_numberOf {α : Type} {processes : List (Option α)} {stage : Nat} {c : α}
    (h : processes[stage]? = some (some c)) : (processes.filterMap id)[numberOf processes stage]? = some c := by
  obtain ⟨hlt, hc⟩ := List.getElem?_eq_some_iff.1 h
  have hsplit : processes = processes.take stage ++ some c :: processes.drop (stage + 1) := by
    rw [← hc, List.getElem_cons_drop, List.take_append_drop]
  have hmap := congrArg (List.filterMap id) hsplit
  rw [List.filterMap_append] at hmap
  unfold numberOf
  rw [hmap, List.getElem?_append_right (Nat.le_refl _), Nat.sub_self]
  rfl

theorem exists_numberOf {α : Type} {processes : List (Option α)} {n : Nat} {c : α}
    (h : (processes.filterMap id)[n]? = some c) :
    ∃ stage, processes[stage]? = some (some c) ∧ numberOf processes stage = n := by
  induction processes generalizing n with
  | nil => simp at h
  | cons process rest ih =>
    cases process with
    | none =>
      obtain ⟨stage, hstage, hnumber⟩ := ih h
      exact ⟨stage + 1, hstage, hnumber⟩
    | some d =>
      cases n with
      | zero =>
        obtain rfl : d = c := by simpa using h
        exact ⟨0, rfl, rfl⟩
      | succ n =>
        obtain ⟨stage, hstage, hnumber⟩ := ih (by simpa using h)
        refine ⟨stage + 1, hstage, ?_⟩
        simpa [numberOf] using hnumber

/-- The signals that an interrupt makes a line send to its processes. -/
def interruptSignals (control : Control) (children : List Child) : List (Nat × Signal) :=
  if control.terminates then (Termination.run control.patience none children).signals else []

variable {control : Control} {processes : List (Option Child)}

theorem count_interruptSignals {stage : Nat} {c : Child} (h : processes[stage]? = some (some c)) :
    (interruptSignals control (processes.filterMap id)).count (numberOf processes stage, .terminate) =
        (if control.terminates = true ∧ c.isRunning = true then 1 else 0) ∧
      (interruptSignals control (processes.filterMap id)).count (numberOf processes stage, .kill) =
        if control.terminates = true ∧ c.isRunning = true ∧ c.endsBy control.patience = none then 1 else 0 := by
  have hc := getElem?_numberOf h
  have hrunning : (statuses (processes.filterMap id))[numberOf processes stage]? = some none ↔ c.isRunning = true := by
    rw [getElem?_statuses_iff, hc]
    simp
  have hleft : (statuses (settle control.patience (processes.filterMap id)))[numberOf processes stage]? = some none ↔
      c.isRunning = true ∧ c.endsBy control.patience = none := by
    rw [getElem?_settle_iff, hc]
    simp
  unfold interruptSignals
  cases control.terminates with
  | false => simp
  | true => simp only [if_true, count_terminate, count_kill, hrunning, hleft, true_and, and_self]

theorem running_of_interruptSignals {n : Nat} {signal : Signal}
    (h : (n, signal) ∈ interruptSignals control (processes.filterMap id)) :
    ∃ stage c, processes[stage]? = some (some c) ∧ numberOf processes stage = n ∧ c.isRunning = true := by
  unfold interruptSignals at h
  split at h
  · obtain ⟨c, hc, hrunning⟩ := running_of_signals _ _ h
    obtain ⟨stage, hstage, hnumber⟩ := exists_numberOf hc
    exact ⟨stage, c, hstage, hnumber, hrunning⟩
  · cases h

/-- An interrupted plan is what is seen of a line that is interrupted while it waits. -/
theorem exists_course_interrupt (control : Control) (m : Machine) (events : List Event) (children : List Child) : ∃ l,
    Course control.terminates ⟨.waiting, statuses children⟩ l ⟨.over, (interrupt control m events children).children⟩ ∧
      l.head? = some (.happened .interrupt) ∧ l.count (.happened .interrupt) = 1 ∧
      l.filterMap Incident.signal? = interruptSignals control children := by
  unfold interrupt interruptSignals
  cases hterminates : control.terminates with
  | true => exact exists_course control.patience children
  | false => exact ⟨_, .cons (.interruptIgnored rfl) .nil, rfl, rfl, rfl⟩

/-- The signals of a line that is interrupted once, while it waits for the processes of a plan. However these behave, a
process that is running is asked to end, once, and no other is; those that have not ended when the period of grace is
over are killed, and no other is; nothing is sent to a process that has ended; and the line is left with no process
running. If interrupts are not to end processes, nothing is sent and the line is left at once. Of a plan some stages may
have no process; the processes of the others are treated so, each by how and when it ends. -/
theorem interrupt_signals (control : Control) (m : Machine) (events : List Event) (processes : List (Option Child)) :
    (∀ terminates children l u, Course terminates ⟨.waiting, children⟩ l u →
      l.head? = some (.happened .interrupt) → l.count (.happened .interrupt) = 1 → u.phase = .over →
      (terminates = true → Disciplined children l ∧ none ∉ u.children) ∧
        (terminates = false → l = [.happened .interrupt] ∧ u.children = children) ∧
        ∀ more v, Course terminates u more v → more = []) ∧
    (interrupt control m events (processes.filterMap id)).result = .error (.escape .interrupted) ∧
    (∃ l, Course control.terminates ⟨.waiting, statuses (processes.filterMap id)⟩ l
        ⟨.over, (interrupt control m events (processes.filterMap id)).children⟩ ∧
      l.head? = some (.happened .interrupt) ∧ l.count (.happened .interrupt) = 1 ∧
      l.filterMap Incident.signal? = interruptSignals control (processes.filterMap id)) ∧
    (∀ stage c, processes[stage]? = some (some c) →
      (interruptSignals control (processes.filterMap id)).count (numberOf processes stage, .terminate) =
          (if control.terminates = true ∧ c.isRunning = true then 1 else 0) ∧
        (interruptSignals control (processes.filterMap id)).count (numberOf processes stage, .kill) =
          if control.terminates = true ∧ c.isRunning = true ∧ c.endsBy control.patience = none then 1 else 0) ∧
    ∀ n signal, (n, signal) ∈ interruptSignals control (processes.filterMap id) →
      ∃ stage c, processes[stage]? = some (some c) ∧ numberOf processes stage = n ∧ c.isRunning = true := by
  refine ⟨?_, rfl, exists_course_interrupt control m events _, fun stage c => count_interruptSignals,
    fun n signal => running_of_interruptSignals⟩
  intro terminates children l u h hhead honce hover
  refine ⟨?_, ?_, ?_⟩
  · rintro rfl
    obtain ⟨exits, left, parting, hexits, hparting, hl⟩ := h.exists_shape hhead honce hover
    exact ⟨disciplined_of_shape hexits hparting hl, hparting.none_notMem⟩
  · rintro rfl
    exact h.of_ignored hhead hover
  · intro more v hmore
    obtain ⟨phase, left⟩ := u
    obtain rfl : phase = .over := hover
    exact hmore.of_over.1

/-- A process that has ended, one that ends a second after it is asked to, and one that only ends when it is killed,
where the first stage of the plan has no process. -/
theorem interrupt_signals_mixed : ∃ l u,
    Course true ⟨.waiting, [some (.exited 0), none, none]⟩ l u ∧ l.head? = some (.happened .interrupt) ∧
      l.count (.happened .interrupt) = 1 ∧ u.phase = .over ∧ Disciplined [some (.exited 0), none, none] l ∧
      l.filterMap Incident.signal? = [(1, .terminate), (2, .terminate), (2, .kill)] := by
  obtain ⟨hrule, -, ⟨l, hcourse, hhead, honce, hsignals⟩, -⟩ :=
    interrupt_signals ⟨true, .finite false 2⟩ ⟨⟨⟨[]⟩, .ofLocation []⟩, ⟨[]⟩, ⟨0, 0⟩, .usual, 0, .never⟩ []
      [none, some (.done (.exited 0)), some (.waiting (.ends 1 (.exited 0))), some (.waiting .ignores)]
  refine ⟨l, _, hcourse, hhead, honce, rfl, ((hrule _ _ _ _ hcourse hhead honce rfl).1 rfl).1, ?_⟩
  rw [hsignals]
  decide +kernel

end Execution

end CommandShell
