import Mathlib.Data.List.Forall2

/-!
# Programs driven by events

An `EventSystem` is a program together with its environment. The environment chooses the next
event among the enabled ones; the program answers in one atomic step, with a new state or with a
fault. An execution is a finite sequence of enabled events none of which faults, so a statement
about every execution covers every interleaving the environment can produce.

## Main definitions

* `EventSystem.Exec` — the executions, with the events they consist of.
* `EventSystem.Always`, `EventSystem.AllSteps` — a property of every state an execution visits,
  and a condition on every step it takes.
* `EventSystem.replay` — the executable form of `Exec`.

## Main results

* `Exec.invariant` — the induction rule for invariants of executions whose steps meet a condition.
* `Exec.always_iff_allSteps` — when a condition on single steps is exactly what a property needs.
* `Exec.project`, `Exec.simulate` — an execution seen through a map of states that every step
  respects.
-/

/-- A program driven by its environment: `enabled` is what the environment may do next, `step`
what the program does then. -/
structure EventSystem (State Event Fault : Type*) where
  enabled : State → Event → Prop
  step : State → Event → Except Fault State

namespace EventSystem

variable {State Event Fault : Type*} (M : EventSystem State Event Fault)

/-- All the events happen in this order, and none of them faults. -/
inductive Exec : State → List Event → State → Prop where
  | nil (s : State) : Exec s [] s
  | cons {s t u : State} {e : Event} {es : List Event} :
      M.enabled s e → M.step s e = .ok t → Exec t es u → Exec s (e :: es) u

/-- `P` holds in every state the events lead through. -/
def Always (P : State → Prop) : State → List Event → Prop
  | s, [] => P s
  | s, e :: es => P s ∧ ∀ t, M.step s e = .ok t → Always P t es

/-- `ok` holds of every step the events make. -/
def AllSteps (ok : State → Event → Prop) : State → List Event → Prop
  | _, [] => True
  | s, e :: es => ok s e ∧ ∀ t, M.step s e = .ok t → AllSteps ok t es

variable {M} {s t u : State} {e : Event} {es fs : List Event}
variable {I P : State → Prop} {ok : State → Event → Prop}

theorem Exec.append (h : M.Exec s es t) (g : M.Exec t fs u) : M.Exec s (es ++ fs) u := by
  induction h with
  | nil => exact g
  | cons enabled step _ ih => exact .cons enabled step (ih g)

theorem Exec.snoc (h : M.Exec s es t) (enabled : M.enabled t e) (step : M.step t e = .ok u) :
    M.Exec s (es ++ [e]) u :=
  h.append (.cons enabled step (.nil u))

/-- An invariant of the steps that meet a condition holds after every execution made of them. -/
theorem Exec.invariant (h : M.Exec s es t) (good : M.AllSteps ok s es) (init : I s)
    (keep : ∀ {s e t}, I s → M.enabled s e → ok s e → M.step s e = .ok t → I t) : I t := by
  induction h with
  | nil => exact init
  | cons enabled step _ ih => exact ih (good.2 _ step) (keep init enabled good.1 step)

theorem allSteps_true (s : State) (es : List Event) : M.AllSteps (fun _ _ => True) s es := by
  induction es generalizing s with
  | nil => trivial
  | cons e es ih => exact ⟨trivial, fun t _ => ih t⟩

theorem allSteps_of_forall_mem {cond : Event → Prop} (s : State) (h : ∀ e ∈ es, cond e) :
    M.AllSteps (fun _ => cond) s es := by
  induction es generalizing s with
  | nil => trivial
  | cons e es ih =>
    obtain ⟨here, later⟩ := List.forall_mem_cons.mp h
    exact ⟨here, fun t _ => ih t later⟩

theorem Always.mono {Q : State → Prop} (imp : ∀ s, P s → Q s) {s : State} {es : List Event}
    (h : M.Always P s es) : M.Always Q s es := by
  induction es generalizing s with
  | nil => exact imp s h
  | cons e es ih => exact ⟨imp s h.1, fun t step => ih (h.2 t step)⟩

theorem AllSteps.mono {ok' : State → Event → Prop} (imp : ∀ s e, ok s e → ok' s e) {s : State}
    {es : List Event} (h : M.AllSteps ok s es) : M.AllSteps ok' s es := by
  induction es generalizing s with
  | nil => trivial
  | cons e es ih => exact ⟨imp s e h.1, fun t step => ih (h.2 t step)⟩

theorem allSteps_congr {ok' : State → Event → Prop} (same : ∀ s e, ok s e ↔ ok' s e) (s : State)
    (es : List Event) : M.AllSteps ok s es ↔ M.AllSteps ok' s es := by
  induction es generalizing s with
  | nil => exact Iff.rfl
  | cons e es ih => exact and_congr (same s e) (forall₂_congr fun t _ => ih t)

/-- After an execution the environment may try one more event, which may fault. -/
theorem Exec.offered (h : M.Exec s es t) (enabled : M.enabled t e) :
    M.AllSteps M.enabled s (es ++ [e]) := by
  induction h with
  | nil s => exact ⟨enabled, fun _ _ => trivial⟩
  | @cons s t u e' es enabled' step _ ih =>
    refine ⟨enabled', fun t' step' => ?_⟩
    obtain rfl : t = t' := by simpa [step] using step'
    exact ih enabled

/-- Events make an execution exactly when the environment offers each of them and none faults. -/
theorem exists_exec_iff : (∃ t, M.Exec s es t) ↔
    M.AllSteps (fun s e => M.enabled s e ∧ ∃ t, M.step s e = .ok t) s es := by
  constructor
  · rintro ⟨t, run⟩
    induction run with
    | nil => trivial
    | @cons s t u e es enabled step _ ih =>
      refine ⟨⟨enabled, t, step⟩, fun t' step' => ?_⟩
      obtain rfl : t = t' := by simpa [step] using step'
      exact ih
  · intro h
    induction es generalizing s with
    | nil => exact ⟨s, .nil s⟩
    | cons e es ih =>
      obtain ⟨⟨enabled, t, step⟩, rest⟩ := h
      obtain ⟨u, run⟩ := ih (rest t step)
      exact ⟨u, .cons enabled step run⟩

theorem AllSteps.and {ok' : State → Event → Prop} (h : M.AllSteps ok s es)
    (h' : M.AllSteps ok' s es) : M.AllSteps (fun s e => ok s e ∧ ok' s e) s es := by
  induction es generalizing s with
  | nil => trivial
  | cons e es ih => exact ⟨⟨h.1, h'.1⟩, fun t step => ih (h.2 t step) (h'.2 t step)⟩

/-- An invariant of the steps that meet a condition holds before each of them. -/
theorem AllSteps.invariant (h : M.AllSteps ok s es) (init : I s)
    (keep : ∀ {s e t}, I s → ok s e → M.step s e = .ok t → I t) :
    M.AllSteps (fun s e => I s ∧ ok s e) s es := by
  induction es generalizing s with
  | nil => trivial
  | cons e es ih =>
    exact ⟨⟨init, h.1⟩, fun t step => ih (h.2 t step) (keep init h.1 step)⟩

/-- The rule for an invariant that every step keeps. -/
theorem Exec.invariant' (h : M.Exec s es t) (init : I s)
    (keep : ∀ {s e t}, I s → M.enabled s e → M.step s e = .ok t → I t) : I t :=
  h.invariant (allSteps_true s es) init fun hs enabled _ => keep hs enabled

/-- If, wherever the invariant and the property hold, a step keeps the property exactly when it
meets the condition, then along an execution the property always holds exactly when every step
meets the condition. -/
theorem Exec.always_iff_allSteps (h : M.Exec s es t) (init : I s) (start : P s)
    (keep : ∀ {s e t}, I s → M.enabled s e → M.step s e = .ok t → I t)
    (exact : ∀ {s e t}, I s → P s → M.enabled s e → M.step s e = .ok t → (P t ↔ ok s e)) :
    M.Always P s es ↔ M.AllSteps ok s es := by
  induction h with
  | nil => exact iff_of_true start trivial
  | @cons s t u e es enabled step _ ih =>
    have here := exact init start enabled step
    have rest := fun hP => ih (keep init enabled step) hP
    constructor
    · rintro ⟨_, always⟩
      have next := always t step
      have hP : P t := by cases es <;> [exact next; exact next.1]
      refine ⟨here.mp hP, fun t' step' => ?_⟩
      obtain rfl : t = t' := by simpa [step] using step'
      exact (rest hP).mp next
    · rintro ⟨good, steps⟩
      refine ⟨start, fun t' step' => ?_⟩
      obtain rfl : t = t' := by simpa [step] using step'
      exact (rest (here.mpr good)).mpr (steps t step)

/-- A map of states under which every step is a step of `N` or no step at all carries every
execution to an execution of `N`. -/
theorem Exec.project {State' Event' Fault' : Type*} {N : EventSystem State' Event' Fault'}
    (view : State → State') (h : M.Exec s es t)
    (simulate : ∀ {s e t}, M.enabled s e → M.step s e = .ok t →
      view t = view s ∨ ∃ e', N.enabled (view s) e' ∧ N.step (view s) e' = .ok (view t)) :
    ∃ es', N.Exec (view s) es' (view t) := by
  induction h with
  | nil s => exact ⟨[], .nil _⟩
  | cons enabled step _ ih =>
    obtain ⟨es', run⟩ := ih
    rcases simulate enabled step with same | ⟨e', enabled', step'⟩
    · exact ⟨es', same ▸ run⟩
    · exact ⟨e' :: es', .cons enabled' step' run⟩

/-- The same where the steps are only understood in states that meet an invariant. The events of the
execution of `N` answer events of the execution of `M`, one each, and in the same order. -/
theorem Exec.simulate {State' Event' Fault' : Type*} {N : EventSystem State' Event' Fault'}
    (view : State → State') (answers : Event → Event' → Prop) (h : M.Exec s es t) (init : I s)
    (keep : ∀ {s e t}, I s → M.enabled s e → M.step s e = .ok t → I t)
    (step : ∀ {s e t}, I s → M.enabled s e → M.step s e = .ok t → view t = view s ∨
      ∃ e', answers e e' ∧ N.enabled (view s) e' ∧ N.step (view s) e' = .ok (view t)) :
    ∃ es', N.Exec (view s) es' (view t) ∧ es'.SublistForall₂ (fun e' e => answers e e') es := by
  induction h with
  | nil s => exact ⟨[], .nil _, .nil⟩
  | @cons s t u e es enabled stepped _ ih =>
    obtain ⟨es', run, answered⟩ := ih (keep init enabled stepped)
    rcases step init enabled stepped with same | ⟨e', answer, enabled', step'⟩
    · exact ⟨es', same ▸ run, .cons_right answered⟩
    · exact ⟨e' :: es', .cons enabled' step' run, .cons answer answered⟩

/-- Each event of such an execution answers some event. -/
theorem exists_mem_of_sublistForall₂ {Event' : Type*} {es' : List Event'} {e' : Event'}
    {answers : Event → Event' → Prop} (h : es'.SublistForall₂ (fun e' e => answers e e') es)
    (he' : e' ∈ es') : ∃ e ∈ es, answers e e' := by
  induction h with
  | nil => cases he'
  | cons answer _ ih =>
    rcases List.mem_cons.mp he' with rfl | later
    · exact ⟨_, List.mem_cons_self, answer⟩
    · obtain ⟨e, he, answer⟩ := ih later
      exact ⟨e, List.mem_cons_of_mem _ he, answer⟩
  | cons_right _ ih =>
    obtain ⟨e, he, answer⟩ := ih he'
    exact ⟨e, List.mem_cons_of_mem _ he, answer⟩

/-- The program in an environment that only produces the events `offered`. -/
def restrict (M : EventSystem State Event Fault) (offered : Event → Prop) :
    EventSystem State Event Fault where
  enabled s e := M.enabled s e ∧ offered e
  step := M.step

instance {offered : Event → Prop} [DecidablePred offered] [∀ s e, Decidable (M.enabled s e)]
    (s : State) (e : Event) : Decidable ((M.restrict offered).enabled s e) :=
  inferInstanceAs (Decidable (M.enabled s e ∧ offered e))

/-- Run the events, stopping at the first that is not enabled or faults. -/
def replay (M : EventSystem State Event Fault) [∀ s e, Decidable (M.enabled s e)] :
    State → List Event → Option State
  | s, [] => some s
  | s, e :: es =>
    if M.enabled s e then
      match M.step s e with
      | .ok t => replay M t es
      | .error _ => none
    else none

theorem replay_sound [∀ s e, Decidable (M.enabled s e)] (h : M.replay s es = some t) :
    M.Exec s es t := by
  induction es generalizing s with
  | nil => cases h; exact .nil _
  | cons e es ih =>
    simp only [replay] at h
    split at h
    · rename_i enabled
      split at h
      · rename_i u step
        exact .cons enabled step (ih h)
      · cases h
    · cases h

end EventSystem
