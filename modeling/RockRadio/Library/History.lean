import RockRadio.Library.EventSystem

/-!
# History variables

A history variable records something about the past that the state forgets. It is written by every
step and never read, so adding one neither takes executions away nor brings new ones.

## Main definitions

* `EventSystem.withHistory` — the program with a history variable.

## Main results

* `Exec.forget`, `Exec.exists_history` — the executions are the same up to the variable.
-/

namespace EventSystem

variable {State Event Fault H : Type*}

/-- The program `M`, with a variable on the side that `record` updates after every step from the
state before it, the event and the state it leads to. -/
def withHistory (M : EventSystem State Event Fault) (record : State → Event → State → H → H) :
    EventSystem (State × H) Event Fault where
  enabled x e := M.enabled x.1 e
  step x e := (M.step x.1 e).map fun t => (t, record x.1 e t x.2)

variable {M : EventSystem State Event Fault} {record : State → Event → State → H → H}
variable {s t : State} {x y : State × H} {e : Event} {es : List Event}

instance [∀ s e, Decidable (M.enabled s e)] (x : State × H) (e : Event) :
    Decidable ((M.withHistory record).enabled x e) :=
  inferInstanceAs (Decidable (M.enabled x.1 e))

/-- A step is one of the program, recorded. -/
theorem withHistory_step_iff : (M.withHistory record).step x e = .ok y ↔
    M.step x.1 e = .ok y.1 ∧ y.2 = record x.1 e y.1 x.2 := by
  obtain ⟨t, h⟩ := y
  simp only [withHistory]
  cases M.step x.1 e with
  | error fault => exact iff_of_false nofun nofun
  | ok u =>
    simp only [Except.map, Except.ok.injEq, Prod.mk.injEq]
    constructor
    · rintro ⟨rfl, rfl⟩
      exact ⟨rfl, rfl⟩
    · rintro ⟨rfl, rfl⟩
      exact ⟨rfl, rfl⟩

/-- Forgetting the variable leaves an execution of the program. -/
theorem Exec.forget (run : (M.withHistory record).Exec x es y) : M.Exec x.1 es y.1 := by
  induction run with
  | nil => exact .nil _
  | cons enabled step _ ih => exact .cons enabled (withHistory_step_iff.mp step).1 ih

/-- Every execution of the program can be recorded. -/
theorem Exec.exists_history (run : M.Exec s es t) (h : H) :
    ∃ h', (M.withHistory record).Exec (s, h) es (t, h') := by
  induction run generalizing h with
  | nil s => exact ⟨h, .nil _⟩
  | @cons s t u e es enabled step _ ih =>
    obtain ⟨h', run⟩ := ih (record s e t h)
    exact ⟨h', .cons enabled (withHistory_step_iff.mpr ⟨step, rfl⟩) run⟩

end EventSystem
