import Mathlib.Data.Nat.Count
import Mathlib.Data.Nat.Periodic
import Mathlib.Tactic.Ring

/-!
# Periodic schedules

How often a periodic event comes up by some time: so many whole periods, and a rest. The events of
interest here are those of a cycle that shows each of `n` things once and the last one twice.

## Main definitions

* `Schedule.shown` — what such a cycle shows at a given time.
* `Schedule.exposure` — how often it has shown one of them.

## Main results

* `Schedule.count_of_periodic` — counting by whole periods.
* `Schedule.fair_iff` — the times at which the exposures differ by at most one.
-/

namespace Schedule

/-- By time `T`, a periodic event has come up once more per whole period. -/
theorem count_of_periodic {p : ℕ → Prop} [DecidablePred p] {period : ℕ}
    (h : Function.Periodic p period) (T : ℕ) :
    Nat.count p T = T / period * Nat.count p period + Nat.count p (T % period) := by
  have whole (q r : ℕ) : Nat.count p (q * period + r) = q * Nat.count p period + Nat.count p r := by
    induction q with
    | zero => simp
    | succ q ih =>
      have shift : (q + 1) * period + r = period + (q * period + r) := by ring
      have same : (fun k => p (period + k)) = p := by
        funext k
        rw [Nat.add_comm]
        exact h k
      rw [shift, Nat.count_add]
      simp only [same, ih]
      ring
  rw [← whole, Nat.div_add_mod']

/-- A cycle of `n + 1` steps that shows `0, 1, …, n - 1` and the last of them once more. -/
def shown (n k : ℕ) : ℕ := min (k % (n + 1)) (n - 1)

/-- How often `i` is shown before time `T`. -/
def exposure (n i T : ℕ) : ℕ := Nat.count (fun k => shown n k = i) T

variable {n i j T : ℕ}

/-- The position within the cycle goes up by one, or back to the start. -/
theorem succ_mod (n k : ℕ) :
    (k + 1) % (n + 1) = if k % (n + 1) < n then k % (n + 1) + 1 else 0 := by
  have rest : k % (n + 1) < n + 1 := Nat.mod_lt _ (by omega)
  rw [Nat.add_mod]
  split
  · rw [Nat.mod_eq_of_lt (a := 1) (by omega), Nat.mod_eq_of_lt (by omega)]
  · have last : k % (n + 1) = n := by omega
    cases n with
    | zero => omega
    | succ n => rw [last, Nat.mod_eq_of_lt (a := 1) (by omega), Nat.mod_self]

theorem shown_of_lt {k : ℕ} (h : k % (n + 1) < n) : shown n k = k % (n + 1) := by
  unfold shown
  omega

/-- At the end of a cycle the last one stays. -/
theorem shown_of_last {k : ℕ} (h : (k + 1) % (n + 1) = n) (positive : 0 < n) :
    shown n (k + 1) = shown n k := by
  have before := succ_mod n k
  unfold shown
  split_ifs at before <;> omega

theorem exposure_succ (n i T : ℕ) :
    exposure n i (T + 1) = exposure n i T + if shown n T = i then 1 else 0 :=
  Nat.count_succ _ _

/-- Counting in the list of what was shown. -/
theorem count_map_shown (n i T : ℕ) :
    ((List.range T).map fun k => some (shown n k)).count (some i) = exposure n i T := by
  induction T with
  | zero => simp [exposure]
  | succ T ih =>
    rw [List.range_succ, List.map_append, List.count_append, ih, exposure_succ]
    simp [List.count_singleton]

theorem exposure_eq (n i T : ℕ) :
    exposure n i T = T / (n + 1) * exposure n i (n + 1) + exposure n i (T % (n + 1)) := by
  apply count_of_periodic
  intro k
  simp [shown]

/-- Within the first cycle, `i` is shown at time `i`, and the last one at time `n` as well. -/
theorem exposure_first (hi : i < n) (hT : T ≤ n + 1) : exposure n i T =
    (if i < T then 1 else 0) + if i + 1 = n ∧ n < T then 1 else 0 := by
  induction T with
  | zero => simp [exposure]
  | succ T ih =>
    have here : shown n T = min T (n - 1) := by rw [shown, Nat.mod_eq_of_lt (by omega)]
    rw [exposure_succ, ih (by omega), here]
    split_ifs <;> omega

theorem exposure_of_lt (hi : i + 1 < n) (T : ℕ) :
    exposure n i T = T / (n + 1) + if i < T % (n + 1) then 1 else 0 := by
  have rest : T % (n + 1) < n + 1 := Nat.mod_lt _ (by omega)
  rw [exposure_eq, exposure_first (by omega) le_rfl, exposure_first (by omega) rest.le]
  split_ifs <;> omega

theorem exposure_last (hi : i + 1 = n) (T : ℕ) :
    exposure n i T = 2 * (T / (n + 1)) + if i < T % (n + 1) then 1 else 0 := by
  have rest : T % (n + 1) < n + 1 := Nat.mod_lt _ (by omega)
  rw [exposure_eq, exposure_first (by omega) le_rfl, exposure_first (by omega) rest.le]
  split_ifs <;> omega

/-- The exposures of any two differ by at most one. -/
def Fair (n T : ℕ) : Prop := ∀ i j, i < n → j < n → exposure n i T ≤ exposure n j T + 1

/-- In terms of whole cycles and the rest of the last one. -/
theorem early_iff (positive : 0 < n) (T : ℕ) :
    T < 2 * (n + 1) ∨ T = 3 * n + 1 ↔
      T / (n + 1) < 2 ∨ T / (n + 1) = 2 ∧ T % (n + 1) = n - 1 := by
  have rest : T % (n + 1) < n + 1 := Nat.mod_lt _ (by omega)
  have whole := Nat.div_add_mod T (n + 1)
  rw [← Nat.div_lt_iff_lt_mul (by omega)]
  refine or_congr_right' fun late => ?_
  constructor
  · rintro rfl
    have two : (3 * n + 1) / (n + 1) = 2 := by
      rw [Nat.div_eq_iff (by omega)]
      omega
    rw [two] at whole
    exact ⟨two, by omega⟩
  · rintro ⟨two, last⟩
    rw [two] at whole
    omega

/-- The last one is ahead by the number of whole cycles, or by one less just before its second turn
in a cycle. -/
theorem fair_iff (positive : 0 < n) (T : ℕ) :
    Fair n T ↔ n = 1 ∨ T < 2 * (n + 1) ∨ T = 3 * n + 1 := by
  have rest : T % (n + 1) < n + 1 := Nat.mod_lt _ (by omega)
  rw [early_iff positive]
  constructor
  · intro fair
    by_cases one : n = 1
    · exact .inl one
    have ahead := fair (n - 1) (n - 2) (by omega) (by omega)
    rw [exposure_last (by omega), exposure_of_lt (by omega)] at ahead
    split_ifs at ahead <;> omega
  · rintro (rfl | early) i j hi hj
    · obtain rfl : i = j := by omega
      omega
    have last {k : ℕ} (hk : k < n) : k + 1 = n ∨ k + 1 < n := by omega
    rcases last hi with hi | hi <;> rcases last hj with hj | hj <;>
      simp only [exposure_last, exposure_of_lt, hi, hj] <;> split_ifs <;> omega

end Schedule
