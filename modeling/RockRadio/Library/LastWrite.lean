import RockRadio.Library.EventSystem

/-!
# Registers with the last writer winning

Messages are processed in order; `write m` is what the message `m` puts into the register, if
anything. `lastWrite write a ms` is the value left in a register that held `a`.

## Main results

* `lastWrite_eq_of_forall` — if every message that writes at all writes `v` and at least one does,
  the register ends with `v`, whatever it held.
* `lastWrite_lastWrite` — processing the same messages again changes nothing.
* `lastWrite_invariant` — the rule for a relation between the state of a program and a register that
  its events write.
-/

namespace Register

variable {Message Value : Type*} (write : Message → Option Value)

/-- The value of a register that held `a`, after the messages. -/
def lastWrite (a : Value) (ms : List Message) : Value :=
  ms.foldl (fun b m => (write m).getD b) a

@[simp] theorem lastWrite_nil (a : Value) : lastWrite write a [] = a := rfl

@[simp] theorem lastWrite_cons (a : Value) (m : Message) (ms : List Message) :
    lastWrite write a (m :: ms) = lastWrite write ((write m).getD a) ms := rfl

/-- The last value written, if any message writes. -/
def written (ms : List Message) : Option Value := (ms.filterMap write).getLast?

/-- One more message: what it writes, else what was written before. -/
theorem written_concat (ms : List Message) (m : Message) :
    written write (ms ++ [m]) = (write m).or (written write ms) := by
  unfold written
  cases hm : write m with
  | none => simp [hm]
  | some v => simp [hm]

/-- What the register holds at the end: the last value written, else what it held. -/
theorem lastWrite_eq_written (a : Value) (ms : List Message) :
    lastWrite write a ms = (written write ms).getD a := by
  induction ms generalizing a with
  | nil => rfl
  | cons m ms ih =>
    rw [lastWrite_cons, ih]
    cases hm : write m with
    | none => simp [written, hm]
    | some v => cases hs : (ms.filterMap write) <;> simp [written, hm, hs, List.getLast?_cons]

theorem written_mem {ms : List Message} {v : Value} (h : written write ms = some v) :
    ∃ m ∈ ms, write m = some v := by
  simpa using List.mem_of_getLast? h

theorem written_eq_none {ms : List Message} :
    written write ms = none ↔ ∀ m ∈ ms, write m = none := by
  simp [written]

/-- Processing the same messages a second time changes nothing. -/
theorem lastWrite_lastWrite (a : Value) (ms : List Message) :
    lastWrite write (lastWrite write a ms) ms = lastWrite write a ms := by
  simp only [lastWrite_eq_written]
  cases written write ms <;> rfl

/-- If every write writes `v`, and there is one, the register ends with `v`. -/
theorem lastWrite_eq_of_forall {ms : List Message} {v : Value} (a : Value)
    (all : ∀ m ∈ ms, ∀ w, write m = some w → w = v) (one : ∃ m ∈ ms, write m = some v) :
    lastWrite write a ms = v := by
  rw [lastWrite_eq_written]
  cases h : written write ms with
  | none =>
    obtain ⟨m, hm, hv⟩ := one
    simp [(written_eq_none write).mp h m hm] at hv
  | some w =>
    obtain ⟨m, hm, hw⟩ := written_mem write h
    exact all m hm w hw

/-- A relation between a state and the value of a register that every step keeps, with what its
event writes, holds after every execution. -/
theorem lastWrite_invariant {State Fault : Type*} {M : EventSystem State Message Fault}
    {I : Value → State → Prop} {s t : State} {ms : List Message} {a : Value} (run : M.Exec s ms t)
    (init : I a s) (keep : ∀ {a s m t}, I a s → M.enabled s m → M.step s m = .ok t →
      I ((write m).getD a) t) : I (lastWrite write a ms) t := by
  induction run generalizing a with
  | nil => exact init
  | cons enabled step _ ih => exact ih (keep init enabled step)

end Register
