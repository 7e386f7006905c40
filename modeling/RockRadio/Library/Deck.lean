import RockRadio.Library.EventSystem

/-!
# A deck whose loads overlap

A deck plays at most one medium. Selecting a medium ejects the current one and starts to load the
new one; loads finish in any order, well or badly, and none is ever cancelled. A load that finishes
well puts its medium into the deck and plays it; one that finishes badly leaves the deck empty.

Two states keep a deck out of trouble. It is *tuned* to a medium when that is all it can ever play,
and *silent* when it plays nothing and nothing is on its way.

## Main definitions

* `Deck.select`, `Deck.finish`, `Deck.play`, `Deck.pause` — what can happen to a deck.
* `Deck.system` — the deck as an event system.

## Main results

* `Deck.Tuned.iff` — when a tuned deck is tuned to something else.
* `Deck.stopped_of_exec` — what makes a deck play.
-/

/-- A deck: what is in it, whether it plays, and the loads under way. It only plays what is in
it. -/
@[ext] structure Deck (Media : Type*) where
  item : Option Media
  playing : Bool
  loads : List Media
  backed : playing = true → item.isSome = true

namespace Deck

variable {Media : Type*} (d : Deck Media)

/-- Eject, and load `m` if there is such a medium. -/
def select (m : Option Media) : Deck Media where
  item := none
  playing := false
  loads := d.loads ++ m.toList
  backed := nofun

/-- The `i`-th load finishes. -/
def finish (i : ℕ) (success : Bool) : Deck Media :=
  match d.loads[i]? with
  | none => d
  | some m =>
    if success then ⟨some m, true, d.loads.eraseIdx i, fun _ => rfl⟩
    else ⟨none, false, d.loads.eraseIdx i, nofun⟩

/-- Play what is in the deck, if anything is. -/
def play : Deck Media := { d with playing := d.item.isSome, backed := id }

def pause : Deck Media := { d with playing := false, backed := nofun }

variable {d}

/-! ## Tuned decks -/

/-- Once the loads are over, `m` is all that can be playing. -/
def Tuned (m : Option Media) (d : Deck Media) : Prop :=
  (d.playing = true → d.loads = [] → d.item = m) ∧ ∀ l ∈ d.loads, some l = m

theorem Tuned.select {m : Option Media} (h : d.Tuned m) : (d.select m).Tuned m := by
  refine ⟨nofun, fun l hl => ?_⟩
  rcases List.mem_append.mp hl with hl | hl
  · exact h.2 l hl
  · exact (Option.mem_toList.mp hl).symm

theorem Tuned.finish {m : Option Media} (h : d.Tuned m) (i : ℕ) (success : Bool) :
    (d.finish i success).Tuned m := by
  unfold Deck.finish
  cases hi : d.loads[i]? with
  | none => exact h
  | some l =>
    have loaded : some l = m := h.2 l (List.mem_of_getElem? hi)
    have rest : ∀ l ∈ d.loads.eraseIdx i, some l = m :=
      fun l hl => h.2 l (List.mem_of_mem_eraseIdx hl)
    cases success with
    | true => exact ⟨fun _ _ => loaded, rest⟩
    | false => exact ⟨nofun, rest⟩

theorem Tuned.pause {m : Option Media} (h : d.Tuned m) : d.pause.Tuned m := ⟨nofun, h.2⟩

/-- A deck that neither plays nor loads is tuned to anything. -/
theorem tuned_of_idle {m : Option Media} (quiet : d.playing = false) (idle : d.loads = []) :
    d.Tuned m :=
  ⟨by simp [quiet], by simp [idle]⟩

/-- A tuned deck is tuned to another medium only while it neither plays nor loads. -/
theorem Tuned.iff {m m' : Option Media} (h : d.Tuned m) :
    d.Tuned m' ↔ (d.playing = true ∨ d.loads ≠ [] → m' = m) := by
  constructor
  · intro h' busy
    by_cases idle : d.loads = []
    · have playing := busy.resolve_right (not_not_intro idle)
      rw [← h.1 playing idle, ← h'.1 playing idle]
    · obtain ⟨l, hl⟩ := List.exists_mem_of_ne_nil _ idle
      rw [← h.2 l hl, ← h'.2 l hl]
  · intro same
    by_cases busy : d.playing = true ∨ d.loads ≠ []
    · exact same busy ▸ h
    · rw [not_or, not_not] at busy
      exact tuned_of_idle (eq_false_of_ne_true busy.1) busy.2

/-- Another load can be finished first, unless there is none. -/
theorem exists_other_load {l : Media} (hl : l ∈ d.loads) (more : d.loads.length ≠ 1) :
    ∃ i < d.loads.length, l ∈ d.loads.eraseIdx i := by
  match hLoads : d.loads, hl with
  | [_], _ => simp [hLoads] at more
  | first :: second :: rest, hl =>
    rcases List.mem_cons.mp hl with rfl | hl
    · exact ⟨1, by simp, by simp⟩
    · exact ⟨0, by simp, by simpa using hl⟩

/-! ## Silent decks -/

/-- Nothing plays, and no load is under way that could start to. -/
def Silent (d : Deck Media) : Prop := d.playing = false ∧ d.loads = []

theorem Silent.finish (h : d.Silent) (i : ℕ) (success : Bool) : (d.finish i success).Silent := by
  have none : d.loads[i]? = none := by simp [h.2]
  simpa [Deck.finish, none] using h

theorem Silent.pause (h : d.Silent) : d.pause.Silent := ⟨rfl, h.2⟩

theorem silent_select_none (idle : d.loads = []) : (d.select none).Silent :=
  ⟨rfl, by simp [Deck.select, idle]⟩

/-- A deck with a load under way can be made to play by that load alone. -/
theorem exists_finish_playing (loading : d.loads ≠ []) : (d.finish 0 true).playing = true := by
  obtain ⟨m, ms, hm⟩ := List.exists_cons_of_ne_nil loading
  simp [Deck.finish, hm]

/-! ## Decks as event systems -/

inductive Event (Media : Type*) where
  | select (m : Option Media)
  | finish (i : ℕ) (success : Bool)
  | play
  | pause

/-- What an event does to the deck. -/
def next (d : Deck Media) : Event Media → Deck Media
  | .select m => d.select m
  | .finish i success => d.finish i success
  | .play => d.play
  | .pause => d.pause

/-- The deck under these events. Only a load under way can finish. -/
def system (Media : Type*) : EventSystem (Deck Media) (Event Media) Empty where
  enabled d
    | .finish i _ => i < d.loads.length
    | _ => True
  step d e := .ok (d.next e)

/-- The event can make a deck play that does not. -/
def Event.Starts : Event Media → Prop
  | .play => True
  | .finish _ success => success = true
  | _ => False

theorem next_stopped (stopped : d.playing = false) {e : Event Media} (quiet : ¬ e.Starts) :
    (d.next e).playing = false := by
  cases e with
  | select m => rfl
  | finish i success =>
    have failed : success = false := eq_false_of_ne_true quiet
    simp only [next, finish, failed]
    cases d.loads[i]? with
    | none => exact stopped
    | some m => rfl
  | play => exact absurd trivial quiet
  | pause => rfl

/-- A deck only starts to play on an event that starts it. -/
theorem stopped_of_exec {d' : Deck Media} {es : List (Event Media)}
    (run : (system Media).Exec d es d') (stopped : d.playing = false)
    (quiet : ∀ e ∈ es, ¬ e.Starts) : d'.playing = false := by
  refine run.invariant (I := fun d => d.playing = false)
    (EventSystem.allSteps_of_forall_mem _ quiet) stopped ?_
  rintro d e t stopped _ quiet ⟨⟩
  exact next_stopped stopped quiet

end Deck
