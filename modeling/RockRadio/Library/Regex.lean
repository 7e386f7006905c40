import Mathlib.Computability.Language
import Mathlib.Data.List.TakeWhile

/-!
# Regular expressions with backtracking

A regular expression is matched from left to right. Where there is a choice, the alternatives are
tried in order, and a repetition is tried as long, or when lazy as short, as possible first; what
follows decides which choice stands. So a regular expression turns a text into the list of all the
rests it can leave of it, the preferred one first. Removing all matches goes through the text once
and takes the preferred match wherever there is one.

## Main definitions

* `Regex.language` — the texts a regular expression matches.
* `Regex.rests`, `Regex.first` — what its matches at the beginning of a text leave of it, in the
  order of preference.
* `Regex.removeAll` — the text without the matches found from left to right.
* `Regex.Removed` — the steps of such a removal.

## Main results

* `Regex.mem_rests_iff` — backtracking finds the words of the language, and no others.
* `Regex.removed_iff` — removing all matches takes these steps.
* `Regex.removeAll_eq_self_iff` — a text stays as it is exactly when nothing in it matches.
-/

inductive Regex (α : Type*) where
  | char (p : α → Bool)
  | seq (r s : Regex α)
  | alt (r s : Regex α)
  | star (r : Regex α) (isLazy : Bool)

namespace Regex

variable {α : Type*}

/-- The texts that match as a whole. -/
def language : Regex α → Language α
  | char p => {w | ∃ c, p c = true ∧ w = [c]}
  | seq r s => r.language * s.language
  | alt r s => r.language + s.language
  | star r _ => KStar.kstar r.language

/-- A repetition of at most `n` rounds, of which each must get ahead. -/
def repeats (once : List α → List (List α)) (isLazy : Bool) : ℕ → List α → List (List α)
  | 0, cs => [cs]
  | n + 1, cs =>
    let more := ((once cs).filter (·.length < cs.length)).flatMap (repeats once isLazy n)
    if isLazy then cs :: more else more ++ [cs]

/-- What the matches at the beginning of a text leave of it, in the order in which backtracking
comes upon them. -/
def rests : Regex α → List α → List (List α)
  | char _, [] => []
  | char p, c :: cs => if p c then [cs] else []
  | seq r s, cs => (r.rests cs).flatMap s.rests
  | alt r s, cs => r.rests cs ++ s.rests cs
  | star r isLazy, cs => repeats r.rests isLazy cs.length cs

/-- What the preferred match at the beginning of a text leaves of it. -/
def first (r : Regex α) (cs : List α) : Option (List α) := (r.rests cs).head?

/-- The text without the matches, the first `n` characters being part of one. -/
def removeFrom (r : Regex α) : ℕ → List α → List α
  | _, [] => []
  | n + 1, _ :: cs => removeFrom r n cs
  | 0, c :: cs =>
    match r.first (c :: cs) with
    | none => c :: removeFrom r 0 cs
    | some rest =>
      -- an empty match removes nothing
      if rest.length ≤ cs.length then removeFrom r (cs.length - rest.length) cs
      else c :: removeFrom r 0 cs

/-- The text without the matches found from left to right. -/
def removeAll (r : Regex α) (cs : List α) : List α := r.removeFrom 0 cs

variable {r s : Regex α} {cs ds t w : List α} {c : α} {p : α → Bool} {isLazy : Bool}

/-! ## Backtracking finds the language -/

theorem mem_repeats_succ {once : List α → List (List α)} {n : ℕ} :
    t ∈ repeats once isLazy (n + 1) cs ↔
      t = cs ∨ ∃ u ∈ once cs, u.length < cs.length ∧ t ∈ repeats once isLazy n u := by
  have more : t ∈ ((once cs).filter (·.length < cs.length)).flatMap (repeats once isLazy n) ↔
      ∃ u ∈ once cs, u.length < cs.length ∧ t ∈ repeats once isLazy n u := by
    simp [and_assoc]
  cases isLazy with
  | true => simp only [repeats, if_true, List.mem_cons, more]
  | false =>
    simp only [repeats, Bool.false_eq_true, if_false, List.mem_append, List.mem_singleton, more]
    exact or_comm

/-- Repeating finds the repetitions, given that a single round finds the words of `l`. A word of a
repetition is made of words of which none is empty, so that each round gets ahead. -/
theorem mem_repeats_iff {once : List α → List (List α)} {l : Language α}
    (found : ∀ cs t, t ∈ once cs ↔ ∃ w ∈ l, w ++ t = cs) {n : ℕ} (enough : cs.length ≤ n) :
    t ∈ repeats once isLazy n cs ↔ ∃ w ∈ KStar.kstar l, w ++ t = cs := by
  induction n generalizing cs with
  | zero =>
    obtain rfl := List.length_eq_zero_iff.mp (Nat.le_zero.mp enough)
    simp only [repeats, List.mem_singleton, List.append_eq_nil_iff]
    constructor
    · rintro rfl
      exact ⟨[], l.nil_mem_kstar, rfl, rfl⟩
    · rintro ⟨w, _, _, empty⟩
      exact empty
  | succ n ih =>
    rw [mem_repeats_succ]
    constructor
    · rintro (rfl | ⟨u, hu, shorter, ht⟩)
      · exact ⟨[], l.nil_mem_kstar, rfl⟩
      · obtain ⟨v, hv, rfl⟩ := (found cs u).mp hu
        obtain ⟨w, hw, rfl⟩ := (ih (by omega)).mp ht
        obtain ⟨words, rfl, all⟩ := Language.mem_kstar.mp hw
        refine ⟨v ++ words.flatten, ?_, List.append_assoc v _ t⟩
        exact Language.mem_kstar.mpr ⟨v :: words, rfl, List.forall_mem_cons.mpr ⟨hv, all⟩⟩
    · rintro ⟨w, hw, rfl⟩
      obtain ⟨words, rfl, all⟩ := Language.mem_kstar_iff_exists_nonempty.mp hw
      cases words with
      | nil => exact .inl rfl
      | cons v words =>
        obtain ⟨⟨hv, some⟩, later⟩ := List.forall_mem_cons.mp all
        have ahead := List.length_pos_iff.mpr some
        have split : (v :: words).flatten ++ t = v ++ (words.flatten ++ t) := by simp
        have length : (v ++ (words.flatten ++ t)).length = v.length + (words.flatten ++ t).length :=
          List.length_append
        rw [split] at enough ⊢
        refine .inr ⟨words.flatten ++ t, (found _ _).mpr ⟨v, hv, rfl⟩, by omega, ?_⟩
        exact (ih (by omega)).mpr ⟨_, Language.join_mem_kstar fun y hy => (later y hy).1, rfl⟩

/-- Backtracking finds the words of the language, and no others. -/
theorem mem_rests_iff (r : Regex α) (cs t : List α) :
    t ∈ r.rests cs ↔ ∃ w ∈ r.language, w ++ t = cs := by
  induction r generalizing cs t with
  | char p =>
    cases cs with
    | nil =>
      refine iff_of_false (List.not_mem_nil) ?_
      rintro ⟨_, ⟨c, _, rfl⟩, impossible⟩
      cases impossible
    | cons c cs =>
      simp only [rests, language]
      constructor
      · intro h
        split at h
        · rename_i hc
          exact ⟨[c], ⟨c, hc, rfl⟩, by rw [List.mem_singleton.mp h]; rfl⟩
        · cases h
      · rintro ⟨_, ⟨c', hc, rfl⟩, same⟩
        cases same
        simp [hc]
  | seq r s ihr ihs =>
    simp only [rests, List.mem_flatMap, ihr, ihs, language, Language.mem_mul]
    constructor
    · rintro ⟨_, ⟨v, hv, rfl⟩, w, hw, rfl⟩
      exact ⟨v ++ w, ⟨v, hv, w, hw, rfl⟩, List.append_assoc v w t⟩
    · rintro ⟨_, ⟨v, hv, w, hw, rfl⟩, rfl⟩
      exact ⟨w ++ t, ⟨v, hv, (List.append_assoc v w t).symm⟩, w, hw, rfl⟩
  | alt r s ihr ihs =>
    simp only [rests, List.mem_append, ihr, ihs, language, Language.mem_add]
    constructor
    · rintro (⟨w, hw, same⟩ | ⟨w, hw, same⟩)
      · exact ⟨w, .inl hw, same⟩
      · exact ⟨w, .inr hw, same⟩
    · rintro ⟨w, hw | hw, same⟩
      · exact .inl ⟨w, hw, same⟩
      · exact .inr ⟨w, hw, same⟩
  | star r isLazy ih => exact mem_repeats_iff ih le_rfl

theorem first_eq_none_iff : r.first cs = none ↔ ∀ w ∈ r.language, ¬ w <+: cs := by
  rw [first, List.head?_eq_none_iff, List.eq_nil_iff_forall_not_mem]
  constructor
  · rintro h w hw ⟨t, same⟩
    exact h t ((mem_rests_iff r cs t).mpr ⟨w, hw, same⟩)
  · intro h t ht
    obtain ⟨w, hw, same⟩ := (mem_rests_iff r cs t).mp ht
    exact h w hw ⟨t, same⟩

theorem exists_of_first (h : r.first cs = some t) : ∃ w ∈ r.language, w ++ t = cs :=
  (mem_rests_iff r cs t).mp (List.mem_of_mem_head? h)

/-- A match that removes nothing is empty. -/
theorem first_eq_none_of_keep (proper : [] ∉ r.language)
    (here : ∀ rest ∈ r.first (c :: cs), cs.length < rest.length) : r.first (c :: cs) = none := by
  rw [Option.eq_none_iff_forall_not_mem]
  intro rest found
  obtain ⟨w, hw, same⟩ := exists_of_first found
  have longer := here rest found
  have length := congrArg List.length same
  rw [List.length_append, List.length_cons] at length
  rw [List.length_eq_zero_iff.mp (by omega : w.length = 0)] at hw
  exact proper hw

/-! ## The preferred match -/

theorem first_alt (r s : Regex α) (cs : List α) :
    (alt r s).first cs = (r.first cs).or (s.first cs) :=
  List.head?_append

theorem first_seq_char (p : α → Bool) (s : Regex α) (c : α) (cs : List α) :
    (seq (char p) s).first (c :: cs) = if p c then s.first cs else none := by
  simp only [first, rests]
  split <;> simp

theorem rests_star_char (p : α → Bool) (isLazy : Bool) (c : α) (cs : List α) :
    (star (char p) isLazy).rests (c :: cs) =
      let more := if p c then (star (char p) isLazy).rests cs else []
      if isLazy then (c :: cs) :: more else more ++ [c :: cs] := by
  simp only [rests, List.length_cons, repeats]
  by_cases hc : p c = true <;> simp [hc]

/-- A repetition of characters takes as many as there are. -/
theorem first_greedy (p : α → Bool) (cs : List α) :
    (star (char p) false).first cs = some (cs.dropWhile p) := by
  induction cs with
  | nil => rfl
  | cons c cs ih =>
    rw [first] at ih ⊢
    simp only [rests_star_char, Bool.false_eq_true, if_false, List.head?_append]
    by_cases hc : p c = true <;> simp [hc, ih]

theorem first_lazy_cons (p : α → Bool) (s : Regex α) (c : α) (cs : List α) :
    (seq (star (char p) true) s).first (c :: cs) =
      (s.first (c :: cs)).or (if p c then (seq (star (char p) true) s).first cs else none) := by
  simp only [first]
  rw [rests, rests_star_char]
  simp only [if_true, List.flatMap_cons, List.head?_append]
  split <;> rfl

/-- A lazy repetition before a delimiter ends at the first one, if what follows always matches. -/
theorem first_lazy_iff {q : α → Bool} {after : List α → List α}
    (total : ∀ ds, s.first ds = some (after ds)) :
    (seq (star (char p) true) (seq (char q) s)).first cs = some t ↔
      ∃ body d tail, cs = body ++ d :: tail ∧ (∀ b ∈ body, p b = true ∧ q b = false) ∧
        q d = true ∧ after tail = t := by
  induction cs with
  | nil =>
    refine iff_of_false (by simp [first, rests, repeats]) ?_
    rintro ⟨body, d, tail, impossible, _⟩
    exact List.append_ne_nil_of_right_ne_nil body (List.cons_ne_nil d tail) impossible.symm
  | cons c cs ih =>
    rw [first_lazy_cons, first_seq_char]
    by_cases hq : q c = true
    · simp only [hq, if_true, total, Option.some_or, Option.some.injEq]
      constructor
      · rintro rfl
        exact ⟨[], c, cs, rfl, nofun, hq, rfl⟩
      · rintro ⟨body, d, tail, same, before, _, rfl⟩
        cases body with
        | nil => cases same; rfl
        | cons b body =>
          cases same
          exact absurd hq (by simp [(before c List.mem_cons_self).2])
    · simp only [hq, Bool.false_eq_true, if_false, Option.none_or]
      constructor
      · intro h
        split at h
        · rename_i hp
          obtain ⟨body, d, tail, rfl, before, hd, rfl⟩ := ih.mp h
          have here : p c = true ∧ q c = false := ⟨hp, eq_false_of_ne_true hq⟩
          exact ⟨c :: body, d, tail, rfl, List.forall_mem_cons.mpr ⟨here, before⟩, hd, rfl⟩
        · cases h
      · rintro ⟨body, d, tail, same, before, hd, rfl⟩
        cases body with
        | nil => cases same; exact absurd hd hq
        | cons b body =>
          cases same
          obtain ⟨here, before⟩ := List.forall_mem_cons.mp before
          rw [if_pos here.1]
          exact ih.mpr ⟨body, d, tail, rfl, before, hd, rfl⟩

theorem mem_language_star_char (p : α → Bool) (isLazy : Bool) (w : List α) :
    w ∈ (star (char p) isLazy).language ↔ ∀ c ∈ w, p c = true := by
  rw [language, Language.mem_kstar]
  constructor
  · rintro ⟨words, rfl, all⟩ c hc
    obtain ⟨word, hWord, hc⟩ := List.mem_flatten.mp hc
    obtain ⟨c', hp, rfl⟩ := all word hWord
    rwa [List.mem_singleton.mp hc]
  · intro all
    refine ⟨w.map ([·]), ?_, List.forall_mem_map.mpr ?_⟩
    · rw [← List.flatMap_def, List.flatMap_singleton']
    exact fun c hc => ⟨c, all c hc, rfl⟩

/-! ## Removing matches -/

/-- The steps of a removal: a character at which no match begins, or only an empty one is found, is
kept, and a match is skipped. -/
inductive Removed (r : Regex α) : List α → List α → Prop where
  | nil : Removed r [] []
  | keep {c : α} {cs ds : List α} :
      (∀ rest ∈ r.first (c :: cs), cs.length < rest.length) → Removed r cs ds →
      Removed r (c :: cs) (c :: ds)
  | skip {c : α} {cs rest ds : List α} :
      r.first (c :: cs) = some rest → rest.length ≤ cs.length → Removed r rest ds →
      Removed r (c :: cs) ds

theorem removeFrom_eq (r : Regex α) (n : ℕ) (cs : List α) :
    r.removeFrom n cs = r.removeAll (cs.drop n) := by
  induction cs generalizing n with
  | nil => cases n <;> rfl
  | cons c cs ih =>
    cases n with
    | zero => rfl
    | succ n => exact ih n

theorem removeAll_keep (here : ∀ rest ∈ r.first (c :: cs), cs.length < rest.length) :
    r.removeAll (c :: cs) = c :: r.removeAll cs := by
  rw [removeAll, removeFrom]
  cases found : r.first (c :: cs) with
  | none => rfl
  | some rest =>
    have empty : ¬ rest.length ≤ cs.length := Nat.not_le.mpr (here rest found)
    simp only [empty, if_false]
    rfl

/-- What a match leaves is the end of the text. -/
theorem removeAll_skip (found : r.first (c :: cs) = some t) (shorter : t.length ≤ cs.length) :
    r.removeAll (c :: cs) = r.removeAll t := by
  obtain ⟨w, _, same⟩ := exists_of_first found
  have rest : t <:+ cs := by
    rcases List.suffix_cons_iff.mp ⟨w, same⟩ with whole | rest
    · rw [whole] at shorter
      exact absurd shorter (Nat.not_succ_le_self _)
    · exact rest
  rw [removeAll, removeFrom]
  simp only [found, shorter, if_true]
  rw [removeFrom_eq, ← List.suffix_iff_eq_drop.mp rest]

theorem removed_removeAll (r : Regex α) (cs : List α) : r.Removed cs (r.removeAll cs) := by
  generalize size : cs.length = n
  induction n using Nat.strong_induction_on generalizing cs with
  | _ n ih =>
    subst size
    cases cs with
    | nil => exact .nil
    | cons c cs =>
      by_cases found : ∃ t, r.first (c :: cs) = some t ∧ t.length ≤ cs.length
      · obtain ⟨t, found, shorter⟩ := found
        rw [removeAll_skip found shorter]
        exact .skip found shorter (ih _ (Nat.lt_succ_of_le shorter) t rfl)
      · have here : ∀ t ∈ r.first (c :: cs), cs.length < t.length := fun t ht =>
          Nat.lt_of_not_le fun shorter => found ⟨t, ht, shorter⟩
        rw [removeAll_keep here]
        exact .keep here (ih _ (Nat.lt_succ_self _) cs rfl)

/-- Removing all matches takes these steps. -/
theorem removed_iff : r.Removed cs ds ↔ r.removeAll cs = ds := by
  constructor
  · intro h
    induction h with
    | nil => rfl
    | keep here _ ih => rw [removeAll_keep here, ih]
    | skip found shorter _ ih => rw [removeAll_skip found shorter, ih]
  · rintro rfl
    exact removed_removeAll r cs

/-- A match that is skipped is a word of the language. -/
theorem Removed.rec_words {P : List α → List α → Prop} (nil : P [] [])
    (keep : ∀ {c cs ds}, (∀ rest ∈ r.first (c :: cs), cs.length < rest.length) → P cs ds →
      P (c :: cs) (c :: ds))
    (skip : ∀ {w rest ds}, w ∈ r.language → P rest ds → P (w ++ rest) ds)
    (h : r.Removed cs ds) : P cs ds := by
  induction h with
  | nil => exact nil
  | keep here _ ih => exact keep here ih
  | skip found _ _ ih =>
    obtain ⟨w, hw, same⟩ := exists_of_first found
    exact same ▸ skip hw ih

/-- Where no match contains what ends a line, the lines stay apart: up to the first such character,
the text that is left is part of the text up to its first. -/
theorem takeWhile_removeAll (inLine : ∀ w ∈ r.language, ∀ c ∈ w, p c = true) (cs : List α) :
    ((r.removeAll cs).takeWhile p).Sublist (cs.takeWhile p) := by
  refine (removed_removeAll r cs).rec_words
    (P := fun cs ds => (ds.takeWhile p).Sublist (cs.takeWhile p)) (.refl _) ?_ ?_
  · intro c cs ds _ ih
    by_cases hc : p c = true
    · simpa [List.takeWhile_cons, hc] using ih
    · simp [hc]
  · intro w rest ds hw ih
    rw [List.takeWhile_append_of_pos (inLine w hw)]
    exact ih.trans (List.sublist_append_right w _)

theorem removeAll_sublist (r : Regex α) (cs : List α) : (r.removeAll cs).Sublist cs := by
  have whole := takeWhile_removeAll (r := r) (p := fun _ => true) (fun _ _ _ _ => rfl) cs
  rwa [List.takeWhile_eq_self_iff.mpr fun _ _ => rfl,
    List.takeWhile_eq_self_iff.mpr fun _ _ => rfl] at whole

/-- Nothing in the text matches. -/
def Free (r : Regex α) (cs : List α) : Prop := ∀ w ∈ r.language, ¬ w <:+: cs

theorem Free.of_part (h : r.Free cs) (part : ds <:+: cs) : r.Free ds :=
  fun w hw inside => h w hw (inside.trans part)

theorem free_cons_iff : r.Free (c :: cs) ↔ r.first (c :: cs) = none ∧ r.Free cs := by
  simp only [Free, first_eq_none_iff, List.infix_cons_iff, not_or]
  exact ⟨fun h => ⟨fun w hw => (h w hw).1, fun w hw => (h w hw).2⟩,
    fun h w hw => ⟨h.1 w hw, h.2 w hw⟩⟩

/-- A removal that skips a match leaves less than the whole text. -/
theorem Removed.free (proper : [] ∉ r.language) (h : r.Removed cs ds)
    (whole : cs.length ≤ ds.length) : r.Free cs := by
  induction h with
  | nil =>
    intro w hw inside
    rw [List.infix_nil.mp inside] at hw
    exact proper hw
  | keep here _ ih =>
    exact free_cons_iff.mpr ⟨first_eq_none_of_keep proper here, ih (by simpa using whole)⟩
  | @skip c cs rest ds _ shorter steps _ =>
    have less : ds.length ≤ rest.length := by
      rw [← removed_iff.mp steps]
      exact (removeAll_sublist r rest).length_le
    rw [List.length_cons] at whole
    omega

/-- A text stays as it is exactly when nothing in it matches, unless the empty text matches. -/
theorem removeAll_eq_self_iff (proper : [] ∉ r.language) : r.removeAll cs = cs ↔ r.Free cs := by
  constructor
  · intro same
    exact (removed_iff.mpr same).free proper le_rfl
  · intro free
    induction cs with
    | nil => rfl
    | cons c cs ih =>
      obtain ⟨here, later⟩ := free_cons_iff.mp free
      rw [removeAll_keep (by simp [here]), ih later]

end Regex
