import RockRadio.Library.Regex
import RockRadio.Library.SplitOn

/-!
# Cleaning the metadata

Streams leave annotations in their metadata, in parentheses or in square brackets, with or without
characters behind them. The player removes them from what it shows, and the artwork search from
what it looks for, by one and the same regular expression.

## Main results

* `cleanMetadata_iff` — what the regular expression removes, said without it.
* `unannotated_cleanMetadata` — no annotation is left, although removing one brings together what
  was before and behind it.
-/

namespace RockRadio

/-- What `.` does not match in a regular expression. -/
def isLineTerminator (c : Char) : Bool :=
  ['\n', '\x0b', '\x0c', '\r', '\u0085', '\u2028', '\u2029'].contains c

/-- `.` in a regular expression -/
def isDot (c : Char) : Bool := !isLineTerminator c

/-- `\w` in a regular expression. Which characters these are is for Unicode to say; none of them
ends a line. -/
structure WordCharacters where
  contains : Char → Bool
  inLine : ∀ c, contains c = true → isDot c = true

/-- The word characters of ASCII. -/
def WordCharacters.ascii : WordCharacters where
  contains c := c.isAlphanum || c == '_'
  inLine c := by
    contrapose
    intro ends
    have ends : isLineTerminator c = true := by simpa [isDot] using ends
    simp only [isLineTerminator, List.contains_eq_mem, decide_eq_true_iff, List.mem_cons,
      List.not_mem_nil, or_false] at ends
    rcases ends with rfl | rfl | rfl | rfl | rfl | rfl | rfl <;> decide

namespace Metadata

variable (word : WordCharacters)

/-- `opening.*?closing\w*` -/
def bracketed (opening closing : Char) : Regex Char :=
  .seq (.char (· == opening)) <| .seq (.star (.char isDot) true) <|
    .seq (.char (· == closing)) (.star (.char word.contains) false)

/-- `(\(.*?\)\w*)|(\[.*?\]\w*)` -/
def pattern : Regex Char := .alt (bracketed word '(' ')') (bracketed word '[' ']')

/-- `replacingOccurrences(of: pattern, with: "", options: .regularExpression)` -/
def replacingOccurrences (rawValue : String) : String :=
  String.ofList ((pattern word).removeAll rawValue.toList)

/-- `FRadioPlayer.cleanMetadata(_:)`, for a value that is not `nil` -/
def cleanMetadata (rawValue : String) : String := replacingOccurrences word rawValue

/-- The bracket that closes what a bracket opens. -/
def closingBracket : Char → Option Char
  | '(' => some ')'
  | '[' => some ']'
  | _ => none

/-- What is left of a text: a character stays unless it opens an annotation, which is closed by the
first such bracket on the same line and extends over the word behind it. -/
inductive Cleaned : List Char → List Char → Prop where
  | nil : Cleaned [] []
  | keep {c : Char} {cs ds : List Char} :
      (∀ closing ∈ closingBracket c, closing ∉ cs.takeWhile isDot) → Cleaned cs ds →
      Cleaned (c :: cs) (c :: ds)
  | remove {opening closing : Char} {body behind rest ds : List Char} :
      closingBracket opening = some closing → (∀ b ∈ body, isDot b = true ∧ b ≠ closing) →
      (∀ c ∈ behind, word.contains c = true) → (∀ c ∈ rest.head?, word.contains c = false) →
      Cleaned rest ds → Cleaned (opening :: body ++ closing :: (behind ++ rest)) ds

variable {word} {c opening closing : Char} {cs rest : List Char}

/-! ## The preferred match -/

theorem isDot_closing (h : closingBracket opening = some closing) : isDot closing = true := by
  unfold closingBracket at h
  split at h <;> cases h <;> rfl

theorem first_bracketed_iff : (bracketed word opening closing).first (c :: cs) = some rest ↔
    c = opening ∧ ∃ body tail, cs = body ++ closing :: tail ∧
      (∀ b ∈ body, isDot b = true ∧ b ≠ closing) ∧ tail.dropWhile word.contains = rest := by
  rw [bracketed, Regex.first_seq_char]
  by_cases same : c = opening
  · rw [if_pos (beq_iff_eq.mpr same), Regex.first_lazy_iff (Regex.first_greedy word.contains),
      and_iff_right same]
    constructor
    · rintro ⟨body, d, tail, rfl, before, hd, rfl⟩
      rw [beq_iff_eq.mp hd]
      exact ⟨body, tail, rfl, fun b hb => ⟨(before b hb).1, by simpa using (before b hb).2⟩, rfl⟩
    · rintro ⟨body, tail, rfl, before, rfl⟩
      exact ⟨body, closing, tail, rfl,
        fun b hb => ⟨(before b hb).1, by simpa using (before b hb).2⟩,
        beq_self_eq_true closing, rfl⟩
  · rw [if_neg (by simpa using same)]
    exact iff_of_false nofun fun h => same h.1

/-- The preferred match ends with the word behind the first bracket that closes it. -/
theorem first_pattern_iff : (pattern word).first (c :: cs) = some rest ↔
    ∃ closing, closingBracket c = some closing ∧ ∃ body tail, cs = body ++ closing :: tail ∧
      (∀ b ∈ body, isDot b = true ∧ b ≠ closing) ∧ tail.dropWhile word.contains = rest := by
  rw [pattern, Regex.first_alt, Option.or_eq_some_iff]
  constructor
  · rintro (h | ⟨_, h⟩)
    · obtain ⟨rfl, found⟩ := first_bracketed_iff.mp h
      exact ⟨')', rfl, found⟩
    · obtain ⟨rfl, found⟩ := first_bracketed_iff.mp h
      exact ⟨']', rfl, found⟩
  · rintro ⟨closing, opens, found⟩
    unfold closingBracket at opens
    split at opens
    · cases opens
      exact .inl (first_bracketed_iff.mpr ⟨rfl, found⟩)
    · cases opens
      refine .inr ⟨?_, first_bracketed_iff.mpr ⟨rfl, found⟩⟩
      rw [Option.eq_none_iff_forall_not_mem]
      intro t other
      exact absurd (first_bracketed_iff.mp other).1 (by decide)
    · cases opens

/-- Nothing matches where no annotation begins. -/
theorem first_pattern_eq_none_iff : (pattern word).first (c :: cs) = none ↔
    ∀ closing ∈ closingBracket c, closing ∉ cs.takeWhile isDot := by
  rw [Option.eq_none_iff_forall_not_mem]
  constructor
  · intro none closing opens mem
    obtain ⟨body, later, split, fresh⟩ := List.eq_append_cons_of_mem mem
    have inLine : ∀ b ∈ body, isDot b = true := fun b hb =>
      List.mem_takeWhile_imp (p := isDot) (l := cs) (by simp [split, hb])
    have text : cs = body ++ closing :: (later ++ cs.dropWhile isDot) := by
      conv_lhs => rw [← List.takeWhile_append_dropWhile (p := isDot) (l := cs), split]
      simp
    refine none _ (first_pattern_iff.mpr ⟨closing, opens, body, _, text, fun b hb => ?_, rfl⟩)
    exact ⟨inLine b hb, fun same => fresh (same ▸ hb)⟩
  · intro plain t found
    obtain ⟨closing, opens, body, tail, rfl, before, _⟩ := first_pattern_iff.mp found
    refine plain closing opens ?_
    rw [List.takeWhile_append_of_pos fun b hb => (before b hb).1,
      List.takeWhile_cons_of_pos (isDot_closing opens)]
    simp

theorem inLine_bracketed (ho : isDot opening = true) (hc : isDot closing = true) {w : List Char}
    (h : w ∈ (bracketed word opening closing).language) : w ≠ [] ∧ ∀ c ∈ w, isDot c = true := by
  obtain ⟨_, ⟨c, first, rfl⟩, _, ⟨body, inBody, _, ⟨_, ⟨d, last, rfl⟩, behind, inBehind, rfl⟩, rfl⟩,
    rfl⟩ := h
  have inBody := (Regex.mem_language_star_char _ _ _).mp inBody
  have inBehind := (Regex.mem_language_star_char _ _ _).mp inBehind
  rw [beq_iff_eq.mp first, beq_iff_eq.mp last]
  refine ⟨List.cons_ne_nil _ _, fun b hb => ?_⟩
  simp only [List.mem_append, List.mem_singleton] at hb
  rcases hb with rfl | hb | rfl | hb
  · exact ho
  · exact inBody b hb
  · exact hc
  · exact word.inLine b (inBehind b hb)

/-- No match is empty, and none goes over the end of a line. -/
theorem inLine_pattern {w : List Char} (h : w ∈ (pattern word).language) :
    w ≠ [] ∧ ∀ c ∈ w, isDot c = true := by
  rw [pattern, Regex.language, Language.mem_add] at h
  exact h.elim (inLine_bracketed rfl rfl) (inLine_bracketed rfl rfl)

theorem nil_not_mem_pattern : [] ∉ (pattern word).language := fun h => (inLine_pattern h).1 rfl

/-! ## What is left -/

variable {ds : List Char}

/-- The regular expression removes the annotations as described. -/
theorem cleaned_iff : Cleaned word cs ds ↔ (pattern word).removeAll cs = ds := by
  rw [← Regex.removed_iff]
  constructor
  · intro h
    induction h with
    | nil => exact .nil
    | keep plain _ ih => exact .keep (by simp [first_pattern_eq_none_iff.mpr plain]) ih
    | @remove opening closing body behind rest ds opens inBody inBehind ends _ ih =>
      have whole : (behind ++ rest).dropWhile word.contains = rest := by
        rw [List.dropWhile_append_of_pos inBehind]
        cases rest with
        | nil => rfl
        | cons c rest => simp [ends c rfl]
      refine .skip (first_pattern_iff.mpr ⟨closing, opens, body, _, rfl, inBody, whole⟩) ?_ ih
      simp
      omega
  · intro h
    induction h with
    | nil => exact .nil
    | keep here _ ih =>
      have plain := Regex.first_eq_none_of_keep nil_not_mem_pattern here
      exact .keep (first_pattern_eq_none_iff.mp plain) ih
    | skip found _ _ ih =>
      obtain ⟨closing, opens, body, tail, rfl, inBody, rfl⟩ := first_pattern_iff.mp found
      rw [← List.takeWhile_append_dropWhile (p := word.contains) (l := tail)]
      refine .remove opens inBody (fun c hc => List.mem_takeWhile_imp hc) (fun c hc => ?_) ih
      have ends := List.head?_dropWhile_not word.contains tail
      rwa [hc] at ends

/-- Nothing that is left matches: where a bracket stays, none that closes it follows on its line,
and removing annotations brings none there. -/
theorem free_removeAll (cs : List Char) : (pattern word).Free ((pattern word).removeAll cs) := by
  obtain ⟨ds, h⟩ : ∃ ds, Cleaned word cs ds := ⟨_, cleaned_iff.mpr rfl⟩
  rw [cleaned_iff.mp h]
  induction h with
  | nil =>
    intro w hw inside
    exact (inLine_pattern hw).1 (List.infix_nil.mp inside)
  | @keep c cs ds plain rest ih =>
    refine Regex.free_cons_iff.mpr ⟨first_pattern_eq_none_iff.mpr fun closing opens mem => ?_, ih⟩
    rw [← cleaned_iff.mp rest] at mem
    refine plain closing opens ?_
    exact (Regex.takeWhile_removeAll (fun w hw => (inLine_pattern hw).2) cs).subset mem
  | remove _ _ _ _ _ ih => exact ih

/-- No annotation in the text: no bracket is closed on its line. -/
def Unannotated : List Char → Prop
  | [] => True
  | c :: cs => (∀ closing ∈ closingBracket c, closing ∉ cs.takeWhile isDot) ∧ Unannotated cs

theorem free_iff_unannotated (word : WordCharacters) (cs : List Char) :
    (pattern word).Free cs ↔ Unannotated cs := by
  induction cs with
  | nil =>
    refine iff_of_true (fun w hw inside => ?_) trivial
    exact (inLine_pattern hw).1 (List.infix_nil.mp inside)
  | cons c cs ih => rw [Regex.free_cons_iff, first_pattern_eq_none_iff, ih, Unannotated]

theorem Unannotated.of_part (h : Unannotated cs) (part : ds <:+: cs) : Unannotated ds := by
  rw [← free_iff_unannotated .ascii] at h ⊢
  exact h.of_part part

variable (word)

/-- The regular expression removes the annotations as described, and nothing else. -/
theorem cleanMetadata_iff (raw cleaned : String) :
    cleanMetadata word raw = cleaned ↔ Cleaned word raw.toList cleaned.toList := by
  rw [cleaned_iff, cleanMetadata, replacingOccurrences]
  constructor
  · rintro rfl
    exact String.toList_ofList.symm
  · intro h
    rw [h, String.ofList_toList]

theorem toList_cleanMetadata (raw : String) :
    (cleanMetadata word raw).toList = (pattern word).removeAll raw.toList :=
  String.toList_ofList

theorem cleanMetadata_eq_self_iff (raw : String) :
    cleanMetadata word raw = raw ↔ Unannotated raw.toList := by
  rw [← String.toList_inj, toList_cleanMetadata, Regex.removeAll_eq_self_iff nil_not_mem_pattern,
    free_iff_unannotated]

theorem unannotated (raw : String) : Unannotated (cleanMetadata word raw).toList := by
  rw [toList_cleanMetadata]
  exact (free_iff_unannotated word _).mp (free_removeAll _)

theorem cleanMetadata_cleanMetadata (raw : String) :
    cleanMetadata word (cleanMetadata word raw) = cleanMetadata word raw :=
  (cleanMetadata_eq_self_iff word _).mpr (unannotated word raw)

/-- No annotation is left, so that cleaning once more changes nothing. -/
theorem unannotated_cleanMetadata (raw : String) :
    Unannotated (cleanMetadata word raw).toList ∧
      cleanMetadata word (cleanMetadata word raw) = cleanMetadata word raw :=
  ⟨unannotated word raw, cleanMetadata_cleanMetadata word raw⟩

/-- An annotation ends at the first closing bracket, inside of which it may have opened others. -/
example : cleanMetadata .ascii "A - ((B) C)2 [D" = "A -  C)2 [D" := by decide

end Metadata

end RockRadio
