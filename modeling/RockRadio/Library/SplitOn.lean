import Mathlib.Data.List.Infix

/-!
# The parts of a split string

`String.splitOn` cuts a string at the occurrences of a separator. It works on byte positions; for
what is cut out it does not matter where these are.

## Main results

* `infix_of_mem_splitOn` — every part is a piece of the string.
-/

namespace String

/-- Between any two positions there is a piece of the string. -/
theorem infix_extract (s : String) (b e : Pos.Raw) : (b.extract s e).toList <:+: s.toList := by
  have until_ (cs : List Char) (i : Pos.Raw) : Pos.Raw.extract.go₂ cs i e <+: cs := by
    induction cs generalizing i with
    | nil => exact List.nil_prefix
    | cons c cs ih =>
      change (if i = e then [] else c :: Pos.Raw.extract.go₂ cs (i + c) e) <+: _
      split
      · exact List.nil_prefix
      · exact List.cons_prefix_cons.mpr ⟨rfl, ih _⟩
  have from_ (cs : List Char) (i : Pos.Raw) : Pos.Raw.extract.go₁ cs i b e <:+: cs := by
    induction cs generalizing i with
    | nil => exact List.nil_infix
    | cons c cs ih =>
      change (if i = b then Pos.Raw.extract.go₂ (c :: cs) i e
        else Pos.Raw.extract.go₁ cs (i + c) b e) <:+: _
      split
      · exact (until_ _ _).isInfix
      · exact (ih _).trans (List.suffix_cons c cs).isInfix
  change (if b.byteIdx ≥ e.byteIdx then "" else
    String.ofList (Pos.Raw.extract.go₁ s.toList 0 b e)).toList <:+: _
  split
  · exact List.nil_infix
  · rw [toList_ofList]
    exact from_ _ _

theorem infix_of_mem_splitOnAux (s sep : String) (b i j : Pos.Raw) (r : List String)
    (h : ∀ part ∈ r, part.toList <:+: s.toList) :
    ∀ part ∈ s.splitOnAux sep b i j r, part.toList <:+: s.toList := by
  fun_induction splitOnAux s sep b i j r with
  | case1 b i j r _ =>
    intro part hp
    rw [List.mem_reverse, List.mem_cons] at hp
    rcases hp with rfl | hp
    · exact infix_extract s _ _
    · exact h part hp
  | case2 b i j r _ _ _ _ _ ih => exact ih (List.forall_mem_cons.mpr ⟨infix_extract s _ _, h⟩)
  | case3 b i j r _ _ _ _ _ ih => exact ih h
  | case4 b i j r _ _ ih => exact ih h

/-- Every part is a piece of the string. -/
theorem infix_of_mem_splitOn {s sep part : String} (h : part ∈ s.splitOn sep) :
    part.toList <:+: s.toList := by
  unfold splitOn at h
  split at h
  · rw [List.mem_singleton.mp h]
  · exact infix_of_mem_splitOnAux s sep 0 0 0 [] nofun part h

end String
