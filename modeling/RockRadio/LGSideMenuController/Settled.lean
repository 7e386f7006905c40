import Mathlib.Algebra.Order.Ring.Rat
import Mathlib.Data.List.Perm.Basic
import RockRadio.LGSideMenuController.Basic

/-!
# The side menu comes to rest

A view that is about to be shown or hidden waits for an animation or for a finger. Calls, taps and
drags can meet in any order with the completion blocks of animations long overtaken; none of them
may leave the menu waiting for nothing.

## Main results

* `settles_of_exec` — left alone, the menu comes to rest: no view is about to be shown or hidden.
-/

namespace RockRadio

namespace LGSideMenuController

/-- What a state is about to do: show or hide the view of a side. -/
def State.change : State → Option (Side × Bool)
  | .willShow side => some (side, true)
  | .willHide side => some (side, false)
  | .rootViewIsShowing | .isShowing _ => none

/-- What an animation is about to do. -/
def Animation.change (a : Animation) : Side × Bool := (a.side, a.completion = .showViewDone)

/-- The finger that drags the view of a side will decide about it. -/
def Held (c : LGSideMenuController) (side : Side) : Prop :=
  c.panning side = true ∧ (c.viewGestureStartX side).isSome = true

/-- What is about to happen, an animation is going to do. -/
def Covered (c : LGSideMenuController) : Prop :=
  ∀ x, c.state.change = some x → ∃ a ∈ c.animations, a.change = x

/-- Only a side that has a view is involved, and what is about to happen, an animation or a finger
is going to do. -/
structure Underway (o : Options) (c : LGSideMenuController) : Prop where
  hasView : ∀ side, c.state.isViewVisible side = true → o.hasView side = true
  change : ∀ x, c.state.change = some x → (∃ a ∈ c.animations, a.change = x) ∨ c.Held x.1

/-- No animation is lost, and no side without a view comes in. -/
structure Keeps (o : Options) (c d : LGSideMenuController) : Prop where
  animations : ∀ a ∈ c.animations, a ∈ d.animations
  hasView : ∀ side, d.state.isViewVisible side = true →
    c.state.isViewVisible side = true ∨ o.hasView side = true

/-- The gestures go on as they were, and what is newly about to happen has an animation of its
own. -/
structure Proceeds (o : Options) (c d : LGSideMenuController) : Prop extends Keeps o c d where
  panning : d.panning = c.panning
  startX : d.viewGestureStartX = c.viewGestureStartX
  state : d.state = c.state ∨ d.Covered

/-- What becomes of the state, which is left to what follows to cover. -/
structure Turns (o : Options) (c d : LGSideMenuController) (s : State) : Prop
    extends Keeps o c d where
  panning : d.panning = c.panning
  startX : d.viewGestureStartX = c.viewGestureStartX
  state : d.state = s

variable {o : Options} {side : Side} {c d e : LGSideMenuController} {s : State}

theorem covered_of_stable (stable : c.state.change = none) : c.Covered := by
  intro x hx
  rw [stable] at hx
  cases hx

theorem Keeps.refl (c : LGSideMenuController) : Keeps o c c :=
  ⟨fun _ => id, fun _ => .inl⟩

theorem Keeps.trans (h : Keeps o c d) (g : Keeps o d e) : Keeps o c e where
  animations a ha := g.animations a (h.animations a ha)
  hasView side visible := (g.hasView side visible).elim (h.hasView side) .inr

theorem Proceeds.refl (c : LGSideMenuController) : Proceeds o c c :=
  ⟨.refl c, rfl, rfl, .inl rfl⟩

theorem Proceeds.trans (h : Proceeds o c d) (g : Proceeds o d e) : Proceeds o c e where
  toKeeps := h.toKeeps.trans g.toKeeps
  panning := g.panning.trans h.panning
  startX := g.startX.trans h.startX
  state := by
    rcases g.state with same | covered
    · rcases h.state with same' | covered
      · exact .inl (same.trans same')
      · refine .inr fun x hx => ?_
        obtain ⟨a, ha, change⟩ := covered x (same ▸ hx)
        exact ⟨a, g.animations a ha, change⟩
    · exact .inr covered

theorem Turns.proceeds (h : Turns o c d s) (g : Proceeds o d e) (turned : s = c.state ∨ e.Covered) :
    Proceeds o c e where
  toKeeps := h.toKeeps.trans g.toKeeps
  panning := g.panning.trans h.panning
  startX := g.startX.trans h.startX
  state := by
    rcases g.state with same | covered
    · exact turned.imp (fun turned => same.trans (h.state.trans turned)) id
    · exact .inr covered

theorem Proceeds.underway (h : Proceeds o c d) (u : Underway o c) : Underway o d where
  hasView side visible := (h.hasView side visible).elim (u.hasView side) id
  change := by
    intro x hx
    rcases h.state with same | covered
    · rw [same] at hx
      rcases u.change x hx with ⟨a, ha, change⟩ | held
      · exact .inl ⟨a, h.animations a ha, change⟩
      · unfold Held
        rw [h.panning, h.startX]
        exact .inr held
    · exact .inl (covered x hx)

/-- From rest, only what has an animation gets under way. -/
theorem Proceeds.covered (h : Proceeds o c d) (stable : c.state.change = none) : d.Covered := by
  rcases h.state with same | covered
  · exact covered_of_stable (same ▸ stable)
  · exact covered

/-! ## What the parts of an operation do -/

theorem showViewPrepare_turns (updateStatusBar : Bool) :
    Turns o c (c.showViewPrepare o side updateStatusBar) <|
      if o.hasView side = true ∧ c.state ≠ .isShowing side then .willShow side else c.state := by
  unfold showViewPrepare
  refine ⟨⟨?_, ?_⟩, ?_, ?_, ?_⟩ <;> grind

theorem showViewDone_turns : Turns o c (c.showViewDone o side) <|
    if c.state = .willShow side then .isShowing side else c.state := by
  unfold showViewDone
  refine ⟨⟨?_, ?_⟩, ?_, ?_, ?_⟩ <;> grind

theorem hideViewPrepare_turns : Turns o c (c.hideViewPrepare o side) <|
    if o.hasView side = true ∧ (c.state = .isShowing side ∨ c.state = .willShow side) then
      .willHide side
    else c.state := by
  unfold hideViewPrepare
  refine ⟨⟨?_, ?_⟩, ?_, ?_, ?_⟩ <;> grind

theorem hideViewDone_turns (updateStatusBar : Bool) :
    Turns o c (c.hideViewDone o side updateStatusBar) <|
      if c.state = .willHide side then .rootViewIsShowing else c.state := by
  unfold hideViewDone
  refine ⟨⟨?_, ?_⟩, ?_, ?_, ?_⟩ <;> grind

theorem showViewDone_proceeds : Proceeds o c (c.showViewDone o side) := by
  apply showViewDone_turns.proceeds (.refl _)
  split_ifs
  · exact .inr (covered_of_stable (by rw [showViewDone_turns.state]; simp [*, State.change]))
  · exact .inl rfl

theorem hideViewDone_proceeds (updateStatusBar : Bool) :
    Proceeds o c (c.hideViewDone o side updateStatusBar) := by
  apply (hideViewDone_turns updateStatusBar).proceeds (.refl _)
  split_ifs
  · exact .inr (covered_of_stable (by rw [(hideViewDone_turns _).state]; simp [*, State.change]))
  · exact .inl rfl


/-! ## Operations -/

theorem layouting_proceeds (c : LGSideMenuController) (isEnabled : Bool) :
    Proceeds o c { c with isRootViewLayoutingEnabled := isEnabled } :=
  ⟨⟨fun _ => id, fun _ => .inl⟩, rfl, rfl, .inl rfl⟩

theorem showViewActions_proceeds (animated : Bool) :
    Proceeds o c (c.showViewActions o side animated) := by
  unfold showViewActions
  split_ifs with showing
  · refine ⟨⟨fun a ha => List.mem_append_left _ ha, fun _ => .inl⟩, rfl, rfl, .inl rfl⟩
  · exact (layouting_proceeds c false).trans showViewDone_proceeds
  · exact .refl c

theorem showViewActions_covered (animated : Bool) (showing : c.state = .willShow side) :
    (c.showViewActions o side animated).Covered := by
  unfold showViewActions
  rw [if_pos showing]
  split_ifs
  · intro x hx
    refine ⟨⟨side, .showViewDone⟩, by simp, ?_⟩
    simpa [showing, State.change, Animation.change] using hx
  · apply covered_of_stable
    rw [showViewDone_turns.state]
    simp [showing, State.change]

theorem showViewNow_proceeds (animated : Bool) : Proceeds o c (c.showViewNow o side animated) := by
  apply (showViewPrepare_turns false).proceeds (showViewActions_proceeds animated)
  split_ifs with h
  · refine .inr (showViewActions_covered animated ?_)
    rw [(showViewPrepare_turns false).state, if_pos h]
  · exact .inl rfl

variable {completion : Completion}

theorem hideViewActions_proceeds (animated : Bool) :
    Proceeds o c (c.hideViewActions o side animated completion) := by
  unfold hideViewActions
  split_ifs with h _ thenShow
  · refine ⟨⟨fun a ha => List.mem_append_left _ ha, fun _ => .inl⟩, rfl, rfl, .inl rfl⟩
  · exact (layouting_proceeds c true).trans
      ((hideViewDone_proceeds false).trans (showViewNow_proceeds false))
  · exact (layouting_proceeds c true).trans (hideViewDone_proceeds false)
  · exact .refl c


theorem hideViewActions_covered (animated : Bool) (hides : completion ≠ .showViewDone)
    (h : c.state = .willHide side) :
    (c.hideViewActions o side animated completion).Covered := by
  unfold hideViewActions
  rw [if_pos h]
  have hidden : ∀ d : LGSideMenuController, d.state = .willHide side →
      (d.hideViewDone o side false).state.change = none := by
    intro d hd
    rw [(hideViewDone_turns false).state, if_pos hd]
    rfl
  split_ifs
  · intro x hx
    refine ⟨⟨side, completion⟩, by simp, ?_⟩
    simpa [h, State.change, Animation.change, hides] using hx
  · exact (showViewNow_proceeds false).covered (hidden _ h)
  · exact covered_of_stable (hidden _ h)

/-- What begins to hide a view sees to its end. -/
theorem hideViewPrepare_hideViewActions (animated : Bool) (hides : completion ≠ .showViewDone) :
    Proceeds o c ((c.hideViewPrepare o side).hideViewActions o side animated completion) := by
  apply hideViewPrepare_turns.proceeds (hideViewActions_proceeds animated)
  split_ifs with h
  · refine .inr (hideViewActions_covered animated hides ?_)
    rw [hideViewPrepare_turns.state, if_pos h]
  · exact .inl rfl

theorem hideView_proceeds (animated : Bool) (hides : completion ≠ .showViewDone) :
    Proceeds o c (c.hideView o side animated completion) := by
  unfold hideView
  split_ifs
  · exact hideViewPrepare_hideViewActions animated hides
  · exact .refl c

theorem showView_proceeds (animated : Bool) : Proceeds o c (c.showView o side animated) := by
  unfold showView
  split_ifs
  · exact hideView_proceeds animated (by decide)
  · exact showViewNow_proceeds animated
  · exact .refl c

theorem toggleView_proceeds (animated : Bool) : Proceeds o c (c.toggleView o side animated) := by
  unfold toggleView
  split_ifs
  · exact hideView_proceeds animated (by decide)
  · exact showView_proceeds animated
  · exact .refl c
  · exact .refl c

theorem handleTapGesture_proceeds : Proceeds o c (c.handleTapGesture o) := by
  unfold handleTapGesture
  split_ifs
  · exact hideView_proceeds _ (by decide)
  · exact hideView_proceeds _ (by decide)
  · exact .refl c

/-! ## The end of a gesture -/

theorem calculatePercentage_mem (shiftedAmount viewWidth : ℚ) (isViewShowingBeforeGesture : Bool) :
    0 ≤ calculatePercentage shiftedAmount viewWidth isViewShowingBeforeGesture ∧
      calculatePercentage shiftedAmount viewWidth isViewShowingBeforeGesture ≤ 1 := by
  unfold calculatePercentage
  constructor <;> grind

/-- However a gesture ends, the view that it dragged will be shown or hidden. -/
theorem endPan_covered {percentage velocity : ℚ} (hasView : o.hasView side = true)
    (changing : c.state.isViewVisibilityStable side = false)
    (nonneg : 0 ≤ percentage) (le_one : percentage ≤ 1) :
    (c.endPan o side percentage velocity).Covered := by
  have shows : (c.showViewPrepare o side false).state = .willShow side := by
    rw [(showViewPrepare_turns false).state]
    grind
  have hides : (c.hideViewPrepare o side).state = .willHide side := by
    rw [hideViewPrepare_turns.state]
    grind
  unfold endPan
  split_ifs with one zero up down
  · apply covered_of_stable
    rw [showViewDone_turns.state, if_pos shows]
    rfl
  · apply covered_of_stable
    rw [(hideViewDone_turns true).state, if_pos hides]
    rfl
  · exact showViewActions_covered true shows
  · exact hideViewActions_covered true (by decide) hides
  · exfalso
    have below : percentage < 1 := lt_of_le_of_ne le_one one
    have above : 0 < percentage := lt_of_le_of_ne nonneg (Ne.symm zero)
    rcases lt_trichotomy velocity 0 with left | still | right
    · exact down (.inl ⟨above, left⟩)
    · rcases lt_or_ge percentage (1 / 2) with less | more
      · exact down (.inr ⟨still, less⟩)
      · exact up (.inr ⟨still, more⟩)
    · exact up (.inl ⟨below, right⟩)

theorem endPan_keeps {percentage velocity : ℚ} :
    Keeps o c (c.endPan o side percentage velocity) := by
  unfold endPan
  split_ifs
  · exact (showViewPrepare_turns false).toKeeps.trans showViewDone_turns.toKeeps
  · exact hideViewPrepare_turns.toKeeps.trans (hideViewDone_turns true).toKeeps
  · exact (showViewNow_proceeds true).toKeeps
  · exact (hideViewPrepare_hideViewActions true (by decide)).toKeeps
  · exact .refl c

/-! ## A gesture -/

theorem change_side {x : Side × Bool} (hx : s.change = some x) : s.isViewVisible x.1 = true := by
  cases s <;> grind [State.change]

theorem covered_of_isViewVisibilityStable (other : c.state.isViewVisible side.other = false)
    (stable : c.state.isViewVisibilityStable side = true) : c.Covered := by
  apply covered_of_stable
  cases h : c.state with
  | rootViewIsShowing => rfl
  | isShowing => rfl
  | willShow s => cases s <;> cases side <;> grind
  | willHide s => cases s <;> cases side <;> grind

theorem grip_keeps (location : ℚ) : Keeps o c (c.grip side location) :=
  ⟨fun _ => id, fun _ => .inl⟩

theorem beginPan_keeps (gesture : Pan) : Keeps o c (c.beginPan o side gesture) := by
  unfold beginPan
  split_ifs
  · exact (grip_keeps _).trans hideViewPrepare_turns.toKeeps
  · exact (grip_keeps _).trans (showViewPrepare_turns true).toKeeps
  · exact .refl c

theorem followPan_keeps (startX : ℚ) (gesture : Pan) :
    Keeps o c (c.followPan o side startX gesture) := by
  simp only [followPan]
  split_ifs
  · exact (showViewPrepare_turns false).toKeeps
  · exact hideViewPrepare_turns.toKeeps
  · exact .refl c
  · exact endPan_keeps.trans ⟨fun _ => id, fun _ => .inl⟩

theorem handlePanGesture_keeps (gesture : Pan) : Keeps o c (c.handlePanGesture o side gesture) := by
  unfold handlePanGesture
  split_ifs
  · exact .refl c
  · exact beginPan_keeps gesture
  · split
    · exact .refl c
    · exact followPan_keeps _ gesture
  · exact .refl c

/-- A gesture leaves the view at rest or takes hold of it. -/
theorem beginPan_startX (gesture : Pan) : c.beginPan o side gesture = c ∨
    ((c.beginPan o side gesture).viewGestureStartX side).isSome = true := by
  unfold beginPan
  split_ifs
  · right
    rw [hideViewPrepare_turns.startX]
    simp [grip]
  · right
    rw [(showViewPrepare_turns true).startX]
    simp [grip]
  · exact .inl rfl


theorem visible_other (visible : s.isViewVisible side = true) :
    s.isViewVisible side.other = false := by
  have := side.other_ne
  cases s <;> grind

theorem followPan_startX {startX : ℚ} {gesture : Pan} (changed : gesture.phase = .changed) :
    (c.followPan o side startX gesture).viewGestureStartX = c.viewGestureStartX := by
  simp only [followPan, if_pos changed]
  split_ifs
  · exact (showViewPrepare_turns false).startX
  · exact hideViewPrepare_turns.startX
  · rfl

theorem followPan_covered {startX : ℚ} {gesture : Pan} (ended : gesture.phase = .ended)
    (hasView : o.hasView side = true) (changing : c.state.isViewVisibilityStable side = false) :
    (c.followPan o side startX gesture).Covered := by
  have mem := calculatePercentage_mem
  simp only [followPan, ended, reduceCtorEq, if_false]
  exact endPan_covered hasView changing (mem _ _ _).1 (mem _ _ _).2

/-- Before it ends, a gesture moves no view but its own. -/
theorem handlePanGesture_other {gesture : Pan} (goesOn : gesture.phase ≠ .ended)
    (other : c.state.isViewVisible side.other = false) :
    (c.handlePanGesture o side gesture).state.isViewVisible side.other = false := by
  have ne := side.other_ne
  have shows : ∀ (d : LGSideMenuController) b, d.state = c.state →
      (d.showViewPrepare o side b).state.isViewVisible side.other = false := by
    intro d b hd
    rw [(showViewPrepare_turns b).state, hd]
    grind
  have hides : ∀ d : LGSideMenuController, d.state = c.state →
      (d.hideViewPrepare o side).state.isViewVisible side.other = false := by
    intro d hd
    rw [hideViewPrepare_turns.state, hd]
    grind
  simp only [handlePanGesture, beginPan]
  split_ifs with _ _ moves showing following
  · exact other
  · exact hides _ rfl
  · exact shows _ true rfl
  · exact other
  · split
    · exact other
    · have changed : gesture.phase = .changed := by
        cases h : gesture.phase <;> grind
      simp only [followPan, if_pos changed]
      split_ifs
      · exact shows _ false rfl
      · exact hides _ rfl
      · exact other
  · exact other

/-- What a gesture leaves about to happen: what was, if the gesture is none of its business, or what
the finger decides about, or what has an animation. -/
theorem handlePanGesture_cases (gesture : Pan)
    (hasView : c.state.isViewVisible side = true → o.hasView side = true) :
    let d := c.handlePanGesture o side gesture
    (d = c ∧ (c.state.isViewVisible side = false ∨ gesture.phase = .began ∨
        c.viewGestureStartX side = none)) ∨
      (gesture.phase ≠ .ended ∧ d.state.isViewVisible side.other = false ∧
        (d.viewGestureStartX side).isSome = true) ∨
      d.Covered := by
  intro d
  by_cases other : c.state.isViewVisible side.other = true
  · refine .inl ⟨by simp [d, handlePanGesture, other], .inl ?_⟩
    simpa using visible_other other
  simp only [Bool.not_eq_true] at other
  cases stable : c.state.isViewVisibilityStable side with
  | true =>
    by_cases ended : gesture.phase = .ended
    · have : d = c := by simp [d, handlePanGesture, other, stable, ended]
      exact .inr (.inr (this ▸ covered_of_isViewVisibilityStable other stable))
    · have hd : d = c.beginPan o side gesture := by
        simp [d, handlePanGesture, other, stable, ended]
      have starts : c.beginPan o side gesture = c ∨ _ := beginPan_startX gesture
      rcases starts with same | grips
      · rw [hd, same]
        exact .inr (.inr (covered_of_isViewVisibilityStable other stable))
      · exact .inr (.inl ⟨ended, handlePanGesture_other ended other, hd ▸ grips⟩)
  | false =>
    have visible : c.state.isViewVisible side = true := by grind
    by_cases began : gesture.phase = .began
    · exact .inl ⟨by simp [d, handlePanGesture, other, stable, began], .inr (.inl began)⟩
    cases start : c.viewGestureStartX side with
    | none =>
      have same : d = c := by simp [d, handlePanGesture, other, stable, began, start]
      exact .inl ⟨same, .inr (.inr rfl)⟩
    | some startX =>
      have hd : d = c.followPan o side startX gesture := by
        simp [d, handlePanGesture, other, stable, began, start]
      by_cases ended : gesture.phase = .ended
      · exact .inr (.inr (hd ▸ followPan_covered ended (hasView visible) stable))
      · have changed : gesture.phase = .changed := by
          cases h : gesture.phase <;> grind
        refine .inr (.inl ⟨ended, handlePanGesture_other ended other, ?_⟩)
        rw [hd, followPan_startX changed, start]
        rfl

theorem pan_underway (gesture : Pan) (enabled : c.Enabled (.pan side gesture))
    (u : Underway o c) : Underway o (c.next o (.pan side gesture)) where
  hasView side' visible :=
    ((handlePanGesture_keeps gesture).hasView side' visible).elim (u.hasView side') id
  change := by
    rintro ⟨t, b⟩ hx
    have visible : (c.handlePanGesture o side gesture).state.isViewVisible t = true :=
      change_side hx
    rcases handlePanGesture_cases (o := o) gesture (u.hasView side) with
      ⟨same, idle⟩ | ⟨goesOn, other, grips⟩ | covered
    · simp only [next, same] at hx visible ⊢
      rcases u.change _ hx with animation | ⟨panning, start⟩
      · exact .inl animation
      · right
        have ne : t ≠ side := by
          rintro rfl
          rcases idle with hidden | began | none
          · simp [hidden] at visible
          · simp [Enabled, began, panning] at enabled
          · simp [none] at start
        exact ⟨by simpa [ne] using panning, start⟩
    · right
      have : t = side := by
        by_contra ne
        rw [Side.eq_other_of_ne ne, other] at visible
        cases visible
      subst this
      exact ⟨by simp [next, goesOn], grips⟩
    · exact .inl (covered _ hx)

/-! ## The end of an animation -/

@[simp] theorem change_eq_willShow : s.change = some (side, true) ↔ s = .willShow side := by
  cases s <;> simp [State.change]

@[simp] theorem change_eq_willHide : s.change = some (side, false) ↔ s = .willHide side := by
  cases s <;> simp [State.change]

/-- What the animations that are left do not do, the one that ends was to do. -/
theorem eraseIdx_change {i : ℕ} {a : Animation} (ha : c.animations[i]? = some a)
    (u : Underway o c) {x : Side × Bool} (hx : c.state.change = some x) (ne : x ≠ a.change) :
    (∃ b ∈ c.animations.eraseIdx i, b.change = x) ∨ c.Held x.1 := by
  rcases u.change x hx with ⟨b, hb, change⟩ | held
  · left
    obtain ⟨j, hj⟩ := List.mem_iff_getElem?.mp hb
    refine ⟨b, List.mem_eraseIdx_iff_getElem?.mpr ⟨j, ?_, hj⟩, change⟩
    rintro rfl
    obtain rfl : a = b := by simpa [ha] using hj
    exact ne change.symm
  · exact .inr held

/-- The end of an animation does what the animation was about to do. -/
theorem Turns.underway_of_erased {i : ℕ} {a : Animation} (ha : c.animations[i]? = some a)
    (h : Turns o { c with animations := c.animations.eraseIdx i } d s) (u : Underway o c)
    (did : s.change = none ∨ s = c.state ∧ c.state.change ≠ some a.change) : Underway o d where
  hasView side visible := (h.hasView side visible).elim (u.hasView side) id
  change x hx := by
    rw [h.state] at hx
    rcases did with rest | ⟨same, other⟩
    · simp [rest] at hx
    · rw [same] at hx
      have ne : x ≠ a.change := by
        rintro rfl
        exact other hx
      refine (eraseIdx_change ha u hx ne).imp ?_ ?_
      · rintro ⟨b, hb, change⟩
        exact ⟨b, h.animations b hb, change⟩
      · unfold Held
        rw [h.panning, h.startX]
        exact id

theorem animationDone_underway (i : ℕ) (u : Underway o c) : Underway o (c.animationDone o i) := by
  unfold animationDone
  cases ha : c.animations[i]? with
  | none => exact u
  | some a =>
    obtain ⟨side, completion⟩ := a
    have hides : completion ≠ .showViewDone → Underway o
        ({ c with animations := c.animations.eraseIdx i }.hideViewDone o side false) := by
      intro hides
      apply (hideViewDone_turns false).underway_of_erased ha u
      split_ifs with willHide
      · exact .inl rfl
      · exact .inr ⟨rfl, by simpa [Animation.change, hides] using willHide⟩
    cases completion with
    | showViewDone =>
      have shows : Underway o
          ({ c with animations := c.animations.eraseIdx i }.showViewDone o side) := by
        apply showViewDone_turns.underway_of_erased ha u
        split_ifs with willShow
        · exact .inl rfl
        · exact .inr ⟨rfl, by simpa [Animation.change] using willShow⟩
      exact ⟨shows.hasView, shows.change⟩
    | hideViewDone => exact ⟨(hides (by decide)).hasView, (hides (by decide)).change⟩
    | hideViewDoneThenShow =>
      apply (showViewNow_proceeds true).underway
      exact ⟨(hides (by decide)).hasView, (hides (by decide)).change⟩

/-! ## Whole runs -/

theorem next_underway {e : Event} (u : Underway o c) (enabled : c.Enabled e) :
    Underway o (c.next o e) := by
  cases e with
  | showView side animated => exact (showView_proceeds animated).underway u
  | hideView side animated => exact (hideView_proceeds animated (by decide)).underway u
  | toggleView side animated => exact (toggleView_proceeds animated).underway u
  | tap => exact handleTapGesture_proceeds.underway u
  | pan side gesture => exact pan_underway gesture enabled u
  | animationDone i => exact animationDone_underway i u

/-- Nothing is about to happen, and no side without a view is in. -/
def AtRest (o : Options) (c : LGSideMenuController) : Prop :=
  c.state = .rootViewIsShowing ∨ ∃ side, c.state = .isShowing side ∧ o.hasView side = true

theorem Underway.atRest (u : Underway o c) (idle : c.animations = [])
    (free : ∀ side, c.panning side = false) : AtRest o c := by
  have done : ∀ x, c.state.change ≠ some x := by
    intro x hx
    rcases u.change x hx with ⟨a, ha, _⟩ | held
    · simp [idle] at ha
    · simp [Held, free] at held
  have hasView := u.hasView
  cases h : c.state with
  | rootViewIsShowing => exact .inl h
  | isShowing side => exact .inr ⟨side, h, hasView side (by simp [h])⟩
  | willShow side => exact absurd (by rw [h]; rfl) (done (side, true))
  | willHide side => exact absurd (by rw [h]; rfl) (done (side, false))

variable {es fs : List Event}

theorem underway_of_exec (run : (system o).Exec c es d) (u : Underway o c) : Underway o d := by
  refine run.invariant' u ?_
  rintro s e t u enabled ⟨⟩
  exact next_underway u enabled

theorem launch_underway : Underway o (launch o) where
  hasView side visible := by simp [launch, validateViewsVisibility] at visible
  change x hx := by simp [launch, validateViewsVisibility, State.change] at hx

/-! ## Left alone -/

/-- How many completion blocks are to come: to make room for the other view takes two. -/
def weight (c : LGSideMenuController) : ℕ :=
  c.animations.length + c.animations.countP (·.completion = .hideViewDoneThenShow)

theorem weight_le (c : LGSideMenuController) : c.weight ≤ 2 * c.animations.length := by
  have := c.animations.countP_le_length (p := (·.completion = .hideViewDoneThenShow))
  unfold weight
  omega

theorem validateViews_weight (c : LGSideMenuController) :
    (c.validateViews o).weight = c.weight := by
  simp [weight]

theorem showViewDone_weight : (c.showViewDone o side).weight = c.weight := by
  unfold showViewDone
  split_ifs
  · exact validateViews_weight _
  · rfl

theorem hideViewDone_weight (updateStatusBar : Bool) :
    (c.hideViewDone o side updateStatusBar).weight = c.weight := by
  unfold hideViewDone
  split_ifs
  · exact validateViews_weight _
  · exact validateViews_weight _
  · rfl

theorem showViewPrepare_weight :
    (c.showViewPrepare o side false).weight = c.weight := by
  unfold showViewPrepare
  split_ifs
  · rfl
  · rfl
  · rfl
  · exact validateViews_weight _
  · exact validateViews_weight _

theorem showViewNow_weight : (c.showViewNow o side true).weight ≤ c.weight + 1 := by
  have prepare : (c.showViewPrepare o side false).weight = c.weight := showViewPrepare_weight
  simp only [showViewNow, showViewActions, if_true]
  split_ifs
  · rw [← prepare]
    simp [weight]
    omega
  · omega

theorem animationDone_weight {i : ℕ} (hi : i < c.animations.length) :
    (c.animationDone o i).weight < c.weight := by
  have perm := List.getElem_cons_eraseIdx_perm hi
  have length := perm.length_eq
  have count := perm.countP_eq (·.completion = .hideViewDoneThenShow)
  rw [List.length_cons] at length
  rw [List.countP_cons] at count
  have erased : { c with animations := c.animations.eraseIdx i }.weight =
      (c.animations.eraseIdx i).length +
        (c.animations.eraseIdx i).countP (·.completion = .hideViewDoneThenShow) := rfl
  unfold animationDone
  rw [List.getElem?_eq_getElem hi]
  generalize c.animations[i] = a at count
  obtain ⟨side, completion⟩ := a
  cases completion with
  | showViewDone =>
    change weight (showViewDone _ _ _) < _
    rw [showViewDone_weight, erased, weight]
    omega
  | hideViewDone =>
    change weight (hideViewDone _ _ _ _) < _
    rw [hideViewDone_weight, erased, weight]
    omega
  | hideViewDoneThenShow =>
    refine showViewNow_weight.trans_lt ?_
    change weight (hideViewDone _ _ _ _) + 1 < _
    rw [hideViewDone_weight, erased, weight]
    simp only [decide_true, if_true] at count
    omega

theorem animationDone_panning (i : ℕ) : (c.animationDone o i).panning = c.panning := by
  unfold animationDone
  cases c.animations[i]? with
  | none => rfl
  | some a =>
    obtain ⟨side, completion⟩ := a
    cases completion with
    | showViewDone => exact showViewDone_turns.panning
    | hideViewDone => exact (hideViewDone_turns false).panning
    | hideViewDoneThenShow =>
      exact (showViewNow_proceeds true).panning.trans (hideViewDone_turns false).panning

/-- However a run went, and in whatever order its animations end: left alone, the menu comes to
rest. Each animation stands for two completion blocks at most. -/
theorem settles_of_exec (before : (system o).Exec (launch o) es c)
    (free : ∀ side, c.panning side = false) (after : (system o).Exec c fs d)
    (completions : ∀ e ∈ fs, ∃ i, e = .animationDone i) :
    fs.length ≤ 2 * c.animations.length ∧ (d.animations = [] → d.AtRest o) := by
  have underway := underway_of_exec after (underway_of_exec before launch_underway)
  have ends : fs.length + d.weight ≤ c.weight ∧ d.panning = c.panning := by
    clear before underway free
    induction after with
    | nil => simp
    | @cons s t u e es enabled step _ ih =>
      obtain ⟨i, rfl⟩ := completions e List.mem_cons_self
      obtain ⟨length, panning⟩ := ih fun e he => completions e (List.mem_cons_of_mem _ he)
      obtain rfl : s.animationDone o i = t := by simpa [system, next] using step
      have less := animationDone_weight (o := o) enabled
      rw [List.length_cons]
      exact ⟨by omega, panning.trans (animationDone_panning i)⟩
  constructor
  · have := c.weight_le
    omega
  · intro idle
    exact underway.atRest idle fun side => by rw [ends.2, free]

/-- Two side views that leave the rest to the finger. -/
def twoSides : Options where
  hasView _ := true
  isViewEnabled _ := true
  isViewAlwaysVisible _ := false
  viewWidth _ := 100
  viewWidth_pos _ := by decide
  shouldViewHideOnTouchAnimated _ := true

/-- The left view is hidden while it comes in, and the two animations end in the other order. -/
theorem settles_of_exec_overtaken :
    let c :=
      ((launch twoSides).showView twoSides .left true).hideView twoSides .left true .hideViewDone
    ((c.animationDone twoSides 1).animationDone twoSides 0).AtRest twoSides := by
  intro c
  have before : (system twoSides).Exec (launch twoSides)
      [.showView .left true, .hideView .left true] c :=
    .cons (by decide) rfl (.cons (by decide) rfl (.nil _))
  have after : (system twoSides).Exec c [.animationDone 1, .animationDone 0]
      ((c.animationDone twoSides 1).animationDone twoSides 0) :=
    .cons (by decide) rfl (.cons (by decide) rfl (.nil _))
  exact (settles_of_exec before (fun _ => rfl) after (by simp)).2 rfl

end LGSideMenuController

end RockRadio
