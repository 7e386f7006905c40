import RockRadio.LGSideMenuController.Views

/-!
# Where the side menu is heading

A menu with one side is about to be open or about to be closed, or is one of these. Requests turn it
round at any point, and the animations that are overtaken must not turn it back.

## Main results

* `next_heads` — the menu heads where the event asks it to, and else where it did.
* `Headed.rest` — once the animations are over, the menu is where it was heading.
-/

namespace RockRadio

namespace LGSideMenuController

/-- The view of a side is shown, or is about to be. -/
@[grind] def State.heads : State → Bool
  | .willShow _ | .isShowing _ => true
  | .rootViewIsShowing | .willHide _ => false

/-- There is a view to show and to hide on this side, and none on the other. -/
structure Options.Single (o : Options) (side : Side) : Prop where
  hasView : o.hasView side = true
  isViewEnabled : o.isViewEnabled side = true
  isViewAlwaysVisible : o.isViewAlwaysVisible side = false
  other : o.hasView side.other = false

/-- What an event asks of the only side. -/
def Event.request (side : Side) : Event → Option Bool
  | .showView s _ => if s = side then some true else none
  | .hideView s _ => if s = side then some false else none
  | .tap => some false
  | .toggleView _ _ | .pan _ _ | .animationDone _ => none

/-- Neither a toggle, which asks for what depends on the state, nor a gesture. -/
def Event.isPlain : Event → Bool
  | .toggleView _ _ | .pan _ _ => false
  | _ => true

variable {o : Options} {side : Side} {c : LGSideMenuController} {e : Event}

/-! ## The parts of an operation -/

theorem showViewActions_state (animated : Bool) (willShow : c.state = .willShow side) :
    (c.showViewActions o side animated).state =
      if animated then .willShow side else .isShowing side := by
  unfold showViewActions
  rw [if_pos willShow]
  split_ifs
  · exact willShow
  · rw [showViewDone_turns.state]
    exact if_pos willShow

theorem hideViewActions_state (animated : Bool) (willHide : c.state = .willHide side) :
    (c.hideViewActions o side animated .hideViewDone).state =
      if animated then .willHide side else .rootViewIsShowing := by
  unfold hideViewActions
  rw [if_pos willHide]
  split_ifs with _ thenShow
  · exact willHide
  · cases thenShow
  · exact (hideViewDone_turns false).state.trans (if_pos willHide)

/-! ## No room is made -/

/-- No animation makes room for another view. -/
def Alone (c : LGSideMenuController) : Prop :=
  ∀ a ∈ c.animations, a.completion ≠ .hideViewDoneThenShow

theorem Alone.showViewNow (h : Alone c) (animated : Bool) :
    Alone (c.showViewNow o side animated) := by
  intro a ha
  unfold LGSideMenuController.showViewNow showViewActions showViewPrepare showViewDone at ha
  grind [Alone]

theorem Alone.hideView (h : Alone c) (animated : Bool) :
    Alone (c.hideView o side animated .hideViewDone) := by
  intro a ha
  unfold LGSideMenuController.hideView hideViewActions hideViewPrepare hideViewDone at ha
  grind [Alone]

theorem Alone.animationDone (h : Alone c) (i : ℕ) : Alone (c.animationDone o i) := by
  unfold LGSideMenuController.animationDone
  cases ha : c.animations[i]? with
  | none => exact h
  | some a =>
    have erased : Alone { c with animations := c.animations.eraseIdx i } :=
      fun b hb => h b (List.mem_of_mem_eraseIdx hb)
    obtain ⟨s, completion⟩ := a
    cases completion with
    | showViewDone =>
      intro b hb
      refine erased b ?_
      unfold showViewDone at hb
      grind
    | hideViewDone =>
      intro b hb
      refine erased b ?_
      unfold hideViewDone at hb
      grind
    | hideViewDoneThenShow => exact absurd rfl (h _ (List.mem_of_getElem? ha))

/-! ## Requests -/

section Single

variable (single : o.Single side) (alone : c.state.isViewVisible side.other = false)

include single alone

theorem showView_eq (animated : Bool) : c.showView o side animated =
    if c.state = .isShowing side then c else c.showViewNow o side animated := by
  split_ifs with showing
  · simp [showView, showing]
  · have stable : c.state.isViewVisibilityStable side.other = true := by grind
    have notOther : c.state ≠ .isShowing side.other := by grind
    simp [showView, single.hasView, single.isViewEnabled, single.isViewAlwaysVisible, showing,
      stable, notOther]

theorem showView_heads (animated : Bool) : (c.showView o side animated).state.heads = true := by
  rw [showView_eq single alone]
  split_ifs with showing
  · rw [showing]
    rfl
  · have willShow : (c.showViewPrepare o side false).state = .willShow side := by
      rw [(showViewPrepare_turns false).state, if_pos ⟨single.hasView, showing⟩]
    rw [showViewNow, showViewActions_state animated willShow]
    cases animated <;> rfl

theorem hideView_heads (animated : Bool) :
    (c.hideView o side animated .hideViewDone).state.heads = false := by
  have stable : c.state.isViewVisibilityStable side.other = true := by grind
  unfold hideView
  cases visible : c.state.isViewVisible side with
  | false =>
    simp only [Bool.and_false, Bool.false_and, Bool.false_eq_true, if_false]
    rw [State.eq_rootViewIsShowing visible alone]
    rfl
  | true =>
    have willHide : (c.hideViewPrepare o side).state = .willHide side := by
      rw [hideViewPrepare_turns.state]
      have := single.hasView
      grind
    rw [if_pos (by simp [single.hasView, single.isViewEnabled, single.isViewAlwaysVisible, stable]),
      hideViewActions_state animated willHide]
    cases animated <;> rfl

theorem handleTapGesture_heads : (c.handleTapGesture o).state.heads = false := by
  unfold handleTapGesture
  split_ifs with left right
  · cases side with
    | left => exact hideView_heads single alone _
    | right => exact absurd left (Bool.eq_false_iff.mp alone)
  · cases side with
    | left => exact absurd right (Bool.eq_false_iff.mp alone)
    | right => exact hideView_heads single alone _
  · have root : c.state = .rootViewIsShowing :=
      State.eq_rootViewIsShowing (Bool.eq_false_iff.mpr left) (Bool.eq_false_iff.mpr right)
    rw [root]
    rfl

omit single alone in
/-- The end of an animation leaves the heading as it is, even of one that has been overtaken. -/
theorem animationDone_heads (i : ℕ) (h : Alone c) :
    (c.animationDone o i).state.heads = c.state.heads := by
  unfold animationDone
  cases ha : c.animations[i]? with
  | none => rfl
  | some a =>
    obtain ⟨s, completion⟩ := a
    cases completion with
    | showViewDone =>
      change (showViewDone _ _ _).state.heads = _
      rw [showViewDone_turns.state]
      grind
    | hideViewDone =>
      change (hideViewDone _ _ _ _).state.heads = _
      rw [(hideViewDone_turns false).state]
      grind
    | hideViewDoneThenShow => exact absurd rfl (h _ (List.mem_of_getElem? ha))

/-! ## Events -/

theorem Alone.next (h : Alone c) (plain : e.isPlain = true) : Alone (c.next o e) := by
  cases e with
  | showView s animated =>
    change Alone (c.showView o s animated)
    by_cases hs : s = side
    · subst hs
      rw [showView_eq single alone]
      split_ifs
      · exact h
      · exact h.showViewNow animated
    · rw [Side.eq_other_of_ne hs, showView, single.other]
      exact h
  | hideView s animated => exact h.hideView animated
  | tap =>
    change Alone (c.handleTapGesture o)
    unfold LGSideMenuController.handleTapGesture
    split_ifs
    · exact h.hideView _
    · exact h.hideView _
    · exact h
  | animationDone i => exact h.animationDone i
  | toggleView => cases plain
  | pan => cases plain

/-- The menu heads where the event asks it to, and else where it did. -/
theorem next_heads (h : Alone c) (plain : e.isPlain = true) :
    (c.next o e).state.heads = (e.request side).getD c.state.heads := by
  cases e with
  | showView s animated =>
    change (c.showView o s animated).state.heads = _
    by_cases hs : s = side
    · subst hs
      simp [Event.request, showView_heads single alone]
    · rw [Side.eq_other_of_ne hs, showView, single.other]
      simp [Event.request]
  | hideView s animated =>
    change (c.hideView o s animated .hideViewDone).state.heads = _
    by_cases hs : s = side
    · subst hs
      simp [Event.request, hideView_heads single alone]
    · rw [Side.eq_other_of_ne hs, hideView, single.other]
      simp [Event.request]
  | tap => exact handleTapGesture_heads single alone
  | animationDone i => exact animationDone_heads i h
  | toggleView => cases plain
  | pan => cases plain

omit single alone in
theorem next_panning (plain : e.isPlain = true) : (c.next o e).panning = c.panning := by
  cases e with
  | showView s animated => exact (showView_proceeds animated).panning
  | hideView s animated => exact (hideView_proceeds animated (by decide)).panning
  | tap => exact handleTapGesture_proceeds.panning
  | animationDone i => exact animationDone_panning i
  | toggleView => cases plain
  | pan => cases plain

end Single

/-! ## Runs -/

/-- The menu has one side, which is heading to be open, or closed. -/
structure Headed (o : Options) (side : Side) (opened : Bool) (c : LGSideMenuController) : Prop where
  underway : Underway o c
  alone : Alone c
  free : c.panning = fun _ => false
  heads : c.state.heads = opened

variable {opened : Bool}

theorem Headed.hidden (single : o.Single side) (h : Headed o side opened c) :
    c.state.isViewVisible side.other = false := by
  by_contra visible
  have := h.underway.hasView side.other (by simpa using visible)
  simp [single.other] at this

theorem Headed.next (single : o.Single side) (h : Headed o side opened c) (enabled : c.Enabled e)
    (plain : e.isPlain = true) :
    Headed o side ((e.request side).getD opened) (c.next o e) where
  underway := next_underway h.underway enabled
  alone := h.alone.next single (h.hidden single) plain
  free := (next_panning plain).trans h.free
  heads := by rw [next_heads single (h.hidden single) h.alone plain, h.heads]

/-- Once the animations are over, the menu is where it was heading. -/
theorem Headed.rest (single : o.Single side) (h : Headed o side opened c)
    (idle : c.animations = []) :
    c.state = if opened then .isShowing side else .rootViewIsShowing := by
  rw [← h.heads]
  rcases h.underway.atRest idle (congrFun h.free) with root | ⟨s, showing, hasView⟩
  · rw [root]
    rfl
  · obtain rfl : s = side := by
      by_contra hs
      rw [Side.eq_other_of_ne hs, single.other] at hasView
      cases hasView
    rw [showing]
    rfl

end LGSideMenuController

end RockRadio
