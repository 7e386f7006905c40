import RockRadio.LGSideMenuController.Views

/-!
# What the delegate of the side menu is told

A delegate that knows only the notifications follows each side through being hidden, about to be
shown, shown and about to be hidden. It can do so as long as every notification comes when it may.

## Main definitions

* `observed` — where the notifications leave a side, if each came when it may.
* `MakesRoom` — the completion block of one view that makes room for the other, which does not look
  whether its own view has been shown again in the meantime.

## Main results

* `informed_iff` — the delegate knows both sides in every state of a run exactly when no such block
  ran while its own view was being shown again.
-/

namespace RockRadio

namespace LGSideMenuController

/-- What a delegate knows of a side. -/
inductive Visibility where
  | hidden | willShow | isShowing | willHide
  deriving DecidableEq, Repr

/-- What the state says of a side. -/
@[grind] def State.visibility (state : State) (side : Side) : Visibility :=
  if state = .willShow side then .willShow
  else if state = .isShowing side then .isShowing
  else if state = .willHide side then .willHide
  else .hidden

/-- What a notification makes of it, if it may come now. -/
@[grind] def Visibility.notified (side : Side) (v : Visibility) : Notification → Option Visibility
  | .willShowView s =>
    if s ≠ side then some v else if v = .hidden ∨ v = .willHide then some .willShow else none
  | .didShowView s => if s ≠ side then some v else if v = .willShow then some .isShowing else none
  | .willHideView s =>
    if s ≠ side then some v else if v = .isShowing ∨ v = .willShow then some .willHide else none
  | .didHideView s => if s ≠ side then some v else if v = .willHide then some .hidden else none

/-- Where the notifications leave a side, if each came when it may. -/
def observed (side : Side) (log : List Notification) : Option Visibility :=
  log.foldlM (Visibility.notified side) .hidden

/-- The delegate knows both sides. -/
def Informed (c : LGSideMenuController) : Prop :=
  ∀ side, observed side c.notifications = some (c.state.visibility side)

variable {o : Options} {c d : LGSideMenuController} {side : Side} {es : List Event} {e : Event}

@[simp] theorem observed_concat (log : List Notification) (n : Notification) :
    observed side (log ++ [n]) = (observed side log).bind (Visibility.notified side · n) := by
  simp [observed, List.foldlM_append]

/-- The delegate stays informed by a notification of the change. -/
theorem Informed.post {n : Notification} (h : Informed c) (same : d.notifications = c.notifications)
    (told : ∀ side, (c.state.visibility side).notified side n = some (d.state.visibility side)) :
    Informed (d.post n) := by
  intro side
  change observed side (d.notifications ++ [n]) = _
  rw [observed_concat, same, h side]
  exact told side

/-- The completion block of an animation that makes room for the other view, which exists, runs
while its own view is being shown again. -/
def MakesRoom (o : Options) (c : LGSideMenuController) : Event → Prop
  | .animationDone i => ∃ a, c.animations[i]? = some a ∧ a.completion = .hideViewDoneThenShow ∧
      o.hasView a.side.other = true ∧ (c.state = .willShow a.side ∨ c.state = .isShowing a.side)
  | _ => False

theorem informed_kept : Kept o
    (fun s side => o.hasView side = true → s.isViewVisible side.other = false) Informed where
  alike := by
    intro c d h same side
    rw [same.notifications, same.state, h side]
  ready_of_hidden hidden _ := hidden
  showViewPrepare := by
    intro c side b hidden h
    unfold showViewPrepare
    split_ifs with none visible willHide
    · exact h
    · exact h.post rfl (by grind)
    · exact h
    all_goals
      have root : c.state = .rootViewIsShowing :=
        State.eq_rootViewIsShowing (by simpa using visible) (hidden (by simpa using none))
      exact h.post (validateViews_notifications _ _) (by grind)
  showViewDone := by
    intro c side h
    unfold showViewDone
    split_ifs
    · exact h.post (validateViews_notifications _ _) (by grind)
    · exact h
  hideViewPrepare := by
    intro c side h
    unfold hideViewPrepare
    split_ifs
    · exact h
    · exact h.post (validateViews_notifications _ _) (by grind)
    · exact h.post rfl (by grind)
    · exact h
  hideViewDone := by
    intro c side b h
    unfold hideViewDone
    split_ifs
    · exact h.post (validateViews_notifications _ _) (by grind)
    · exact h.post (validateViews_notifications _ _) (by grind)
    · exact h

theorem showViewNow_of_hidden (hasView : o.hasView side = true)
    (hidden : c.state.isViewVisible side = false) :
    (c.showViewNow o side true).state = .willShow side ∧
      (c.showViewNow o side true).notifications = c.notifications ++ [.willShowView side] := by
  have prepared : c.showViewPrepare o side false =
      ({ c with state := .willShow side }.validateViews o).post (.willShowView side) := by
    simp [showViewPrepare, hasView, hidden]
  have willShow : (c.showViewPrepare o side false).state = .willShow side := by
    rw [prepared]
    exact validateViews_state _ _
  simp only [showViewNow, showViewActions, if_true]
  rw [if_pos willShow]
  refine ⟨willShow, ?_⟩
  change (c.showViewPrepare o side false).notifications = _
  rw [prepared]
  simp [post]

/-- A block that makes room for a view while the other is being shown again shows both. -/
theorem animationDone_of_makesRoom {i : ℕ} {a : Animation} (ha : c.animations[i]? = some a)
    (thenShow : a.completion = .hideViewDoneThenShow) (hasView : o.hasView a.side.other = true)
    (again : c.state = .willShow a.side ∨ c.state = .isShowing a.side) :
    (c.animationDone o i).state = .willShow a.side.other ∧
      (c.animationDone o i).notifications = c.notifications ++ [.willShowView a.side.other] := by
  have ne := a.side.other_ne
  have notWillHide : c.state ≠ .willHide a.side := by grind
  have hidden : c.state.isViewVisible a.side.other = false := by grind
  have undone : ({ c with animations := c.animations.eraseIdx i }.hideViewDone o a.side false) =
      { c with animations := c.animations.eraseIdx i } := if_neg notWillHide
  simp only [animationDone, ha, thenShow, undone]
  exact showViewNow_of_hidden hasView hidden

theorem not_informed_of_makesRoom (h : Informed c) (room : MakesRoom o c e) :
    ¬ Informed (c.next o e) := by
  cases e with
  | animationDone i =>
    obtain ⟨a, ha, thenShow, hasView, again⟩ := room
    obtain ⟨state, notifications⟩ := animationDone_of_makesRoom ha thenShow hasView again
    intro informed
    have known : observed a.side (c.animationDone o i).notifications =
        some ((c.animationDone o i).state.visibility a.side) := informed a.side
    have still : (c.state.visibility a.side).notified a.side (.willShowView a.side.other) =
        some (c.state.visibility a.side) := by simp [Visibility.notified]
    have gone : (State.willShow a.side.other).visibility a.side = .hidden := by
      simp [State.visibility]
    rw [state, notifications, observed_concat, h a.side, Option.bind_some, still, gone] at known
    rcases again with again | again <;> simp [State.visibility, again] at known
  | _ => cases room

theorem next_informed_iff (h : Informed c) : Informed (c.next o e) ↔ ¬ MakesRoom o c e := by
  constructor
  · exact fun informed room => not_informed_of_makesRoom h room informed
  · intro room
    refine informed_kept.next h ?_
    rintro i rfl a ha thenShow notWillHide hasView
    have := fun again => room ⟨a, ha, thenShow, hasView, again⟩
    rw [Side.other_other]
    grind

theorem launch_informed : Informed (launch o) := by
  intro side
  rfl

/-- The delegate knows both sides throughout a run exactly when no completion block makes room for a
view while its own is being shown again. -/
theorem informed_iff (run : (system o).Exec (launch o) es c) :
    (system o).Always Informed (launch o) es ↔
      (system o).AllSteps (fun c e => ¬ MakesRoom o c e) (launch o) es := by
  refine run.always_iff_allSteps (I := fun _ => True) trivial launch_informed
    (fun _ _ _ => trivial) ?_
  rintro s e t - h _ ⟨⟩
  exact next_informed_iff h

/-- The right view is to make room for the left one, and is shown again before it has: the left view
comes in on a delegate that believes the right one is shown. -/
theorem informed_iff_reopened :
    let es : List Event := [.showView .right false, .showView .left true, .showView .right true,
      .animationDone 0]
    ¬ (system twoSides).Always Informed (launch twoSides) es :=
  fun always =>
    let steps := (informed_iff (o := twoSides) (.cons (by decide) rfl (.cons (by decide) rfl
      (.cons (by decide) rfl (.cons (by decide) rfl (.nil _)))))).mp always
    (((steps.2 _ rfl).2 _ rfl).2 _ rfl).1 ⟨⟨.right, .hideViewDoneThenShow⟩, rfl, rfl, rfl, .inl rfl⟩

end LGSideMenuController

end RockRadio
