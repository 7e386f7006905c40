import RockRadio.LGSideMenuController.Settled

/-!
# What the side menu lets be seen and touched

The state is turned into hidden flags and interaction flags at some of its changes only. A view that
is about to be shown may turn back, and the flags are left as they are then.

Every event is made of four parts and of bookkeeping, so an invariant of these is an invariant of
whole runs. The runs are those without rotation: while the screen rotates, the flags of the
visibility can be kept from being set.

## Main definitions

* `Kept` — a property that the four parts and the bookkeeping keep.
* `Reflects` — the flags are those of the state.

## Main results

* `Kept.next` — such a property is kept by every event.
* `reflects_of_exec` — in every run without rotation the flags are those of the state, so that no
  touch reaches two of the three views.
-/

namespace RockRadio

namespace LGSideMenuController

/-- The same to the eye, to the touch and to the delegate. -/
structure Alike (c d : LGSideMenuController) : Prop where
  state : d.state = c.state
  shouldUpdateVisibility : d.shouldUpdateVisibility = c.shouldUpdateVisibility
  rootViewCoverViewIsHidden : d.rootViewCoverViewIsHidden = c.rootViewCoverViewIsHidden
  containerViewIsHidden : d.containerViewIsHidden = c.containerViewIsHidden
  rootViewInteraction : d.rootViewInteraction = c.rootViewInteraction
  viewInteraction : d.viewInteraction = c.viewInteraction
  notifications : d.notifications = c.notifications

/-- A property that the parts of every operation keep. Where `ready` holds, the view of a side may
be prepared to be shown; that the other side is hidden is enough for it. -/
structure Kept (o : Options) (ready : State → Side → Prop)
    (P : LGSideMenuController → Prop) : Prop where
  alike : ∀ {c d}, P c → Alike c d → P d
  ready_of_hidden : ∀ {s side}, s.isViewVisible side.other = false → ready s side
  showViewPrepare : ∀ {c side} b, ready c.state side → P c → P (c.showViewPrepare o side b)
  showViewDone : ∀ {c side}, P c → P (c.showViewDone o side)
  hideViewPrepare : ∀ {c side}, P c → P (c.hideViewPrepare o side)
  hideViewDone : ∀ {c side} b, P c → P (c.hideViewDone o side b)

namespace Kept

variable {o : Options} {side : Side} {c : LGSideMenuController} {completion : Completion}
variable {ready : State → Side → Prop} {P : LGSideMenuController → Prop}
variable (k : Kept o ready P)

include k

/-- The animations, the gestures and the layout are not seen, touched or told. -/
theorem bookkeeping (h : P c) {isAnimating isRootViewLayoutingEnabled : Bool}
    {animations : List Animation} {panning isViewShowingBeforeGesture : Side → Bool}
    {viewGestureStartX : Side → Option ℚ} :
    P { c with isAnimating, animations, panning, viewGestureStartX, isViewShowingBeforeGesture,
               isRootViewLayoutingEnabled } :=
  k.alike h ⟨rfl, rfl, rfl, rfl, rfl, rfl, rfl⟩

theorem showViewNow (animated : Bool) (hready : ready c.state side) (h : P c) :
    P (c.showViewNow o side animated) := by
  have prepared := k.showViewPrepare false hready h
  unfold LGSideMenuController.showViewNow showViewActions
  split_ifs
  · exact k.bookkeeping prepared
  · exact k.showViewDone (k.bookkeeping prepared)
  · exact prepared

theorem hideViewActions (animated : Bool) (h : P c) :
    P (c.hideViewActions o side animated completion) := by
  unfold LGSideMenuController.hideViewActions
  split_ifs with willHide _ thenShow
  · exact k.bookkeeping h
  · refine k.showViewNow false (k.ready_of_hidden ?_)
      (k.hideViewDone false (k.bookkeeping h))
    rw [(hideViewDone_turns false).state, if_pos willHide]
    rfl
  · exact k.hideViewDone false (k.bookkeeping h)
  · exact h

theorem hideView (animated : Bool) (h : P c) : P (c.hideView o side animated completion) := by
  unfold LGSideMenuController.hideView
  split_ifs
  · exact k.hideViewActions animated (k.hideViewPrepare h)
  · exact h

theorem showView (animated : Bool) (h : P c) : P (c.showView o side animated) := by
  unfold LGSideMenuController.showView
  split_ifs with enabled showing
  · exact k.hideView animated h
  · exact k.showViewNow animated (k.ready_of_hidden (by grind)) h
  · exact h

theorem toggleView (animated : Bool) (h : P c) : P (c.toggleView o side animated) := by
  unfold LGSideMenuController.toggleView
  split_ifs
  · exact k.hideView animated h
  · exact k.showView animated h
  · exact h
  · exact h

theorem handleTapGesture (h : P c) : P (c.handleTapGesture o) := by
  unfold LGSideMenuController.handleTapGesture
  split_ifs
  · exact k.hideView _ h
  · exact k.hideView _ h
  · exact h

theorem endPan {percentage velocity : ℚ} (hready : ready c.state side) (h : P c) :
    P (c.endPan o side percentage velocity) := by
  unfold LGSideMenuController.endPan
  split_ifs
  · exact k.showViewDone (k.showViewPrepare false hready h)
  · exact k.hideViewDone true (k.hideViewPrepare h)
  · exact k.showViewNow true hready h
  · exact k.hideViewActions true (k.hideViewPrepare h)
  · exact h

theorem handlePanGesture (gesture : Pan) (h : P c) : P (c.handlePanGesture o side gesture) := by
  unfold LGSideMenuController.handlePanGesture
  split_ifs with other
  · exact h
  · have hready := k.ready_of_hidden (Bool.not_eq_true _ ▸ other)
    have grip : P (c.grip side gesture.location) := k.bookkeeping h
    unfold beginPan
    split_ifs
    · exact k.hideViewPrepare grip
    · exact k.showViewPrepare true hready grip
    · exact h
  · have hready := k.ready_of_hidden (Bool.not_eq_true _ ▸ other)
    split
    · exact h
    · simp only [followPan]
      split_ifs
      · exact k.showViewPrepare false hready h
      · exact k.hideViewPrepare h
      · exact h
      · exact k.bookkeeping (k.endPan hready h)
  · exact h

/-- The completion block that makes room for the other view may find its own view on its way
back. -/
theorem animationDone (i : ℕ) (h : P c)
    (reopened : ∀ a, c.animations[i]? = some a → a.completion = .hideViewDoneThenShow →
      c.state ≠ .willHide a.side → ready c.state a.side.other) : P (c.animationDone o i) := by
  unfold LGSideMenuController.animationDone
  cases ha : c.animations[i]? with
  | none => exact h
  | some a =>
    obtain ⟨side, completion⟩ := a
    have erased : P { c with animations := c.animations.eraseIdx i } :=
      k.bookkeeping h
    cases completion with
    | showViewDone => exact k.bookkeeping (k.showViewDone erased)
    | hideViewDone => exact k.bookkeeping (k.hideViewDone false erased)
    | hideViewDoneThenShow =>
      refine k.showViewNow true ?_
        (k.bookkeeping (k.hideViewDone false erased))
      change ready (LGSideMenuController.hideViewDone _ _ _ _).state _
      rw [(hideViewDone_turns false).state]
      split_ifs with willHide
      · exact k.ready_of_hidden rfl
      · exact reopened _ ha rfl willHide

/-- A property that the parts keep is kept by every event, if the view that is made room for is
ready. -/
theorem next {e : Event} (h : P c)
    (reopened : ∀ i, e = .animationDone i → ∀ a, c.animations[i]? = some a →
      a.completion = .hideViewDoneThenShow → c.state ≠ .willHide a.side →
        ready c.state a.side.other) : P (c.next o e) := by
  cases e with
  | showView side animated => exact k.showView animated h
  | hideView side animated => exact k.hideView animated h
  | toggleView side animated => exact k.toggleView animated h
  | tap => exact k.handleTapGesture h
  | pan side gesture => exact k.bookkeeping (k.handlePanGesture gesture h)
  | animationDone i => exact k.animationDone i h (reopened i rfl)

end Kept

/-! ## The flags -/

/-- The view of a side can be touched: what is hidden cannot be, whatever its flag says. -/
def isViewTouchable (c : LGSideMenuController) (side : Side) : Bool :=
  !c.containerViewIsHidden side && c.viewInteraction side

/-- The flags are those of the state, and will be after the next change. -/
structure Reflects (o : Options) (c : LGSideMenuController) : Prop where
  shouldUpdateVisibility : c.shouldUpdateVisibility = true
  rootViewInteraction : c.rootViewInteraction = true ↔ c.state = .rootViewIsShowing
  rootViewCoverViewIsHidden : c.rootViewCoverViewIsHidden = true ↔ c.state = .rootViewIsShowing
  containerViewIsHidden : ∀ side, c.containerViewIsHidden side = false ↔
    c.state.isViewVisible side = true ∨ o.isViewAlwaysVisible side = true
  isViewTouchable : ∀ side, c.isViewTouchable side = true ↔
    (c.state = .isShowing side ∨ o.isViewAlwaysVisible side = true) ∧
      c.state.isViewVisible side.other = false

variable {o : Options} {c d : LGSideMenuController} {side : Side} {es : List Event}

/-- The flags may stay when the state changes to one that they fit as well. -/
theorem Reflects.stay (h : Reflects o c) (update : d.shouldUpdateVisibility = true)
    (interaction : d.rootViewInteraction = c.rootViewInteraction)
    (cover : d.rootViewCoverViewIsHidden = c.rootViewCoverViewIsHidden)
    (container : d.containerViewIsHidden = c.containerViewIsHidden)
    (views : d.viewInteraction = c.viewInteraction)
    (root : d.state = .rootViewIsShowing ↔ c.state = .rootViewIsShowing)
    (showing : ∀ side, d.state = .isShowing side ↔ c.state = .isShowing side)
    (visible : ∀ side, d.state.isViewVisible side = c.state.isViewVisible side) :
    Reflects o d where
  shouldUpdateVisibility := update
  rootViewInteraction := by rw [interaction, root]; exact h.rootViewInteraction
  rootViewCoverViewIsHidden := by rw [cover, root]; exact h.rootViewCoverViewIsHidden
  containerViewIsHidden side := by rw [container, visible]; exact h.containerViewIsHidden side
  isViewTouchable side := by
    rw [showing, visible, ← h.isViewTouchable side]
    simp [LGSideMenuController.isViewTouchable, container, views]

/-- Both validations make them those of the state. -/
theorem Reflects.validateViews (h : Reflects o c)
    (same : d.shouldUpdateVisibility = c.shouldUpdateVisibility) (n : Notification) :
    Reflects o ((d.validateViews o).post n) := by
  have update : d.shouldUpdateVisibility = true := same.trans h.shouldUpdateVisibility
  have validated : (d.validateViews o).post n =
      { d.validateViewsUserInteraction o with
        rootViewCoverViewIsHidden := d.state = .rootViewIsShowing
        containerViewIsHidden := fun side =>
          !(d.state.isViewVisible side || o.isViewAlwaysVisible side)
        notifications := d.notifications ++ [n] } := by
    simp [LGSideMenuController.validateViews, validateViewsVisibility, validateViewsUserInteraction, post, update]
  rw [validated]
  constructor
  · exact update
  · simp [validateViewsUserInteraction]
  · simp [validateViewsUserInteraction]
  · intro side
    simp only [Bool.not_eq_false', Bool.or_eq_true]
    rfl
  · intro side
    simp only [LGSideMenuController.isViewTouchable, validateViewsUserInteraction]
    cases o.isViewAlwaysVisible side with
    | true => simp
    | false =>
      by_cases showing : d.state = .isShowing side
      · simp [showing]
      · simp [showing]

theorem reflects_kept : Kept o (fun _ _ => True) (Reflects o) where
  alike := by
    intro c d h same
    refine h.stay (same.shouldUpdateVisibility.trans h.shouldUpdateVisibility)
      same.rootViewInteraction same.rootViewCoverViewIsHidden same.containerViewIsHidden
      same.viewInteraction ?_ ?_ ?_
    all_goals simp [same.state]
  ready_of_hidden _ := trivial
  showViewPrepare := by
    intro c side b _ h
    unfold LGSideMenuController.showViewPrepare
    split_ifs with none visible willHide
    · exact h
    · exact h.stay h.shouldUpdateVisibility rfl rfl rfl rfl (by simp [post, willHide])
        (by simp [post, willHide]) (by grind)
    · exact h
    · exact h.validateViews (by rfl) _
    · exact h.validateViews (by rfl) _
  showViewDone := by
    intro c side h
    unfold LGSideMenuController.showViewDone
    split_ifs
    · exact h.validateViews (by rfl) _
    · exact h
  hideViewPrepare := by
    intro c side h
    unfold LGSideMenuController.hideViewPrepare
    split_ifs with none isShowing willShow
    · exact h
    · exact h.validateViews (by rfl) _
    · exact h.stay h.shouldUpdateVisibility rfl rfl rfl rfl (by simp [post, willShow])
        (by simp [post, willShow]) (by grind)
    · exact h
  hideViewDone := by
    intro c side b h
    unfold LGSideMenuController.hideViewDone
    split_ifs
    · exact h.validateViews (by rfl) _
    · exact h.validateViews (by rfl) _
    · exact h

theorem launch_reflects : Reflects o (launch o) := by
  unfold launch validateViewsVisibility
  constructor <;> grind [isViewTouchable]

/-- In every run without rotation the flags are those of the state. -/
theorem reflects_of_exec (run : (system o).Exec (launch o) es c) : Reflects o c := by
  refine run.invariant' launch_reflects ?_
  rintro s e t h _ ⟨⟩
  exact reflects_kept.next h fun _ _ _ _ _ _ => trivial

/-- The left view is always visible, and the right one is closed by a tap while it comes in. -/
def leftAlwaysVisible : Options :=
  { twoSides with isViewAlwaysVisible := fun side => side = .left }

theorem reflects_of_exec_tap :
    Reflects leftAlwaysVisible
      (((launch leftAlwaysVisible).showView leftAlwaysVisible .right true).handleTapGesture
        leftAlwaysVisible) :=
  reflects_of_exec (o := leftAlwaysVisible) (.cons (e := .showView .right true) (by decide) rfl
    (.cons (e := .tap) (by decide) rfl (.nil _)))

end LGSideMenuController

end RockRadio
