import Mathlib.Data.Rat.Defs
import Mathlib.Logic.Function.Basic
import RockRadio.Library.EventSystem

/-!
# The side menu

`LGSideMenuController` keeps a root view and two side views, of which one can be shown at a time.
Showing and hiding pass through states in which the view is about to be shown or hidden; they end
with an animation, whose completion block the main queue runs at a later time, or with the finger
that drags the view. None of this cancels an animation: a new request starts another one while the
completion blocks of the former ones are still to come.

What is written twice there, for the left and for the right view, is one definition here that takes
the side. The delegate is told about every change; what it may do in turn is not part of this, and
neither is a rotation of the screen.
-/

namespace RockRadio

inductive Side where
  | left | right
  deriving DecidableEq, Repr

namespace Side

@[grind] def other : Side → Side
  | .left => .right
  | .right => .left

@[simp, grind =] theorem other_other (side : Side) : side.other.other = side := by
  cases side <;> rfl

@[simp] theorem other_ne (side : Side) : side.other ≠ side := by
  cases side <;> decide

theorem eq_other_of_ne {side side' : Side} (h : side' ≠ side) : side' = side.other := by
  cases side <;> cases side' <;> first | rfl | exact absurd rfl h

/-- A horizontal distance, counted in the direction in which the view of the side comes in. -/
def along : Side → ℚ → ℚ
  | .left, x => x
  | .right, x => -x

end Side

namespace LGSideMenuController

/-- `leftViewWillShow` is `willShow .left`, and so on. -/
inductive State where
  | rootViewIsShowing
  | willShow (side : Side)
  | isShowing (side : Side)
  | willHide (side : Side)
  deriving DecidableEq, Repr

namespace State

variable (state : State) (side : Side)

/-- `isLeftViewVisible`, `isRightViewVisible` -/
@[grind] def isViewVisible : Bool :=
  state = .isShowing side || state = .willShow side || state = .willHide side

/-- `isLeftViewVisibilityStable`, `isRightViewVisibilityStable` -/
@[grind] def isViewVisibilityStable : Bool := state ≠ .willShow side && state ≠ .willHide side

variable {s : Side}

@[simp] theorem isViewVisible_rootViewIsShowing :
    rootViewIsShowing.isViewVisible side = false := rfl

@[simp] theorem isViewVisible_willShow : (willShow s).isViewVisible side = true ↔ s = side := by
  simp [isViewVisible]

@[simp] theorem isViewVisible_isShowing : (isShowing s).isViewVisible side = true ↔ s = side := by
  simp [isViewVisible]

@[simp] theorem isViewVisible_willHide : (willHide s).isViewVisible side = true ↔ s = side := by
  simp [isViewVisible]

theorem eq_rootViewIsShowing {state : State} {side : Side}
    (hidden : state.isViewVisible side = false)
    (other : state.isViewVisible side.other = false) : state = rootViewIsShowing := by
  cases state with
  | rootViewIsShowing => rfl
  | willShow t => cases t <;> cases side <;> grind
  | isShowing t => cases t <;> cases side <;> grind
  | willHide t => cases t <;> cases side <;> grind

end State

/-- The properties that the app sets once and for all, for the one orientation and size class that
a screen without rotation has. -/
structure Options where
  /-- `leftView != nil`, `rightView != nil` -/
  hasView : Side → Bool
  isViewEnabled : Side → Bool
  /-- What `isLeftViewAlwaysVisible` and `isRightViewAlwaysVisible` are there. -/
  isViewAlwaysVisible : Side → Bool
  viewWidth : Side → ℚ
  viewWidth_pos : ∀ side, 0 < viewWidth side
  shouldViewHideOnTouchAnimated : Side → Bool

/-- What an animation does when it ends. -/
inductive Completion where
  | showViewDone
  | hideViewDone
  /-- after which the other view is shown, for which this one makes room -/
  | hideViewDoneThenShow
  deriving DecidableEq, Repr

structure Animation where
  side : Side
  completion : Completion
  deriving DecidableEq, Repr

/-- The notifications posted, which the delegate gets as well. -/
inductive Notification where
  | willShowView (side : Side)
  | didShowView (side : Side)
  | willHideView (side : Side)
  | didHideView (side : Side)
  deriving DecidableEq, Repr

end LGSideMenuController

open LGSideMenuController in
structure LGSideMenuController where
  state : State := .rootViewIsShowing
  isAnimating : Bool := false
  /-- The animations whose completion blocks have not run. -/
  animations : List Animation := []
  /-- The pan gestures under way. -/
  panning : Side → Bool := fun _ => false
  viewGestureStartX : Side → Option ℚ := fun _ => none
  isViewShowingBeforeGesture : Side → Bool := fun _ => false
  isRootViewLayoutingEnabled : Bool := true
  /-- Only a rotation clears this, until it is over. -/
  shouldUpdateVisibility : Bool := true
  /-- `rootViewCoverView.isHidden` -/
  rootViewCoverViewIsHidden : Bool := false
  /-- `leftContainerView.isHidden`, `rightContainerView.isHidden` -/
  containerViewIsHidden : Side → Bool := fun _ => false
  /-- `isUserInteractionEnabled` of `rootViewWrapperView`, and of those of the sides -/
  rootViewInteraction : Bool := true
  viewInteraction : Side → Bool := fun _ => true
  notifications : List Notification := []

namespace LGSideMenuController

variable (o : Options) (side : Side) (c : LGSideMenuController)

@[grind] def validateViewsUserInteraction : LGSideMenuController :=
  { c with
    rootViewInteraction := c.state = .rootViewIsShowing
    viewInteraction := fun side =>
      (c.state = .isShowing side || o.isViewAlwaysVisible side) &&
        !c.state.isViewVisible side.other }

@[grind] def validateViewsVisibility : LGSideMenuController :=
  -- all three parts have this guard
  if c.shouldUpdateVisibility then
    { c with
      rootViewCoverViewIsHidden := c.state = .rootViewIsShowing
      containerViewIsHidden := fun side =>
        !(c.state.isViewVisible side || o.isViewAlwaysVisible side) }
  else c

/-- Both validations, which always go together. -/
@[grind] def validateViews : LGSideMenuController :=
  (c.validateViewsUserInteraction o).validateViewsVisibility o

@[simp] theorem validateViews_state : (c.validateViews o).state = c.state := by
  unfold validateViews validateViewsVisibility
  split_ifs <;> rfl

@[simp] theorem validateViews_animations : (c.validateViews o).animations = c.animations := by
  unfold validateViews validateViewsVisibility
  split_ifs <;> rfl

@[simp] theorem validateViews_notifications :
    (c.validateViews o).notifications = c.notifications := by
  unfold validateViews validateViewsVisibility
  split_ifs <;> rfl

@[grind] def post (n : Notification) : LGSideMenuController :=
  { c with notifications := c.notifications ++ [n] }

/-! ## Showing and hiding -/

/-- `showLeftViewPrepare`, `showRightViewPrepare` -/
def showViewPrepare (updateStatusBar : Bool) : LGSideMenuController :=
  if !o.hasView side then c
  else if c.state.isViewVisible side then
    if c.state = .willHide side then { c with state := .willShow side }.post (.willShowView side)
    else c
  else
    let c := { c with state := .willShow side }
    let c := if updateStatusBar then { c with isRootViewLayoutingEnabled := false } else c
    (c.validateViews o).post (.willShowView side)

/-- `showLeftViewDone`, `showRightViewDone` -/
def showViewDone : LGSideMenuController :=
  if c.state = .willShow side then
    ({ c with state := .isShowing side }.validateViews o).post (.didShowView side)
  else c

/-- `showLeftViewActions`, `showRightViewActions` -/
def showViewActions (animated : Bool) : LGSideMenuController :=
  if c.state = .willShow side then
    if animated then
      { c with
        isAnimating := true
        animations := c.animations ++ [⟨side, .showViewDone⟩]
        isRootViewLayoutingEnabled := false }
    else { c with isRootViewLayoutingEnabled := false }.showViewDone o side
  else c

/-- `hideLeftViewPrepare`, `hideRightViewPrepare` -/
def hideViewPrepare : LGSideMenuController :=
  if !o.hasView side then c
  else if c.state = .isShowing side then
    ({ c with state := .willHide side }.validateViews o).post (.willHideView side)
  else if c.state = .willShow side then
    { c with state := .willHide side }.post (.willHideView side)
  else c

/-- `hideLeftViewDone`, `hideRightViewDone` -/
def hideViewDone (updateStatusBar : Bool) : LGSideMenuController :=
  if c.state = .willHide side then
    let c := if updateStatusBar then { c with isRootViewLayoutingEnabled := true } else c
    ({ c with state := .rootViewIsShowing }.validateViews o).post (.didHideView side)
  else c

/-- Preparing to show a view, and showing it. -/
def showViewNow (animated : Bool) : LGSideMenuController :=
  (c.showViewPrepare o side false).showViewActions o side animated

/-- `hideLeftViewActions`, `hideRightViewActions`, for the given completion -/
def hideViewActions (animated : Bool) (completion : Completion) : LGSideMenuController :=
  if c.state = .willHide side then
    if animated then
      { c with
        isAnimating := true
        animations := c.animations ++ [⟨side, completion⟩]
        isRootViewLayoutingEnabled := true }
    else
      let c := { c with isRootViewLayoutingEnabled := true }.hideViewDone o side false
      if completion = .hideViewDoneThenShow then c.showViewNow o side.other false else c
  else c

/-- `hideLeftView(animated:completion:)`, `hideRightView(animated:completion:)` -/
def hideView (animated : Bool) (completion : Completion) : LGSideMenuController :=
  if o.hasView side && o.isViewEnabled side && !o.isViewAlwaysVisible side &&
      c.state.isViewVisible side && c.state.isViewVisibilityStable side.other then
    (c.hideViewPrepare o side).hideViewActions o side animated completion
  else c

/-- `showLeftView(animated:)`, `showRightView(animated:)` -/
def showView (animated : Bool) : LGSideMenuController :=
  if o.hasView side && o.isViewEnabled side && !o.isViewAlwaysVisible side &&
      c.state ≠ .isShowing side && c.state.isViewVisibilityStable side.other then
    if c.state = .isShowing side.other then
      c.hideView o side.other animated .hideViewDoneThenShow
    else c.showViewNow o side animated
  else c

/-- `toggleLeftView(animated:)`, `toggleRightView(animated:)` -/
def toggleView (animated : Bool) : LGSideMenuController :=
  if o.hasView side && o.isViewEnabled side && !o.isViewAlwaysVisible side &&
      c.state.isViewVisibilityStable side.other then
    if c.state = .isShowing side then c.hideView o side animated .hideViewDone
    else if !c.state.isViewVisible side then c.showView o side animated
    else c
  else c

/-- The completion block of the `i`-th of the animations. -/
def animationDone (i : ℕ) : LGSideMenuController :=
  match c.animations[i]? with
  | none => c
  | some a =>
    let c := { c with animations := c.animations.eraseIdx i }
    match a.completion with
    | .showViewDone => { c.showViewDone o a.side with isAnimating := false }
    | .hideViewDone => { c.hideViewDone o a.side false with isAnimating := false }
    | .hideViewDoneThenShow =>
      { c.hideViewDone o a.side false with isAnimating := false }.showViewNow o a.side.other true

/-! ## Gestures -/

def handleTapGesture : LGSideMenuController :=
  if c.state.isViewVisible .left then
    c.hideView o .left (o.shouldViewHideOnTouchAnimated .left) .hideViewDone
  else if c.state.isViewVisible .right then
    c.hideView o .right (o.shouldViewHideOnTouchAnimated .right) .hideViewDone
  else c

/-- The states of a recognizer that a pan goes through; what is cancelled ends. -/
inductive Phase where
  | began | changed | ended
  deriving DecidableEq, Repr

structure Pan where
  phase : Phase
  location : ℚ
  velocity : ℚ

def calculatePercentage (shiftedAmount viewWidth : ℚ) (isViewShowingBeforeGesture : Bool) : ℚ :=
  let percentage := shiftedAmount / viewWidth
  let percentage := if percentage < 0 then 0 else if 1 < percentage then 1 else percentage
  if isViewShowingBeforeGesture then 1 - percentage else percentage

/-- How far the view is out, for a gesture that began at `startX`. -/
def percentage (startX : ℚ) (gesture : Pan) : ℚ :=
  let shifted := side.along gesture.location - side.along startX
  calculatePercentage (if c.isViewShowingBeforeGesture side then -shifted else shifted)
    (o.viewWidth side) (c.isViewShowingBeforeGesture side)

/-- The end of a gesture, with the view `percentage` out. -/
def endPan (percentage velocity : ℚ) : LGSideMenuController :=
  if percentage = 1 then (c.showViewPrepare o side false).showViewDone o side
  else if percentage = 0 then (c.hideViewPrepare o side).hideViewDone o side true
  else if percentage < 1 ∧ 0 < velocity ∨ velocity = 0 ∧ 1 / 2 ≤ percentage then
    c.showViewNow o side true
  else if 0 < percentage ∧ velocity < 0 ∨ velocity = 0 ∧ percentage < 1 / 2 then
    (c.hideViewPrepare o side).hideViewActions o side true .hideViewDone
  else c

/-- The finger takes hold of the view. -/
def grip (location : ℚ) : LGSideMenuController :=
  { c with
    viewGestureStartX := Function.update c.viewGestureStartX side (some location)
    isViewShowingBeforeGesture :=
      Function.update c.isViewShowingBeforeGesture side (c.state = .isShowing side) }

/-- The finger moves the way that the view at rest can go. -/
def follows (velocity : ℚ) : Bool :=
  if c.state = .isShowing side then velocity < 0 else 0 < velocity

/-- A gesture with the view at rest. -/
def beginPan (gesture : Pan) : LGSideMenuController :=
  if c.follows side (side.along gesture.velocity) then
    if c.state = .isShowing side then (c.grip side gesture.location).hideViewPrepare o side
    else (c.grip side gesture.location).showViewPrepare o side true
  else c

/-- A gesture that began at `startX`, with the view on its way. -/
def followPan (startX : ℚ) (gesture : Pan) : LGSideMenuController :=
  let velocity := side.along gesture.velocity
  if gesture.phase = .changed then
    if 0 < velocity then c.showViewPrepare o side false
    else if velocity < 0 then c.hideViewPrepare o side
    else c
  else
    let c := c.endPan o side (c.percentage o side startX gesture) velocity
    { c with viewGestureStartX := Function.update c.viewGestureStartX side none }

/-- `handlePanGestureForLeftView`, `handlePanGestureForRightView` -/
def handlePanGesture (gesture : Pan) : LGSideMenuController :=
  -- both pan gestures can be recognized
  if c.state.isViewVisible side.other then c
  else if c.state.isViewVisibilityStable side && gesture.phase ≠ .ended then
    c.beginPan o side gesture
  else if !c.state.isViewVisibilityStable side && gesture.phase ≠ .began then
    match c.viewGestureStartX side with
    | none => c
    | some startX => c.followPan o side startX gesture
  else c

/-! ## Calls, taps, drags and completion blocks -/

/-- What happens to the side menu while the screen keeps its orientation and its size class. Left
out is `viewWillTransition(to:with:)`, which cancels the animations and can clear
`shouldUpdateVisibility` for the time the rotation takes. -/
inductive Event where
  | showView (side : Side) (animated : Bool)
  | hideView (side : Side) (animated : Bool)
  | toggleView (side : Side) (animated : Bool)
  | tap
  | pan (side : Side) (gesture : Pan)
  | animationDone (i : ℕ)

/-- A pan begins and ends once. The touch that a gesture begins with was let through some time
before, under another state perhaps, so nothing is assumed of it. -/
def Enabled : Event → Prop
  | .pan side gesture => c.panning side = true ↔ gesture.phase ≠ .began
  | .animationDone i => i < c.animations.length
  | _ => True

instance (e : Event) : Decidable (Enabled c e) := by
  cases e <;> unfold Enabled <;> infer_instance

def next : Event → LGSideMenuController
  | .showView side animated => c.showView o side animated
  | .hideView side animated => c.hideView o side animated .hideViewDone
  | .toggleView side animated => c.toggleView o side animated
  | .tap => c.handleTapGesture o
  | .pan side gesture =>
    { c.handlePanGesture o side gesture with
      panning := Function.update c.panning side (gesture.phase ≠ .ended) }
  | .animationDone i => c.animationDone o i

/-- The side menu under these events. Nothing here can trap. -/
def system : EventSystem LGSideMenuController Event Empty where
  enabled := Enabled
  step c e := .ok (next o c e)

instance (e : Event) : Decidable ((system o).enabled c e) :=
  inferInstanceAs (Decidable (Enabled c e))

/-- The side menu after its first layout. -/
def launch : LGSideMenuController := ({} : LGSideMenuController).validateViewsVisibility o

end LGSideMenuController

end RockRadio
