import RockRadio.App.System
import RockRadio.Library.History
import RockRadio.LGSideMenuController.Heading

/-!
# The drawer

The side menu of the app is the left view of an `LGSideMenuController`, around the main view. The
button of the main view opens it. The row of the radio, the button "now playing" and a tap beside
the menu close it, each with an animation; the next press may come before the animation is over.

The gestures that drag a view are disabled. A touch may have begun under another state, so nothing
is assumed of when a press comes.

## Main results

* `drawer_of_exec` — in every run of the app, the drawer is open or opening exactly when the last
  request was to open it, and once no animation is left it is the menu or the main view that takes
  touches, as that request says.
-/

namespace RockRadio

/-- The app and the controller its views stand in. -/
structure Drawer (URL Image : Type) where
  app : App URL Image
  sideMenu : LGSideMenuController

namespace Drawer

open LGSideMenuController (Options)

variable {URL Image : Type}

/-- `UIScreen.main.bounds`, of a screen that leaves the side views some width -/
structure Screen where
  width : ℚ
  height : ℚ
  wide : 100 < width
  high : 44 < height

def configureSideMenu (screen : Screen) : Options where
  hasView side := side = .left
  isViewEnabled _ := true
  isViewAlwaysVisible _ := false
  viewWidth
    | .left => screen.width - 100
    | .right => min (min screen.width screen.height - 44) 320
  viewWidth_pos
    | .left => sub_pos.mpr screen.wide
    | .right =>
      have narrow : 44 < screen.width := lt_trans (by decide) screen.wide
      lt_min (sub_pos.mpr (lt_min narrow screen.high)) (by decide)
  shouldViewHideOnTouchAnimated _ := true

inductive Event (URL Image : Type) where
  | app (e : App.Event URL Image)
  | openSideMenu
  | nowPlayingButtonTapped
  | tap
  | animationDone (i : ℕ)

variable (os : Platform URL) (o : Options) (s : Drawer URL Image)

def Enabled : Event URL Image → Prop
  | .app e => s.app.Enabled e
  | .openSideMenu => s.app.menu.mainLoaded = true
  | .nowPlayingButtonTapped => s.app.menu.sideLoaded = true
  | .tap => True
  | .animationDone i => i < s.sideMenu.animations.length

/-- The row of the radio is the only one to close the drawer. -/
def closes (row : ℕ) : Bool :=
  match s.app.menu.selectRow os row with
  | .ok (some .hideLeftView) => true
  | _ => false

/-- What an event of the app does to the side menu. -/
def sideMenuAfter : App.Event URL Image → LGSideMenuController
  | .menu (.didSelectRowAt row) =>
    if s.closes os row then s.sideMenu.hideView o .left true .hideViewDone else s.sideMenu
  | _ => s.sideMenu

def step : Event URL Image → Except Trap (Drawer URL Image)
  | .app e => do
    let app ← s.app.step os e
    return { app, sideMenu := s.sideMenuAfter os o e }
  | .openSideMenu => .ok { s with sideMenu := s.sideMenu.showView o .left true }
  | .nowPlayingButtonTapped =>
    .ok { s with sideMenu := s.sideMenu.hideView o .left true .hideViewDone }
  | .tap => .ok { s with sideMenu := s.sideMenu.handleTapGesture o }
  | .animationDone i => .ok { s with sideMenu := s.sideMenu.animationDone o i }

def system : EventSystem (Drawer URL Image) (Event URL Image) Trap where
  enabled := Enabled
  step := step os o

/-- What an event asks of the drawer. -/
def request : Event URL Image → Option Bool
  | .openSideMenu => some true
  | .nowPlayingButtonTapped | .tap => some false
  | .app (.menu (.didSelectRowAt row)) => if s.closes os row then some false else none
  | .app _ | .animationDone _ => none

/-- The app, with the last request on record: whether it was to open the drawer. -/
def recorded : EventSystem (Drawer URL Image × Bool) (Event URL Image) Trap :=
  (system os o).withHistory fun s e _ opened => (s.request os e).getD opened

def launch (clean : String → String) (image : Image) : Drawer URL Image where
  app := App.launch clean image
  sideMenu := LGSideMenuController.launch o

variable {os} {o} {s} {t : Drawer URL Image} {e : Event URL Image} {opened : Bool}

theorem single_configureSideMenu (screen : Screen) : (configureSideMenu screen).Single .left :=
  ⟨rfl, rfl, rfl, rfl⟩

/-- A step of the app is no step of the side menu, and asks nothing of it, or is the step that does
what it asks. -/
theorem step_sideMenu (enabled : s.Enabled e) (h : step os o s e = .ok t) :
    (t.sideMenu = s.sideMenu ∧ s.request os e = none) ∨
      ∃ e', s.sideMenu.Enabled e' ∧ t.sideMenu = s.sideMenu.next o e' ∧ e'.isPlain = true ∧
        e'.request .left = s.request os e := by
  cases e with
  | openSideMenu =>
    cases h
    exact .inr ⟨.showView .left true, trivial, rfl, rfl, rfl⟩
  | nowPlayingButtonTapped =>
    cases h
    exact .inr ⟨.hideView .left true, trivial, rfl, rfl, rfl⟩
  | tap =>
    cases h
    exact .inr ⟨.tap, trivial, rfl, rfl, rfl⟩
  | animationDone i =>
    cases h
    exact .inr ⟨.animationDone i, enabled, rfl, rfl, rfl⟩
  | app e =>
    obtain ⟨app, _, done⟩ := bind_eq_ok_iff.mp h
    cases done
    cases e with
    | menu e =>
      cases e with
      | didSelectRowAt row =>
        cases closes : s.closes os row with
        | true =>
          refine .inr ⟨.hideView .left true, trivial, ?_, rfl, ?_⟩
          · simp [sideMenuAfter, closes, LGSideMenuController.next]
          · simp [request, closes, LGSideMenuController.Event.request]
        | false => exact .inl (by simp [sideMenuAfter, request, closes])
      | _ => exact .inl ⟨rfl, rfl⟩
    | _ => exact .inl ⟨rfl, rfl⟩

open LGSideMenuController (Headed Reflects)

theorem launch_headed (clean : String → String) (image : Image) :
    Headed o .left false (launch o clean image : Drawer URL Image).sideMenu where
  underway := LGSideMenuController.launch_underway
  alone _ ha := absurd ha List.not_mem_nil
  free := rfl
  heads := rfl

/-- What the record says of the drawer, and the flags of the drawer say of its state, every step
keeps. -/
theorem step_headed (single : o.Single .left) (enabled : s.Enabled e) (step : step os o s e = .ok t)
    (headed : Headed o .left opened s.sideMenu) (reflects : Reflects o s.sideMenu) :
    Headed o .left ((s.request os e).getD opened) t.sideMenu ∧ Reflects o t.sideMenu := by
  rcases step_sideMenu enabled step with ⟨same, none⟩ | ⟨e', enabled', stepped, plain, request⟩
  · rw [same, none]
    exact ⟨headed, reflects⟩
  · rw [stepped, ← request]
    exact ⟨headed.next single enabled' plain,
      LGSideMenuController.reflects_kept.next reflects fun _ _ _ _ _ _ => trivial⟩

/-- Whatever happens in between, the drawer goes where the last request sends it. Once it is there,
either the menu takes touches or the main view does. -/
theorem drawer_of_exec {clean : String → String} {image : Image} {screen : Screen}
    {es : List (Event URL Image)}
    (run : (recorded os (configureSideMenu screen)).Exec
      (launch (configureSideMenu screen) clean image, false) es (t, opened)) :
    t.sideMenu.state.heads = opened ∧ (t.sideMenu.animations = [] →
      t.sideMenu.isViewTouchable .left = opened ∧ t.sideMenu.rootViewInteraction = !opened) := by
  have single := single_configureSideMenu screen
  obtain ⟨headed, reflects⟩ : Headed (configureSideMenu screen) .left opened t.sideMenu ∧
      Reflects (configureSideMenu screen) t.sideMenu := by
    refine run.invariant' (I := fun x => Headed _ .left x.2 x.1.sideMenu ∧ Reflects _ x.1.sideMenu)
      ⟨launch_headed clean image, LGSideMenuController.launch_reflects⟩ ?_
    rintro ⟨s, opened⟩ e ⟨t, opened'⟩ ⟨headed, reflects⟩ enabled step
    obtain ⟨step, rfl⟩ := EventSystem.withHistory_step_iff.mp step
    exact step_headed single enabled step headed reflects
  refine ⟨headed.heads, fun idle => ?_⟩
  have rest := headed.rest single idle
  have touchable := reflects.isViewTouchable .left
  have root := reflects.rootViewInteraction
  rw [rest] at touchable root
  cases opened with
  | true =>
    simpa [LGSideMenuController.State.isViewVisible, Side.other] using And.intro touchable root
  | false => simpa [configureSideMenu] using And.intro touchable root

def phone : Screen := ⟨390, 844, by decide, by decide⟩

/-- The drawer is opened, closed beside it and opened again, before any animation is over. -/
def presses : List (Event String Unit) :=
  [.app (.menu .mainViewDidLoad), .openSideMenu, .tap, .openSideMenu, .animationDone 0,
    .animationDone 0, .animationDone 0]

theorem drawer_of_exec_presses :
    ∃ t, (recorded .text (configureSideMenu phone)).Exec
        (launch (configureSideMenu phone) id (), false) presses (t, true) ∧
      t.sideMenu.isViewTouchable .left = true ∧ t.sideMenu.rootViewInteraction = false := by
  have run : (recorded .text (configureSideMenu phone)).Exec
      (launch (configureSideMenu phone) id (), false) presses (_, true) :=
    .cons rfl rfl (.cons rfl rfl (.cons trivial rfl (.cons rfl rfl (.cons (Nat.succ_pos _) rfl
      (.cons (Nat.succ_pos _) rfl (.cons (Nat.succ_pos _) rfl (.nil _)))))))
  exact ⟨_, run, (drawer_of_exec run).2 rfl⟩

end Drawer

end RockRadio
