import RockRadio.MainViewController.AdRotation
import RockRadio.MainViewController.Playback
import RockRadio.SideMenuController.Menu

/-!
# The app

The two controllers, the player and the ad banner together, with the globals between them. An event
of the menu that also concerns `MainViewController` acts on the player or the banner as well; an
event of the player reads the global `radioURL` at that moment.
-/

namespace RockRadio

structure App (URL Image : Type) where
  menu : Menu URL := {}
  radio : Receiver URL Image
  ads : AdBanner URL := {}

/-- A tap brings along this value of the global `radioURL`. -/
def Playback.Event.Reads {Image : Type} (value : String) : Playback.Event Image → Prop
  | .playTap radioURL => radioURL = value
  | _ => True

namespace App

variable {URL Image : Type}

inductive Event (URL Image : Type) where
  | menu (e : Menu.Event URL)
  | player (e : Playback.Event Image)
  | adTimer (serial : ℕ)
  | openAdButtonTapped
  | linkButtonTapped (k : Link)

variable (os : Platform URL) (s : App URL Image)

/-- The global `radioURL` -/
def radioURL : String := s.menu.globals.radioURL

/-- What an event of the menu does to the player: the main view selects the station when it is
loaded. -/
def radioAfter : Menu.Event URL → Receiver URL Image
  | .mainViewDidLoad => s.radio.viewDidLoad os s.radioURL
  | _ => s.radio

/-- What an event of the menu does to the banner. -/
def adsAfter : Menu.Event URL → AdBanner URL
  | .adsData answer => s.ads.adsData answer
  | _ => s.ads

/-- The player is not reached before the main view is loaded, nor are the buttons of a view. -/
def Enabled : Event URL Image → Prop
  | .menu e => s.menu.Enabled e
  | .player e => s.menu.mainLoaded = true ∧ Playback.Enabled s.radio e ∧ e.Reads s.radioURL
  | .adTimer serial => serial ∈ s.ads.timers.map (·.serial)
  | .openAdButtonTapped => s.menu.mainLoaded = true
  | .linkButtonTapped _ => s.menu.sideLoaded = true

def step : Event URL Image → Except Trap (App URL Image)
  | .menu e => do
    let menu ← s.menu.step os e
    return { menu, radio := s.radioAfter os e, ads := s.adsAfter e }
  | .player e => .ok { s with radio := Playback.next os s.radio e }
  | .adTimer serial => do
    let ads ← s.ads.tick os serial
    return { s with ads }
  -- asks the system for `s.ads.openAdButtonTapped os`, and changes nothing
  | .openAdButtonTapped => .ok s
  | .linkButtonTapped k => do
    let _ ← linkButtonTapped os s.menu.globals k
    return s

def system : EventSystem (App URL Image) (Event URL Image) Trap where
  enabled := Enabled
  step := step os

/-- The app before any view is loaded. -/
def launch (clean : String → String) (image : Image) : App URL Image where
  radio := ⟨{ cleanMetadata := clean }, .initial image⟩

/-! ## The parts of a step -/

variable {os} {s} {t : App URL Image}

theorem step_menu {e : Menu.Event URL} (h : step os s (.menu e) = .ok t) :
    s.menu.step os e = .ok t.menu ∧ t.radio = s.radioAfter os e := by
  obtain ⟨menu, stepped, done⟩ := bind_eq_ok_iff.mp h
  cases done
  exact ⟨stepped, rfl⟩

theorem step_mainViewDidLoad (h : step os s (.menu .mainViewDidLoad) = .ok t) :
    t.menu = s.menu.mainViewDidLoad ∧ t.radio = s.radio.viewDidLoad os s.radioURL := by
  obtain ⟨menu, radio⟩ := step_menu h
  exact ⟨(Except.ok.inj menu).symm, radio⟩

/-- What is neither an event of the menu nor of the player leaves both alone. -/
theorem step_other {e : Event URL Image} (h : step os s e = .ok t) (notMenu : ∀ e', e ≠ .menu e')
    (notPlayer : ∀ e', e ≠ .player e') : t.menu = s.menu ∧ t.radio = s.radio := by
  cases e with
  | menu e => exact absurd rfl (notMenu e)
  | player e => exact absurd rfl (notPlayer e)
  | adTimer serial =>
    obtain ⟨ads, _, ticked⟩ := bind_eq_ok_iff.mp h
    cases ticked
    exact ⟨rfl, rfl⟩
  | openAdButtonTapped => cases h; exact ⟨rfl, rfl⟩
  | linkButtonTapped k =>
    obtain ⟨action, _, tapped⟩ := bind_eq_ok_iff.mp h
    cases tapped
    exact ⟨rfl, rfl⟩

/-- The menu of the app is the menu on its own: what holds along the runs of the one holds along
the runs of the other. -/
theorem exec_menu {es : List (Event URL Image)} (run : (system os).Exec s es t) :
    ∃ es', (Menu.system os).Exec s.menu es' t.menu := by
  refine run.project (fun s => s.menu) ?_
  intro s e t enabled h
  change step os s e = .ok t at h
  cases e with
  | menu e => exact .inr ⟨e, enabled, (step_menu h).1⟩
  | player e => cases h; exact .inl rfl
  | _ => exact .inl (step_other h nofun nofun).1

/-- The ad banner of the app is the banner on its own, whose history can be told. -/
theorem exec_ads {es : List (Event URL Image)} (run : (system os).Exec s es t)
    (h : AdBanner.History) : ∃ es' h', (AdBanner.recorded os).Exec (s.ads, h) es' (t.ads, h') := by
  obtain ⟨es', run'⟩ : ∃ es', (AdBanner.system os).Exec s.ads es' t.ads := by
    refine run.project (fun s => s.ads) ?_
    intro s e t enabled h
    cases e with
    | menu e =>
      obtain ⟨menu, _, done⟩ := bind_eq_ok_iff.mp h
      cases done
      cases e with
      | adsData answer => exact .inr ⟨.adsData answer, trivial, rfl⟩
      | _ => exact .inl rfl
    | player e => cases h; exact .inl rfl
    | adTimer serial =>
      obtain ⟨ads, ticked, done⟩ := bind_eq_ok_iff.mp h
      cases done
      exact .inr ⟨.tick serial, enabled, ticked⟩
    | openAdButtonTapped => cases h; exact .inl rfl
    | linkButtonTapped k =>
      obtain ⟨action, _, done⟩ := bind_eq_ok_iff.mp h
      cases done
      exact .inl rfl
  obtain ⟨h', recorded⟩ := run'.exists_history h
  exact ⟨es', h', recorded⟩

end App

end RockRadio
