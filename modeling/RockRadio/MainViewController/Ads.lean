import RockRadio.Library.EventSystem
import RockRadio.SideMenuController.Rows

/-!
# The ad banner

The answers to the 'ads' query extend a list, and each starts a timer that walks through it. The
timer's block captures the position in a variable of its own and refers to the controller weakly.
-/

namespace RockRadio

variable {URL : Type}

/-- A timer in the run loop, with the variable its block captured. -/
structure ScheduledTimer where
  serial : ℕ
  selectedIndex : ℕ
  deriving DecidableEq

/-- The part of `MainViewController` that shows ads. -/
structure AdBanner (URL : Type) where
  adsArray : List Document := []
  /-- The timers that the run loop holds. -/
  timers : List ScheduledTimer := []
  /-- The timers created so far. -/
  created : ℕ := 0
  /-- The weak reference to the latest timer. -/
  timer : Option ℕ := none
  adViewIsHidden : Bool := false
  adObject : Fields := []
  /-- The argument of the last `sd_setImage` on `adImageView`. -/
  adImageView : Option (Option URL) := none

namespace AdBanner

variable (os : Platform URL) (s : AdBanner URL)

/-- `timer?.invalidate()` takes the timer out of the run loop. -/
def invalidate : AdBanner URL :=
  match s.timer with
  | some serial => { s with timers := s.timers.filter (·.serial ≠ serial) }
  | none => s

def startTimer : AdBanner URL :=
  let s := s.invalidate
  { s with
    timers := s.timers ++ [⟨s.created, 0⟩], created := s.created + 1, timer := some s.created }

/-- The handler in `adsData`, up to the call of `socialData`. -/
def adsData : Option (List Document) → AdBanner URL
  | none => s
  | some documents => { s with adsArray := s.adsArray ++ documents }.startTimer

def updateAdsUI (ad : Fields) : AdBanner URL :=
  let s := { s with adViewIsHidden := false, adObject := ad }
  match ad.string "image" with
  | some imageURL => { s with adImageView := some (os.url imageURL) }
  | none => s

/-- The block of the timer, with the controller it refers to weakly and the captured position. -/
def timerBlock (controller : Option (AdBanner URL)) (selectedIndex : ℕ) :
    Except Trap (Option (AdBanner URL) × ℕ) := do
  if selectedIndex < (controller.map (·.adsArray.length)).getD 0 then
    match controller with
    | some s =>
      let adObject ← subscript s.adsArray selectedIndex
      let s ← unwrap controller
      return (some (s.updateAdsUI os adObject.data), selectedIndex + 1)
    | none => return (none, selectedIndex + 1)
  else return (controller, 0)

/-- A timer of the run loop fires. The controller lives as long as the app. -/
def tick (serial : ℕ) : Except Trap (AdBanner URL) :=
  match s.timers.find? (·.serial = serial) with
  | none => .ok s
  | some timer => do
    let (controller, selectedIndex) ← timerBlock os (some s) timer.selectedIndex
    let s ← unwrap controller
    return { s with timers := s.timers.map fun other =>
      if other.serial = serial then { other with selectedIndex } else other }

def openAdButtonTapped : Option (Action URL) :=
  (s.adObject.string "url").bind (openScheme os)

/-! ## The block of the timer -/

variable {os} {s}

theorem timerBlock_of_lt {selectedIndex : ℕ} {ad : Document}
    (h : s.adsArray[selectedIndex]? = some ad) :
    timerBlock os (some s) selectedIndex =
      .ok (some (s.updateAdsUI os ad.data), selectedIndex + 1) := by
  have inside := (List.getElem?_eq_some_iff.mp h).1
  simp only [timerBlock, Option.map_some, Option.getD_some, inside, if_true,
    subscript_eq_ok_iff.mpr h]
  rfl

theorem timerBlock_of_le {selectedIndex : ℕ} (h : s.adsArray.length ≤ selectedIndex) :
    timerBlock os (some s) selectedIndex = .ok (some s, 0) := by
  simp only [timerBlock, Option.map_some, Option.getD_some, not_lt.mpr h, if_false]
  rfl

/-- The block reads the list within its bounds, and finds the controller alive where it unwraps
it. -/
theorem timerBlock_ok (os : Platform URL) (s : AdBanner URL) (selectedIndex : ℕ) :
    ∃ t selectedIndex', timerBlock os (some s) selectedIndex = .ok (some t, selectedIndex') := by
  by_cases inside : selectedIndex < s.adsArray.length
  · exact ⟨_, _, timerBlock_of_lt (List.getElem?_eq_getElem inside)⟩
  · exact ⟨_, _, timerBlock_of_le (not_lt.mp inside)⟩

theorem tick_ok (os : Platform URL) (s : AdBanner URL) (serial : ℕ) :
    ∃ t, s.tick os serial = .ok t := by
  simp only [tick]
  cases s.timers.find? (·.serial = serial) with
  | none => exact ⟨s, rfl⟩
  | some timer =>
    obtain ⟨t, selectedIndex, block⟩ := timerBlock_ok os s timer.selectedIndex
    simp only [block]
    exact ⟨_, rfl⟩

/-- The position of the list that the timer's block reads, if it reads any. -/
def due (s : AdBanner URL) (serial : ℕ) : Option ℕ :=
  ((s.timers.find? (·.serial = serial)).map (·.selectedIndex)).filter (· < s.adsArray.length)

/-- The captured position of one timer is assigned. -/
def assign (timers : List ScheduledTimer) (serial selectedIndex : ℕ) : List ScheduledTimer :=
  timers.map fun other => if other.serial = serial then { other with selectedIndex } else other

/-- A tick shows the ad at the captured position and moves on, or goes back to the start. -/
theorem tick_cases {t : AdBanner URL} {serial : ℕ} {timer : ScheduledTimer}
    (found : s.timers.find? (·.serial = serial) = some timer) (h : s.tick os serial = .ok t) :
    (∃ ad, s.adsArray[timer.selectedIndex]? = some ad ∧
      s.due serial = some timer.selectedIndex ∧
      t = { s.updateAdsUI os ad.data with
        timers := assign s.timers serial (timer.selectedIndex + 1) }) ∨
    (s.adsArray.length ≤ timer.selectedIndex ∧ s.due serial = none ∧
      t = { s with timers := assign s.timers serial 0 }) := by
  simp only [tick, found] at h
  by_cases inside : timer.selectedIndex < s.adsArray.length
  · have read := List.getElem?_eq_getElem inside
    rw [timerBlock_of_lt read] at h
    refine .inl ⟨_, read, by simp [due, found, inside], ?_⟩
    cases h
    simp only [updateAdsUI]
    split <;> rfl
  · rw [timerBlock_of_le (not_lt.mp inside)] at h
    refine .inr ⟨not_lt.mp inside, by simpa [due, found] using inside, ?_⟩
    cases h
    rfl

@[simp] theorem adsArray_updateAdsUI (ad : Fields) :
    (s.updateAdsUI os ad).adsArray = s.adsArray := by
  unfold updateAdsUI
  split <;> rfl

@[simp] theorem timer_updateAdsUI (ad : Fields) : (s.updateAdsUI os ad).timer = s.timer := by
  unfold updateAdsUI
  split <;> rfl

@[simp] theorem adObject_updateAdsUI (ad : Fields) : (s.updateAdsUI os ad).adObject = ad := by
  unfold updateAdsUI
  split <;> rfl

/-- The image view is given the image of the ad, if the ad has one. -/
theorem adImageView_updateAdsUI (s : AdBanner URL) (os : Platform URL) (ad : Fields) :
    (s.updateAdsUI os ad).adImageView = ((ad.string "image").map os.url).or s.adImageView := by
  unfold updateAdsUI
  split <;> rename_i h <;> simp [h]

/-- An answer extends the list and puts a new timer in the place of the latest. -/
theorem adsData_some (documents : List Document) : s.adsData (some documents) = { s with
    adsArray := s.adsArray ++ documents
    timers := s.timers.filter (fun timer => s.timer ≠ some timer.serial) ++ [⟨s.created, 0⟩]
    created := s.created + 1
    timer := some s.created } := by
  simp only [adsData, startTimer, invalidate]
  cases s.timer with
  | none => simp
  | some serial => simp [eq_comm]

/-! ## What happens to the banner -/

inductive Event where
  | adsData (answer : Option (List Document))
  /-- the timer with this serial number fires -/
  | tick (serial : ℕ)
  | openAdButtonTapped

def Enabled (s : AdBanner URL) : Event → Prop
  | .tick serial => serial ∈ s.timers.map (·.serial)
  | _ => True

def step (os : Platform URL) (s : AdBanner URL) : Event → Except Trap (AdBanner URL)
  | .adsData answer => .ok (s.adsData answer)
  | .tick serial => s.tick os serial
  -- asks the system for `s.openAdButtonTapped os`, and changes nothing
  | .openAdButtonTapped => .ok s

def system (os : Platform URL) : EventSystem (AdBanner URL) Event Trap where
  enabled := Enabled
  step := step os

end AdBanner

end RockRadio
