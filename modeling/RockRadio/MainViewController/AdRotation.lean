import RockRadio.Library.History
import RockRadio.Library.Schedule
import RockRadio.MainViewController.Ads

/-!
# The rotation of the ads

What the banner shows and what a tap on it opens are two pieces of state. To say which ad they stand
for, a history variable records the positions, in the list of ads, of the ad displayed and of the ad
whose image was last requested, and the ad displayed during each interval since the last
`startTimer`.

## Main results

* `rotatesFairly_iff` — one timer drives the rotation and reads the list within its bounds, and the
  ads get equal shares of the intervals only at the beginning of the rotation, or if there is one.
* `faithful_iff_fits` — a tap opens the ad that the image is from, exactly when no tick displays an
  ad without an image whose address is not that of the ad pictured.
-/

namespace RockRadio.AdBanner

variable {URL : Type}

/-! ## The history of the banner -/

structure History where
  /-- The position of the ad displayed. -/
  displayed : Option ℕ := none
  /-- The position of the ad whose image was last requested. -/
  pictured : Option ℕ := none
  /-- What was displayed from each tick since the last `startTimer` to the next. -/
  intervals : List (Option ℕ) := []

/-- The ad at this position has an image to request. -/
def HasImage (s : AdBanner URL) (i : ℕ) : Prop :=
  (s.adsArray[i]?.bind fun ad => ad.data.string "image").isSome = true

instance (s : AdBanner URL) (i : ℕ) : Decidable (s.HasImage i) :=
  inferInstanceAs (Decidable (_ = _))

def record (s : AdBanner URL) (e : Event) (h : History) : History :=
  match e with
  | .adsData (some _) => { h with intervals := [] }
  | .tick serial =>
    let displayed := (s.due serial).or h.displayed
    { displayed
      pictured := ((s.due serial).filter (s.HasImage ·)).or h.pictured
      intervals := h.intervals ++ [displayed] }
  | _ => h

/-- The banner and its history. -/
def recorded (os : Platform URL) : EventSystem (AdBanner URL × History) Event Trap :=
  (system os).withHistory fun s e _ h => record s e h

variable {os : Platform URL} {x y : AdBanner URL × History} {e : Event} {es : List Event}

/-- What an event makes of the banner and its history: an answer starts a new rotation, a tick shows
the next ad or leads back to the start of the list, and nothing else leaves a trace. -/
inductive Records (os : Platform URL) (x : AdBanner URL × History) :
    Event → AdBanner URL × History → Prop where
  | answered (documents : List Document) : Records os x (.adsData (some documents))
      (x.1.adsData (some documents), { x.2 with intervals := [] })
  | shows {serial : ℕ} {timer : ScheduledTimer} {ad : Document}
      (found : x.1.timers.find? (·.serial = serial) = some timer)
      (read : x.1.adsArray[timer.selectedIndex]? = some ad)
      (due : x.1.due serial = some timer.selectedIndex) : Records os x (.tick serial)
      ({ x.1.updateAdsUI os ad.data with
          timers := assign x.1.timers serial (timer.selectedIndex + 1) },
        { displayed := some timer.selectedIndex
          pictured := ((some timer.selectedIndex).filter (x.1.HasImage ·)).or x.2.pictured
          intervals := x.2.intervals ++ [some timer.selectedIndex] })
  | wraps {serial : ℕ} {timer : ScheduledTimer}
      (found : x.1.timers.find? (·.serial = serial) = some timer)
      (outside : x.1.adsArray.length ≤ timer.selectedIndex)
      (due : x.1.due serial = none) : Records os x (.tick serial)
      ({ x.1 with timers := assign x.1.timers serial 0 },
        { x.2 with intervals := x.2.intervals ++ [x.2.displayed] })
  | failed : Records os x (.adsData none) x
  | tapped : Records os x .openAdButtonTapped x

theorem records_of_step (enabled : (recorded os).enabled x e)
    (h : (recorded os).step x e = .ok y) : Records os x e y := by
  obtain ⟨stepped, recorded⟩ := EventSystem.withHistory_step_iff.mp h
  obtain ⟨s, history⟩ := y
  subst recorded
  cases e with
  | adsData answer =>
    cases stepped
    cases answer with
    | none => exact .failed
    | some documents => exact .answered documents
  | openAdButtonTapped => cases stepped; exact .tapped
  | tick serial =>
    obtain ⟨timer, found⟩ : ∃ timer, x.1.timers.find? (·.serial = serial) = some timer := by
      obtain ⟨timer, mem, same⟩ := List.mem_map.mp enabled
      exact Option.isSome_iff_exists.mp (List.find?_isSome.mpr ⟨timer, mem, by simpa using same⟩)
    rcases tick_cases found stepped with ⟨ad, read, due, rfl⟩ | ⟨outside, due, rfl⟩
    · simp only [record, due, Option.some_or]
      exact .shows found read due
    · simp only [record, due, Option.none_or, Option.filter_none]
      exact .wraps found outside due

/-- The history tells what is displayed and what is pictured. -/
structure Told (os : Platform URL) (x : AdBanner URL × History) : Prop where
  displayed : ∀ i ∈ x.2.displayed, ∃ ad, x.1.adsArray[i]? = some ad ∧ x.1.adObject = ad.data
  nothing : x.2.displayed = none → x.1.adObject = []
  pictured : ∀ i ∈ x.2.pictured, ∃ ad imageURL, x.1.adsArray[i]? = some ad ∧
    ad.data.string "image" = some imageURL ∧ x.1.adImageView = some (os.url imageURL)
  blank : x.2.pictured = none → x.1.adImageView = none

section
variable {s : AdBanner URL} {i : ℕ} {ad : Document} {pictured : Option ℕ}

/-- An ad with an image is pictured. -/
theorem filter_or_of_image {imageURL : String} (read : s.adsArray[i]? = some ad)
    (image : ad.data.string "image" = some imageURL) :
    ((some i).filter (s.HasImage ·)).or pictured = some i := by
  simp [HasImage, read, image]

/-- An ad without one leaves the image of another. -/
theorem filter_or_of_noImage (read : s.adsArray[i]? = some ad)
    (image : ad.data.string "image" = none) :
    ((some i).filter (s.HasImage ·)).or pictured = pictured := by
  simp [Option.filter, HasImage, read, image]

end

theorem told_init (os : Platform URL) : Told os ({}, {}) :=
  ⟨nofun, fun _ => rfl, nofun, fun _ => rfl⟩

theorem told_next (h : Told os x) (step : Records os x e y) : Told os y := by
  cases step with
  | answered documents =>
    have kept {i : ℕ} {ad : Document} (read : x.1.adsArray[i]? = some ad) :
        (x.1.adsArray ++ documents)[i]? = some ad := by
      rw [List.getElem?_append_left (List.getElem?_eq_some_iff.mp read).1, read]
    rw [adsData_some]
    refine ⟨?_, h.nothing, ?_, h.blank⟩
    · intro i hi
      obtain ⟨ad, read, object⟩ := h.displayed i hi
      exact ⟨ad, kept read, object⟩
    · intro i hi
      obtain ⟨ad, imageURL, read, image, view⟩ := h.pictured i hi
      exact ⟨ad, imageURL, kept read, image, view⟩
  | @shows serial timer ad found read due =>
    have view := x.1.adImageView_updateAdsUI os ad.data
    cases image : ad.data.string "image" with
    | none =>
      rw [filter_or_of_noImage read image]
      rw [image] at view
      refine ⟨?_, nofun, ?_, fun blank => view.trans (h.blank blank)⟩
      · rintro _ ⟨⟩
        exact ⟨ad, by simpa using read, by simp⟩
      · intro i hi
        obtain ⟨pictured, imageURL, read', image', view'⟩ := h.pictured i hi
        exact ⟨pictured, imageURL, by simpa using read', image', view.trans view'⟩
    | some imageURL =>
      rw [filter_or_of_image read image]
      rw [image] at view
      refine ⟨?_, nofun, ?_, nofun⟩
      · rintro _ ⟨⟩
        exact ⟨ad, by simpa using read, by simp⟩
      · rintro _ ⟨⟩
        exact ⟨ad, imageURL, by simpa using read, image, view⟩
  | wraps found outside due => exact ⟨h.displayed, h.nothing, h.pictured, h.blank⟩
  | failed => exact h
  | tapped => exact h

/-! ## Equal shares -/

/-- The one timer there is, if the rotation has started, stands where the cycle is after so many
ticks, and the intervals are those of the cycle. -/
structure Rotating (x : AdBanner URL × History) : Prop where
  timer : x.1.timers = [] ∧ x.1.timer = none ∧ x.1.adsArray = [] ∨
    ∃ serial, x.1.timer = some serial ∧
      x.1.timers = [⟨serial, x.2.intervals.length % (x.1.adsArray.length + 1)⟩]
  intervals : x.1.adsArray ≠ [] → x.2.intervals =
    (List.range x.2.intervals.length).map fun k => some (Schedule.shown x.1.adsArray.length k)
  displayed : x.1.adsArray ≠ [] → ∀ i ∈ x.2.intervals.getLast?, x.2.displayed = i

theorem rotating_init : Rotating (({}, {}) : AdBanner URL × History) :=
  ⟨.inl ⟨rfl, rfl, rfl⟩, fun ads => absurd rfl ads, nofun⟩

/-- The timer found is the one there is. -/
theorem Rotating.timer_of_find (h : Rotating x) {serial : ℕ} {timer : ScheduledTimer}
    (found : x.1.timers.find? (·.serial = serial) = some timer) :
    x.1.timer = some serial ∧ x.1.timers = [timer] ∧ timer.serial = serial ∧
      timer.selectedIndex = x.2.intervals.length % (x.1.adsArray.length + 1) := by
  rcases h.timer with ⟨none, _⟩ | ⟨serial', hTimer, one⟩
  · simp [none] at found
  · rw [one] at found ⊢
    obtain ⟨same, rfl⟩ : serial' = serial ∧ _ = timer := by simpa using found
    exact ⟨same ▸ hTimer, rfl, same, rfl⟩

theorem rotating_next (h : Rotating x) (step : Records os x e y) : Rotating y := by
  cases step with
  | answered documents =>
    rw [adsData_some]
    refine ⟨.inr ⟨x.1.created, rfl, ?_⟩, fun _ => rfl, nofun⟩
    rcases h.timer with ⟨none, noTimer, _⟩ | ⟨serial, hTimer, one⟩
    · simp [none]
    · simp [hTimer, one]
  | @shows serial timer ad found read due =>
    obtain ⟨hTimer, one, same, position⟩ := h.timer_of_find found
    have inside := (List.getElem?_eq_some_iff.mp read).1
    rw [position] at inside
    refine ⟨.inr ⟨serial, by simpa using hTimer, ?_⟩, ?_, ?_⟩
    · simp [one, assign, same, position, Schedule.succ_mod, inside]
    · intro ads
      have before := h.intervals (by simpa using ads)
      simp only [adsArray_updateAdsUI, List.length_append, List.length_singleton,
        List.range_succ, List.map_append, ← before, List.map_singleton,
        Schedule.shown_of_lt inside, position]
    · rintro - _ hi
      simpa using hi
  | @wraps serial timer found outside due =>
    obtain ⟨hTimer, one, same, position⟩ := h.timer_of_find found
    have outside' := outside
    rw [position] at outside'
    refine ⟨.inr ⟨serial, hTimer, ?_⟩, ?_, ?_⟩
    · simp [one, assign, same, Schedule.succ_mod, outside']
    · intro ads
      have before := h.intervals ads
      have positive : 0 < x.1.adsArray.length := List.length_pos_iff.mpr ads
      have last : x.2.intervals.length % (x.1.adsArray.length + 1) = x.1.adsArray.length := by
        have rest : x.2.intervals.length % (x.1.adsArray.length + 1) < x.1.adsArray.length + 1 :=
          Nat.mod_lt _ (by omega)
        omega
      obtain ⟨k, hk⟩ : ∃ k, x.2.intervals.length = k + 1 := by
        refine Nat.exists_eq_succ_of_ne_zero fun zero => ?_
        rw [zero, Nat.zero_mod] at last
        omega
      -- the ad before stays displayed
      have stays := h.displayed ads (some (Schedule.shown x.1.adsArray.length k)) (by
        rw [before, hk, List.range_succ]
        simp)
      have again := Schedule.shown_of_last (hk ▸ last) positive
      simp only [List.length_append, List.length_singleton, List.range_succ, List.map_append,
        ← before, List.map_singleton]
      rw [stays, hk, again]
    · rintro - _ hi
      simpa using hi
  | failed => exact h
  | tapped => exact h

/-- One timer drives the rotation, nothing is read outside the list, and the ads' shares of the
intervals since the last `startTimer` differ by at most one. -/
structure RotatesFairly (os : Platform URL) (x : AdBanner URL × History) : Prop where
  single : ∃ timer, x.1.timers = [timer] ∧ x.1.timer = some timer.serial
  inRange : ∀ serial trap, x.1.tick os serial ≠ .error trap
  fair : ∀ i j, i < x.1.adsArray.length → j < x.1.adsArray.length →
    x.2.intervals.count (some i) ≤ x.2.intervals.count (some j) + 1

/-- In every run, the rotation of the ads is fair exactly if there is one ad, or before the end of
the second round, or right before the second turn of the last ad in the third. -/
theorem rotatesFairly_iff (os : Platform URL) {es : List Event} {x : AdBanner URL × History}
    (run : (recorded os).Exec ({}, {}) es x) (ads : x.1.adsArray ≠ []) :
    RotatesFairly os x ↔ x.1.adsArray.length = 1 ∨
      x.2.intervals.length < 2 * (x.1.adsArray.length + 1) ∨
      x.2.intervals.length = 3 * x.1.adsArray.length + 1 := by
  have rotating : Rotating x := by
    refine run.invariant' rotating_init ?_
    intro x e y h enabled step
    exact rotating_next h (records_of_step enabled step)
  rw [← Schedule.fair_iff (List.length_pos_iff.mpr ads)]
  have counts (i : ℕ) : x.2.intervals.count (some i) =
      Schedule.exposure x.1.adsArray.length i x.2.intervals.length := by
    rw [← Schedule.count_map_shown, ← rotating.intervals ads]
  constructor
  · intro h i j hi hj
    simpa [counts] using h.fair i j hi hj
  · intro fair
    refine ⟨?_, ?_, ?_⟩
    · rcases rotating.timer with ⟨_, _, none⟩ | ⟨serial, hTimer, one⟩
      · exact absurd none ads
      · exact ⟨_, one, hTimer⟩
    · intro serial trap failed
      obtain ⟨t, ticked⟩ := x.1.tick_ok os serial
      rw [ticked] at failed
      cases failed
    · intro i j hi hj
      simpa [counts] using fair i j hi hj

/-- Two ads with their images and addresses. -/
def twoAds : List Document :=
  [⟨"a", [("image", .string "i"), ("url", .string "u")]⟩,
    ⟨"b", [("image", .string "j"), ("url", .string "v")]⟩]

/-- Both ads, and the tick that starts over. -/
theorem rotatesFairly_iff_two : ∃ x,
    (recorded .text).Exec ({}, {}) [.adsData (some twoAds), .tick 0, .tick 0, .tick 0] x ∧
      (RotatesFairly .text x ↔ x.1.adsArray.length = 1 ∨
        x.2.intervals.length < 2 * (x.1.adsArray.length + 1) ∨
        x.2.intervals.length = 3 * x.1.adsArray.length + 1) := by
  have tick : (0 : ℕ) ∈ [0] := List.mem_singleton.mpr rfl
  have run : (recorded .text).Exec ({}, {}) [.adsData (some twoAds), .tick 0, .tick 0, .tick 0] _ :=
    .cons trivial rfl <| .cons tick rfl <| .cons tick rfl <| .cons tick rfl (.nil _)
  exact ⟨_, run, rotatesFairly_iff .text run (List.cons_ne_nil _ _)⟩

/-- After two rounds of two ads, the second has been displayed twice as long as the first. -/
theorem last_ad_favoured :
    ¬ ∀ (es : List Event) (x : AdBanner String × History),
      (recorded .text).Exec ({}, {}) es x → x.1.adsArray ≠ [] → RotatesFairly .text x := by
  intro claim
  have tick : (0 : ℕ) ∈ [0] := List.mem_singleton.mpr rfl
  have run : (recorded .text).Exec ({}, {}) (.adsData (some [⟨"a", []⟩, ⟨"b", []⟩]) ::
      List.replicate 6 (.tick 0)) _ :=
    .cons trivial rfl <| .cons tick rfl <| .cons tick rfl <| .cons tick rfl <| .cons tick rfl <|
      .cons tick rfl <| .cons tick rfl <| .nil _
  have fair : 4 ≤ 2 + 1 :=
    (claim _ _ run (List.cons_ne_nil _ _)).fair 1 0 Nat.one_lt_two Nat.zero_lt_two
  omega

/-! ## Taps -/

/-- What a tap on this ad opens. -/
def opens (os : Platform URL) (ad : Fields) : Option (Action URL) :=
  (ad.string "url").bind (openScheme os)

/-- While an image is on the screen, a tap opens what the ad that the image is from opens, or
nothing. -/
def Faithful (os : Platform URL) (x : AdBanner URL × History) : Prop :=
  ∀ i ad url, x.2.pictured = some i → x.1.adsArray[i]? = some ad →
    x.1.adImageView = some (some url) →
      x.1.openAdButtonTapped os = none ∨ x.1.openAdButtonTapped os = opens os ad.data

/-- A tick that displays an ad without an image finds no image of another ad on the screen, unless
the two open the same or the ad displayed opens nothing. -/
def Fits (os : Platform URL) (x : AdBanner URL × History) : Event → Prop
  | .tick serial => ∀ i ad, x.1.due serial = some i → x.1.adsArray[i]? = some ad →
      ad.data.string "image" = none →
      ∀ j pictured url, x.2.pictured = some j → x.1.adsArray[j]? = some pictured →
        x.1.adImageView = some (some url) →
          opens os ad.data = none ∨ opens os ad.data = opens os pictured.data
  | _ => True

theorem faithful_init : Faithful os ({}, {}) := nofun

/-- A position is that of one ad. -/
theorem eq_of_read {ads : List Document} {i j : ℕ} {ad ad' : Document} (read : ads[i]? = some ad)
    (same : some i = some j) (read' : ads[j]? = some ad') : i = j ∧ ad = ad' := by
  cases same
  exact ⟨rfl, Option.some.inj (read.symm.trans read')⟩

/-- Where taps are faithful, an event keeps them so exactly when it fits. -/
theorem faithful_next_iff (h : Told os x) (faithful : Faithful os x) (step : Records os x e y) :
    Faithful os y ↔ Fits os x e := by
  cases step with
  | answered documents =>
    refine iff_of_true ?_ trivial
    intro i ad url pictured read view
    obtain ⟨ad', _, read', _⟩ := h.pictured i pictured
    rw [adsData_some] at read view ⊢
    obtain rfl : ad' = ad := by
      have inside := (List.getElem?_eq_some_iff.mp read').1
      simpa [List.getElem?_append_left inside, read'] using read
    exact faithful i ad' url pictured read' view
  | @shows serial timer ad found read due =>
    have tapped : (x.1.updateAdsUI os ad.data).openAdButtonTapped os = opens os ad.data := by
      rw [openAdButtonTapped, adObject_updateAdsUI, opens]
    have view := x.1.adImageView_updateAdsUI os ad.data
    cases image : ad.data.string "image" with
    | some imageURL =>
      rw [filter_or_of_image read image]
      constructor
      · intro _ i ad' hi read' none
        obtain ⟨rfl, rfl⟩ := eq_of_read read (due.symm.trans hi) read'
        simp [image] at none
      · intro _ i ad' url hi read' _
        obtain ⟨rfl, rfl⟩ := eq_of_read read hi (by simpa using read')
        exact .inr tapped
    | none =>
      rw [image, Option.map_none, Option.none_or] at view
      rw [filter_or_of_noImage read image]
      constructor
      · intro faithful' i ad' hi read' _ j pictured url hj readj viewj
        obtain ⟨rfl, rfl⟩ := eq_of_read read (due.symm.trans hi) read'
        have tap := faithful' j pictured url hj (by simpa using readj) (view.trans viewj)
        rwa [← tapped]
      · intro fits j pictured url hj readj viewj
        have tap := fits timer.selectedIndex ad due read image j pictured url hj
          (by simpa using readj) (view.symm.trans viewj)
        rwa [← tapped] at tap
  | wraps found outside due =>
    refine iff_of_true faithful ?_
    intro i ad hi
    rw [due] at hi
    cases hi
  | failed => exact iff_of_true faithful trivial
  | tapped => exact iff_of_true faithful trivial

/-- Along every run, a tap opens the ad that the image on the screen is from, or nothing, exactly
when every tick fits the image it finds. -/
theorem faithful_iff_fits (os : Platform URL) {es : List Event} {x : AdBanner URL × History}
    (run : (recorded os).Exec ({}, {}) es x) :
    (recorded os).Always (Faithful os) ({}, {}) es ↔
      (recorded os).AllSteps (Fits os) ({}, {}) es := by
  refine run.always_iff_allSteps (told_init os) faithful_init ?_ ?_
  · intro x e y told enabled step
    exact told_next told (records_of_step enabled step)
  · intro x e y told faithful enabled step
    exact faithful_next_iff told faithful (records_of_step enabled step)

/-- Both ads, and a tap on the second. -/
theorem faithful_iff_fits_two :
    (recorded .text).Always (Faithful .text) ({}, {})
        [.adsData (some twoAds), .tick 0, .tick 0, .openAdButtonTapped] ↔
      (recorded .text).AllSteps (Fits .text) ({}, {})
        [.adsData (some twoAds), .tick 0, .tick 0, .openAdButtonTapped] :=
  have tick : (0 : ℕ) ∈ [0] := List.mem_singleton.mpr rfl
  faithful_iff_fits .text
    (.cons trivial rfl <| .cons tick rfl <| .cons tick rfl <| .cons trivial rfl (.nil _))

/-- An ad without an image opens its own address under the image of the ad before. -/
theorem tap_on_other_ad :
    ¬ ∀ (es : List Event) (x : AdBanner String × History),
      (recorded .text).Exec ({}, {}) es x → Faithful .text x := by
  intro claim
  have tick : (0 : ℕ) ∈ [0] := List.mem_singleton.mpr rfl
  have run : (recorded .text).Exec ({}, {}) [.adsData (some
      [⟨"a", [("image", .string "i"), ("url", .string "u")]⟩, ⟨"b", [("url", .string "v")]⟩]),
      .tick 0, .tick 0] _ :=
    .cons trivial rfl <| .cons tick rfl <| .cons tick rfl <| .nil _
  have tapped : some (Action.openURL "v") = none ∨
      some (Action.openURL "v") = some (Action.openURL "u") :=
    claim _ _ run 0 _ "i" rfl rfl rfl
  simp at tapped

end RockRadio.AdBanner
