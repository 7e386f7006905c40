import RockRadio.MainViewController.AdRotation
import RockRadio.SDWebImage.Answers

/-!
# The image of the ad banner

The banner asks for an image and forgets about it. When the image comes, the rotation may have moved
on, and the ads after it may have asked for theirs or, without an image, for nothing. The image
loader is shared with the other views of the app.
-/

namespace RockRadio.AdPicture

open AdBanner (History Told recorded)

variable {View URL Image : Type} [DecidableEq View] [DecidableEq URL]

/-- The banner with its history, and the image loader. -/
structure State (View URL Image : Type) where
  banner : AdBanner URL × History
  loader : ImageLoading View URL Image

inductive Event (View URL Image : Type) where
  | banner (e : AdBanner.Event)
  /-- what the loader does by itself, or for another view -/
  | loader (e : ImageLoading.Event View URL Image)

/-- The argument of the `sd_setImage` in `updateAdsUI`, if the event leads there. -/
def requested (os : Platform URL) (s : AdBanner URL) : AdBanner.Event → Option (Option URL)
  | .tick serial => ((s.due serial).bind fun i => s.adsArray[i]?).bind fun ad =>
      (ad.data.string "image").map os.url
  | _ => none

/-- The loader shows the images for the banner in `adImageView`. -/
def system (os : Platform URL) (Serves : URL → Image → Prop) (adImageView : View) :
    EventSystem (State View URL Image) (Event View URL Image) Trap where
  enabled s
    | .banner e => s.loader.sharing = none ∧ (recorded os).enabled s.banner e
    | .loader e => s.loader.Enabled Serves e ∧ ∀ url, e ≠ .sd_setImage adImageView url
  step s
    | .banner e => do
      let banner ← (recorded os).step s.banner e
      let loader :=
        match requested os s.banner.1 e with
        | some url => s.loader.sd_setImage adImageView url
        | none => s.loader
      return ⟨banner, loader⟩
    | .loader e => .ok { s with loader := s.loader.next e }

def launch (diskCache : URL → Option Image) : State View URL Image :=
  ⟨({}, {}), .launch diskCache⟩

variable {os : Platform URL} {Serves : URL → Image → Prop} {adImageView : View}
variable {s t : State View URL Image} {e : Event View URL Image}

/-- The loader knows the view's last request from the banner. -/
def Asked (adImageView : View) (s : State View URL Image) : Prop :=
  s.loader.imageURL adImageView = s.banner.1.adImageView.join

/-- A step of the banner is one of the rotation, with the request it leads to. -/
theorem banner_step {e : AdBanner.Event}
    (h : (system os Serves adImageView).step s (.banner e) = .ok t) :
    (recorded os).step s.banner e = .ok t.banner ∧
      (requested os s.banner.1 e = none ∧ t.loader = s.loader ∨
        ∃ url, requested os s.banner.1 e = some url ∧
          t.loader = s.loader.sd_setImage adImageView url) := by
  simp only [system] at h
  cases stepped : (recorded os).step s.banner e with
  | error trap =>
    rw [stepped] at h
    cases h
  | ok banner =>
    rw [stepped] at h
    cases h
    refine ⟨rfl, ?_⟩
    cases request : requested os s.banner.1 e with
    | none => exact .inl ⟨rfl, rfl⟩
    | some url => exact .inr ⟨url, rfl, rfl⟩

omit [DecidableEq URL] in
/-- What an event of the banner leaves in the field is what it asks the loader for. -/
theorem adImageView_of_records {x y : AdBanner URL × History} {e : AdBanner.Event}
    (h : AdBanner.Records os x e y) :
    y.1.adImageView = (requested os x.1 e).or x.1.adImageView := by
  cases h with
  | answered documents => rw [AdBanner.adsData_some]; rfl
  | shows found read due =>
    simp only [requested, due, Option.bind_some, read]
    exact x.1.adImageView_updateAdsUI os _
  | wraps found outside due => simp [requested, due]
  | failed => rfl
  | tapped => rfl

theorem told_asked_next (told : Told os s.banner) (asked : Asked adImageView s)
    (enabled : (system os Serves adImageView).enabled s e)
    (h : (system os Serves adImageView).step s e = .ok t) :
    Told os t.banner ∧ Asked adImageView t := by
  cases e with
  | banner e =>
    obtain ⟨stepped, loader⟩ := banner_step h
    have records := AdBanner.records_of_step enabled.2 stepped
    refine ⟨AdBanner.told_next told records, ?_⟩
    rw [Asked, adImageView_of_records records]
    rcases loader with ⟨noRequest, same⟩ | ⟨url, request, set⟩
    · rw [same, noRequest]
      exact asked
    · rw [set, request, ImageLoading.imageURL_setImage]
      rfl
  | loader e =>
    cases h
    exact ⟨told, (ImageLoading.wants_next s.loader enabled.2).2.trans asked⟩

/-- Seen from the loader, the banner is one of those who give views addresses. -/
theorem loader_of_step (enabled : (system os Serves adImageView).enabled s e)
    (h : (system os Serves adImageView).step s e = .ok t) : t.loader = s.loader ∨
      ∃ e', (ImageLoading.system Serves).enabled s.loader e' ∧
        (ImageLoading.system Serves).step s.loader e' = .ok t.loader := by
  cases e with
  | banner e =>
    rcases (banner_step h).2 with ⟨_, same⟩ | ⟨url, _, set⟩
    · exact .inl same
    · exact .inr ⟨.sd_setImage adImageView url, enabled.1, congrArg Except.ok set.symm⟩
  | loader e =>
    cases h
    exact .inr ⟨e, enabled.1, rfl⟩

/-- In every run the banner shows no image, or an image served under the address of the ad that was
pictured last. -/
theorem image_of_exec {diskCache : URL → Option Image}
    (stored : ∀ url i, diskCache url = some i → Serves url i) {es : List (Event View URL Image)}
    (run : (system os Serves adImageView).Exec (launch diskCache) es s) {image : Image}
    (shown : s.loader.image adImageView = some image) :
    ∃ i ad imageURL url, s.banner.2.pictured = some i ∧ s.banner.1.adsArray[i]? = some ad ∧
      ad.data.string "image" = some imageURL ∧ os.url imageURL = some url ∧ Serves url image := by
  obtain ⟨told, asked⟩ := run.invariant' (I := fun s => Told os s.banner ∧ Asked adImageView s)
    ⟨AdBanner.told_init os, rfl⟩ fun h enabled step => told_asked_next h.1 h.2 enabled step
  obtain ⟨es', loads⟩ := run.project (N := ImageLoading.system Serves) State.loader loader_of_step
  obtain ⟨url, given, serves⟩ := (ImageLoading.sound_of_exec stored loads).picture shown
  have requested : s.banner.1.adImageView.join = some url := asked.symm.trans given
  cases pictured : s.banner.2.pictured with
  | none =>
    rw [told.blank pictured] at requested
    cases requested
  | some i =>
    obtain ⟨ad, imageURL, read, image, view⟩ := told.pictured i pictured
    rw [view, Option.join_some] at requested
    exact ⟨i, ad, imageURL, url, rfl, read, image, requested, serves⟩

/-- The image of the first ad comes when the second is on display and has asked for its own. -/
def lateEvents : List (Event Unit String String) :=
  [.banner (.adsData (some AdBanner.twoAds)), .banner (.tick 0), .loader (.io true), .loader .main,
    .loader (.didReceive 0 (some "i")), .loader (.proceed 0), .banner (.tick 0), .loader .main,
    .loader (.io true), .loader .main, .loader (.didReceive 1 (some "j")), .loader (.proceed 1),
    .loader .main]

theorem image_of_exec_late : ∃ s : State Unit String String,
    (system .text (· = ·) ()).Exec (launch fun _ => none) lateEvents s ∧
    ∃ i ad imageURL url, s.banner.2.pictured = some i ∧ s.banner.1.adsArray[i]? = some ad ∧
      ad.data.string "image" = some imageURL ∧ Platform.text.url imageURL = some url ∧
      url = "j" := by
  have run : (system .text (· = ·) ()).Exec (launch fun _ => none) lateEvents _ :=
    .cons ⟨rfl, trivial⟩ rfl <| .cons ⟨rfl, List.mem_singleton.mpr rfl⟩ rfl <|
      .cons ⟨List.cons_ne_nil _ _, by simp⟩ rfl <|
      .cons ⟨⟨rfl, List.cons_ne_nil _ _⟩, by simp⟩ rfl <|
      .cons ⟨⟨_, rfl, rfl, by simp [DownloaderOperation.Over], by simp⟩, by simp⟩ rfl <|
      .cons ⟨⟨_, rfl, by simp, rfl⟩, by simp⟩ rfl <|
      .cons ⟨rfl, List.mem_singleton.mpr rfl⟩ rfl <|
      .cons ⟨⟨rfl, List.cons_ne_nil _ _⟩, by simp⟩ rfl <|
      .cons ⟨List.cons_ne_nil _ _, by simp⟩ rfl <|
      .cons ⟨⟨rfl, List.cons_ne_nil _ _⟩, by simp⟩ rfl <|
      .cons ⟨⟨_, rfl, rfl, by simp [DownloaderOperation.Over], by simp⟩, by simp⟩ rfl <|
      .cons ⟨⟨_, rfl, by simp, rfl⟩, by simp⟩ rfl <|
      .cons ⟨⟨rfl, List.cons_ne_nil _ _⟩, by simp⟩ rfl <| .nil _
  exact ⟨_, run, image_of_exec (by simp) run rfl⟩

end RockRadio.AdPicture
