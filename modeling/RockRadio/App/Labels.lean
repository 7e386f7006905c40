import RockRadio.App.System
import RockRadio.FRadioPlayer.Metadata
import RockRadio.Library.LastWrite

/-!
# What the labels say

The artist and the title on the labels and on the lock screen come from the metadata that the stream
sends along, in between everything else that happens: taps, loads that end, artwork that arrives and
has the track published once more. Stopping, and changing the item, blank them.

## Main results

* `labels_of_exec` — in every run of the app, what is shown is what is left of the newest value, or
  nothing, and there is no annotation in it.
-/

namespace RockRadio

/-- The artist and the title that the player announces for a metadata value. -/
def announced (clean : String → String) (rawValue : Option String) :
    Option String × Option String :=
  let parts := rawValue.map fun raw => (clean raw).splitOn " - "
  (parts.bind (·.head?), parts.bind (·.getLast?))

/-- How these appear on labels. -/
def captions (clean : String → String) (rawValue : Option String) : String × String :=
  ((announced clean rawValue).1.getD "", (announced clean rawValue).2.getD "")

/-- Both are pieces of what is left of the value, and so without annotations. -/
theorem unannotated_announced (word : WordCharacters) {rawValue : Option String} {text : String}
    (h : text ∈ (announced (Metadata.cleanMetadata word) rawValue).1 ∨
      text ∈ (announced (Metadata.cleanMetadata word) rawValue).2) :
    Metadata.Unannotated text.toList := by
  cases rawValue with
  | none => exact absurd h (by simp [announced])
  | some raw =>
    have part : text ∈ (Metadata.cleanMetadata word raw).splitOn " - " := by
      rcases h with h | h
      · exact List.mem_of_mem_head? h
      · exact List.mem_of_mem_getLast? h
    exact (Metadata.unannotated word raw).of_part (String.infix_of_mem_splitOn part)

namespace MainViewController

variable {Image : Type} {clean : String → String} {value : Option String}
variable {m : MainViewController Image}

/-- The artist and the title on the labels. -/
def labels (m : MainViewController Image) : String × String :=
  (m.currentSongLabel, m.radioInformation)

/-- All that is to be read on the labels and in what is published. -/
def texts (m : MainViewController Image) : List String :=
  m.currentSongLabel :: m.radioInformation ::
    m.nowPlayingInfo.toList.flatMap fun info => info.artist.toList ++ info.title.toList

/-- The texts of the track and of its labels are those announced for the value, or none at all. -/
structure Tells (clean : String → String) (value : Option String)
    (m : MainViewController Image) : Prop where
  track : ∀ t ∈ m.track, (t.artist, t.name) = (none, none) ∨
    (t.artist, t.name) = announced clean value
  artist : m.currentSongLabel = (m.track.bind (·.artist)).getD ""
  information : m.radioInformation = (m.track.bind (·.name)).getD ""
  stations : ∀ s ∈ m.stations, s.name = appName

/-- So are those published, but for the name of the station in place of a title. -/
structure Presents (clean : String → String) (value : Option String)
    (m : MainViewController Image) : Prop extends Tells clean value m where
  published : ∀ info ∈ m.nowPlayingInfo, info.artist = m.track.bind (·.artist) ∧
    (info.title = m.track.bind (·.name) ∨ info.title = some appName)

theorem presents_initial (image : Image) : (initial image).Presents clean value where
  track := nofun
  artist := rfl
  information := rfl
  stations := by simp [initial]
  published := nofun

theorem Tells.name_eq (h : m.Tells clean value) {s : Station Image} (hs : m.station = some s) :
    s.name = appName := by
  unfold MainViewController.station at hs
  split at hs
  · exact h.stations s (List.mem_of_getElem? hs)
  · cases hs

theorem Tells.updateNowPlaying (h : m.Tells clean value) :
    (m.updateNowPlaying m.track).Presents clean value := by
  refine ⟨⟨h.track, h.artist, h.information, h.stations⟩, ?_⟩
  rintro info ⟨⟩
  refine ⟨rfl, ?_⟩
  change (m.track.bind (·.name)).or (m.station.map (·.name)) = m.track.bind (·.name) ∨
    (m.track.bind (·.name)).or (m.station.map (·.name)) = some appName
  cases m.track.bind (·.name) with
  | some name => exact .inl rfl
  | none =>
    cases hs : m.station with
    | none => exact .inl rfl
    | some s => exact .inr (congrArg some (h.name_eq hs))

/-- The track has nothing to say, or what was announced. -/
theorem Tells.cases (h : m.Tells clean value) :
    (m.track.bind (·.artist), m.track.bind (·.name)) = (none, none) ∨
      (m.track.bind (·.artist), m.track.bind (·.name)) = announced clean value := by
  cases hTrack : m.track with
  | none => exact .inl rfl
  | some track => exact h.track track hTrack

theorem Tells.labels_eq (h : m.Tells clean value) :
    m.labels = ("", "") ∨ m.labels = captions clean value := by
  rw [labels, captions, h.artist, h.information]
  rcases h.cases with none | told
  · obtain ⟨artist, name⟩ := Prod.mk.inj none
    exact .inl (by rw [artist, name]; rfl)
  · exact .inr (by rw [← told])

/-- What is to be read is blank, the name of the app, or announced. -/
theorem Presents.of_mem_texts (h : m.Presents clean value) {text : String} (ht : text ∈ m.texts) :
    text = "" ∨ text = appName ∨
      text ∈ (announced clean value).1 ∨ text ∈ (announced clean value).2 := by
  have told : (∀ text ∈ m.track.bind (·.artist), text ∈ (announced clean value).1) ∧
      ∀ text ∈ m.track.bind (·.name), text ∈ (announced clean value).2 := by
    rcases h.toTells.cases with none | told
    · obtain ⟨artist, name⟩ := Prod.mk.inj none
      rw [artist, name]
      exact ⟨nofun, nofun⟩
    · rw [← told]
      exact ⟨fun _ => id, fun _ => id⟩
  have label {o : Option String} (ht : text = o.getD "") : text = "" ∨ text ∈ o := by
    cases o with
    | none => exact .inl ht
    | some s => exact .inr (congrArg some ht.symm)
  simp only [texts, List.mem_cons, List.mem_flatMap, Option.mem_toList, List.mem_append] at ht
  rcases ht with ht | ht | ⟨info, shown, ht | ht⟩
  · exact (label (ht.trans h.artist)).imp id fun ht => .inr (.inl (told.1 text ht))
  · exact (label (ht.trans h.information)).imp id fun ht => .inr (.inr (told.2 text ht))
  · rw [(h.published info shown).1] at ht
    exact .inr (.inr (.inl (told.1 text ht)))
  · rcases (h.published info shown).2 with title | title
    · rw [title] at ht
      exact .inr (.inr (.inr (told.2 text ht)))
    · rw [title] at ht
      exact .inr (.inl (Option.some.inj ht).symm)

/-- Assigning the track makes the screen tell about another value. -/
theorem Tells.setTrack (h : m.Tells clean value) {other : Option String}
    {track : Option (Track Image)} (told : ∀ t ∈ track, (t.artist, t.name) = (none, none) ∨
      (t.artist, t.name) = announced clean other) : (m.setTrack track).Presents clean other :=
  Tells.updateNowPlaying (m := { m with
    track
    currentSongLabel := (track.bind (·.artist)).getD ""
    radioInformation := (track.bind (·.name)).getD "" }) ⟨told, rfl, rfl, h.stations⟩

/-- Artwork is added to the track, and changes no text. -/
theorem Presents.artworkDidChange (h : m.Presents clean value)
    (artworkURL : Option (Artwork Image)) :
    (m.artworkDidChange artworkURL).Presents clean value := by
  simp only [MainViewController.artworkDidChange]
  cases Artwork.load artworkURL with
  | none => exact { h with }
  | some image =>
    apply Tells.updateNowPlaying
    cases hTrack : m.track with
    | none => exact { h.toTells with track := by simp [hTrack] }
    | some track =>
      have told : (m.setTrack (some { track with image })).Presents clean value := by
        apply h.toTells.setTrack
        rintro t ⟨⟩
        exact h.track track hTrack
      exact { told.toTells with }

theorem Presents.correctIndex (h : m.Presents clean value) (index : ℤ) :
    (m.correctIndex index).Presents clean value := by
  unfold MainViewController.correctIndex
  split <;> exact { h with }

end MainViewController

/-- The player cleans as it did, and its screen presents the value. -/
def Presenting {URL Image : Type} (clean : String → String) (value : Option String)
    (p : FRadioPlayer URL) (m : MainViewController Image) : Prop :=
  p.cleanMetadata = clean ∧ m.Presents clean value

theorem presenting_invariant {URL Image : Type} (clean : String → String)
    (value : Option String) : SilentInvariant (@Presenting URL Image clean value) where
  frame _ same h := ⟨same.trans h.1, h.2⟩
  playback _ h := ⟨h.1, { h.2 with }⟩
  state _ h := h
  item _ h := ⟨h.1, h.2.toTells.setTrack nofun⟩
  silence h := ⟨h.1, h.2.toTells.setTrack (by rintro t ⟨⟩; exact .inl rfl)⟩
  raw _ h := h
  artwork url h := ⟨h.1, h.2.artworkDidChange url⟩

namespace Radio

variable {URL Image : Type} (os : Platform URL) {r : Receiver URL Image}
variable {clean : String → String} {value : Option String}

theorem timedMetadataDidChange_presenting (h : r.Holds (Presenting clean value))
    (other : Option String) : (r.timedMetadataDidChange other).Holds (Presenting clean other) := by
  apply (presenting_invariant clean other).announce
  refine ⟨h.1, h.2.toTells.setTrack ?_⟩
  rintro t ⟨⟩
  rw [h.1]
  exact .inr rfl

theorem setSelectedIndex_presenting (h : r.Holds (Presenting clean value)) (radioURL : String)
    (index : ℤ) : (r.setSelectedIndex os radioURL index).Holds (Presenting clean value) := by
  have corrected : Radio.Holds (Presenting clean value) ⟨r.player, r.delegate.correctIndex index⟩ :=
    ⟨h.1, h.2.correctIndex index⟩
  have selected := (presenting_invariant clean value).setRadioURL corrected (os.url radioURL)
  exact ⟨selected.1, selected.2.toTells.updateNowPlaying⟩

theorem viewDidLoad_presenting (h : r.Holds (Presenting clean value)) (radioURL : String) :
    (r.viewDidLoad os radioURL).Holds (Presenting clean value) :=
  (presenting_invariant clean value).play (setSelectedIndex_presenting os h radioURL 0)

theorem playTap_presenting (h : r.Holds (Presenting clean value)) (radioURL : String) :
    (r.playTap os radioURL).Holds (Presenting clean value) := by
  unfold playTap
  split
  · have paused := (presenting_invariant clean value).pause h
    exact ⟨paused.1, { paused.2 with }⟩
  · have toggled := (presenting_invariant clean value).togglePlaying
      (setSelectedIndex_presenting os h radioURL 0)
    exact ⟨toggled.1, { toggled.2 with }⟩

end Radio

namespace App

variable {URL Image : Type} {os : Platform URL} {s t : App URL Image} {e : Event URL Image}
variable {clean : String → String} {value : Option String}

/-- The metadata value that an event brings. -/
def metadata : Event URL Image → Option (Option String)
  | .player (.metadataOutput value) => some value
  | _ => none

/-- Every event presents the newest value, which only the stream changes. -/
theorem step_presenting (h : s.radio.Holds (Presenting clean value)) (step : step os s e = .ok t) :
    t.radio.Holds (Presenting clean ((metadata e).getD value)) := by
  cases e with
  | menu e =>
    rw [(step_menu step).2]
    cases e with
    | mainViewDidLoad => exact Radio.viewDidLoad_presenting os h s.radioURL
    | _ => exact h
  | player e =>
    cases step
    by_cases output : ∃ other, e = .metadataOutput other
    · obtain ⟨other, rfl⟩ := output
      exact Radio.timedMetadataDidChange_presenting h other
    · have quiet : metadata (.player e : Event URL Image) = none := by
        cases e <;> first | rfl | exact absurd ⟨_, rfl⟩ output
      rw [quiet]
      by_cases tap : ∃ radioURL, e = .playTap radioURL
      · obtain ⟨radioURL, rfl⟩ := tap
        exact Radio.playTap_presenting os h radioURL
      · exact (presenting_invariant clean value).next h (not_exists.mp tap)
          fun other same => absurd ⟨other, same⟩ output
  | _ =>
    rw [(step_other step nofun nofun).2]
    exact h

/-- In every run of the app, the labels are blank or show the first and the last part of what
cleaning leaves of the newest value that the stream has sent, and no annotation is to be read on
them, nor in what is published. -/
theorem labels_of_exec (os : Platform URL) (word : WordCharacters) (image : Image)
    {es : List (Event URL Image)}
    (run : (system os).Exec (launch (Metadata.cleanMetadata word) image) es t) :
    (t.radio.delegate.labels = ("", "") ∨ t.radio.delegate.labels =
      captions (Metadata.cleanMetadata word) (Register.lastWrite metadata none es)) ∧
    ∀ text ∈ t.radio.delegate.texts, Metadata.Unannotated text.toList := by
  have presents : t.radio.Holds (Presenting (Metadata.cleanMetadata word)
      (Register.lastWrite metadata none es)) :=
    Register.lastWrite_invariant metadata (I := fun value (s : App URL Image) =>
      s.radio.Holds (Presenting (Metadata.cleanMetadata word) value)) run
      ⟨rfl, MainViewController.presents_initial image⟩ fun h _ step => step_presenting h step
  refine ⟨presents.2.toTells.labels_eq, fun text ht => ?_⟩
  rcases presents.2.of_mem_texts ht with rfl | rfl | told
  · trivial
  · exact (Metadata.cleanMetadata_eq_self_iff .ascii appName).mp (by decide)
  · exact unannotated_announced word told

/-- The main view is loaded, and two songs are played. -/
def songs : List (Event String Unit) :=
  [.menu .mainViewDidLoad, .player (.metadataOutput (some "A - B")),
    .player (.metadataOutput (some "C [live] - D (2004)mix")), .player .interruptionBegan]

theorem labels_of_exec_songs :
    ∃ t, (system .text).Exec (launch (Metadata.cleanMetadata .ascii) ()) songs t ∧
      (t.radio.delegate.labels = ("", "") ∨ t.radio.delegate.labels =
        captions (Metadata.cleanMetadata .ascii) (some "C [live] - D (2004)mix")) ∧
      ∀ text ∈ t.radio.delegate.texts, Metadata.Unannotated text.toList := by
  have run : (system .text).Exec (launch (Metadata.cleanMetadata .ascii) ()) songs _ :=
    .cons rfl rfl (.cons ⟨rfl, trivial, trivial⟩ rfl (.cons ⟨rfl, trivial, trivial⟩ rfl
      (.cons ⟨rfl, trivial, trivial⟩ rfl (.nil _))))
  exact ⟨_, run, labels_of_exec .text .ascii () run⟩

end App

end RockRadio
