import RockRadio.MainViewController.Playback

/-!
# The screen mirrors the track

What the labels and the lock screen show is rebuilt by property observers: assigning `track` sets
the labels and publishes, assigning `selectedIndex` corrects the index, selects the station — which
calls back into the screen — and publishes last. The labels depend on the track only, so they are
right all along; what is published also depends on the station, and is right once the observer has
run to its end.

## Main results

* `mirrored_of_exec` — after any sequence of assignments, taps and callbacks the index is valid and
  the screen mirrors the current track and station, and so it does after each callback made in the
  middle of an assignment.
-/

namespace RockRadio

namespace MainViewController

variable {Image : Type*}

/-- The index is one of a station, and the labels are those of the track. -/
structure Labelled (m : MainViewController Image) : Prop where
  valid : 0 ≤ m.selectedIndex ∧ m.selectedIndex < m.stations.length
  artist : m.currentSongLabel = (m.track.bind (·.artist)).getD ""
  information : m.radioInformation = (m.track.bind (·.name)).getD ""

/-- What is published is what the track says, and what the station says where the track does not.
The artist is only that of the track. -/
structure Mirrored (m : MainViewController Image) : Prop extends Labelled m where
  published : ∃ station, m.station = some station ∧ m.nowPlayingInfo = some {
    artist := m.track.bind (·.artist)
    title := some ((m.track.bind (·.name)).getD station.name)
    artwork := (m.track.bind (·.image)).or station.image }

variable {m : MainViewController Image}

theorem labelled_initial (image : Image) : (initial image).Labelled :=
  ⟨⟨le_rfl, Int.one_pos⟩, rfl, rfl⟩

/-- A valid index has a station. -/
theorem Labelled.exists_station (h : m.Labelled) : ∃ station, m.station = some station := by
  have inside : m.selectedIndex.toNat < m.stations.length := by have := h.valid; omega
  exact ⟨m.stations[m.selectedIndex.toNat], by simp [station, h.valid.1, inside]⟩

/-- Whatever index is assigned, the observer leaves a valid one. -/
theorem Labelled.correctIndex (h : m.Labelled) (index : ℤ) : (m.correctIndex index).Labelled := by
  have some := h.valid
  unfold MainViewController.correctIndex
  split
  · rename_i inside
    exact ⟨inside, h.artist, h.information⟩
  · refine ⟨?_, h.artist, h.information⟩
    dsimp only
    split_ifs <;> omega

/-- Publishing makes a labelled screen a mirror. -/
theorem Labelled.mirrored_updateNowPlaying (h : m.Labelled) :
    (m.updateNowPlaying m.track).Mirrored := by
  obtain ⟨station, hStation⟩ := h.exists_station
  refine ⟨⟨h.valid, h.artist, h.information⟩, station, hStation, ?_⟩
  simp only [updateNowPlaying, stationImage, hStation, Option.map_some, Option.bind_some]
  cases m.track.bind (·.name) <;> rfl

/-- So does assigning the track. -/
theorem Labelled.mirrored_setTrack (h : m.Labelled) (track : Option (Track Image)) :
    (m.setTrack track).Mirrored :=
  Labelled.mirrored_updateNowPlaying (m := { m with
    track
    currentSongLabel := (track.bind (·.artist)).getD ""
    radioInformation := (track.bind (·.name)).getD "" }) ⟨h.valid, rfl, rfl⟩

/-- Artwork with data is published once more, after the track's own observer. -/
theorem Labelled.mirrored_artworkDidChange (h : m.Labelled) {artworkURL : Option (Artwork Image)}
    {image : Option Image} (data : Artwork.load artworkURL = some image) :
    (m.artworkDidChange artworkURL).Mirrored := by
  simp only [artworkDidChange, data]
  refine Labelled.mirrored_updateNowPlaying ?_
  cases m.track with
  | none => exact ⟨h.valid, h.artist, h.information⟩
  | some track =>
    have assigned := (h.mirrored_setTrack (some { track with image })).toLabelled
    exact ⟨assigned.valid, assigned.artist, assigned.information⟩

/-- A callback publishes, or changes the play button and the cover only. -/
theorem Labelled.call_cases {URL : Type*} (h : m.Labelled) (c : Callback URL (Artwork Image)) :
    Mirrored (c.call m) ∨
      ∃ playButton playButtonIsSelected albumCoverImage,
        c.call m = { m with playButton, playButtonIsSelected, albumCoverImage } := by
  cases c with
  | playerState player state => exact .inr ⟨_, _, _, rfl⟩
  | playbackState player state => exact .inr ⟨_, _, _, rfl⟩
  | item player url => exact .inl (h.mirrored_setTrack none)
  | metadata player artistName trackName => exact .inl (h.mirrored_setTrack _)
  | rawMetadata player rawValue => exact .inr ⟨_, _, _, rfl⟩
  | artwork player artworkURL =>
    cases data : Artwork.load artworkURL with
    | none =>
      refine .inr ⟨m.playButton, m.playButtonIsSelected, m.stationImage, ?_⟩
      simp only [Callback.call, FRadioPlayerDelegate.artworkDidChange, artworkDidChange, data]
    | some image => exact .inl (h.mirrored_artworkDidChange data)

/-- Every callback finds and leaves a labelled screen. -/
theorem Labelled.call {URL : Type*} (h : m.Labelled) (c : Callback URL (Artwork Image)) :
    Labelled (c.call m) := by
  rcases h.call_cases c with mirrored | ⟨button, selected, cover, same⟩
  · exact mirrored.toLabelled
  · rw [same]
    exact ⟨h.valid, h.artist, h.information⟩

/-- Every callback finds and leaves a mirror. -/
theorem Mirrored.call {URL : Type*} (h : m.Mirrored) (c : Callback URL (Artwork Image)) :
    Mirrored (c.call m) := by
  rcases h.toLabelled.call_cases c with mirrored | ⟨button, selected, cover, same⟩
  · exact mirrored
  · rw [same]
    exact ⟨⟨h.valid, h.artist, h.information⟩, h.published⟩

@[simp] theorem stations_correctIndex (m : MainViewController Image) (index : ℤ) :
    (m.correctIndex index).stations = m.stations := by
  unfold MainViewController.correctIndex
  split <;> rfl

@[simp] theorem stations_call {URL : Type*} (m : MainViewController Image)
    (c : Callback URL (Artwork Image)) : (c.call m).stations = m.stations := by
  cases c with
  | artwork player artworkURL =>
    simp only [Callback.call, FRadioPlayerDelegate.artworkDidChange, artworkDidChange]
    cases Artwork.load artworkURL with
    | none => rfl
    | some image => cases m.track <;> rfl
  | _ => rfl

/-- With one station, correcting an index leads back to where the screen was. -/
theorem Labelled.correctIndex_eq (h : m.Labelled) (one : m.stations.length = 1) (index : ℤ) :
    m.correctIndex index = m := by
  have zero : m.selectedIndex = 0 := by have := h.valid; omega
  unfold MainViewController.correctIndex
  split
  · have same : index = m.selectedIndex := by omega
    rw [same]
  · simp [one, ← zero]

end MainViewController

namespace Screen

variable {URL Image : Type} {os : Platform URL} {r : Receiver URL Image}

/-! ## Assignments, taps and callbacks -/

inductive Event (URL Image : Type) where
  /-- `selectedIndex = …`, with the value of the global `radioURL` at that moment -/
  | selectedIndex (index : ℤ) (radioURL : String)
  | playback (e : Playback.Event Image)
  /-- a callback with any arguments -/
  | callback (c : Callback URL (Artwork Image))

def Enabled (r : Receiver URL Image) : Event URL Image → Prop
  | .playback e => Playback.Enabled r e
  | _ => True

def next (os : Platform URL) (r : Receiver URL Image) : Event URL Image → Receiver URL Image
  | .selectedIndex index radioURL => r.setSelectedIndex os radioURL index
  | .playback e => Playback.next os r e
  | .callback c => { r with delegate := c.call r.delegate }

def system (os : Platform URL) : EventSystem (Receiver URL Image) (Event URL Image) Empty where
  enabled := Enabled
  step r e := .ok (next os r e)

/-- The observer of `selectedIndex` corrects the index, lets the player call back, and publishes. -/
theorem setSelectedIndex_calls (os : Platform URL) (r : Receiver URL Image) (radioURL : String)
    (index : ℤ) : ∃ cs : List (Callback URL (Artwork Image)),
      (r.setSelectedIndex os radioURL index).delegate =
        (Callback.calls cs (r.delegate.correctIndex index)).updateNowPlaying
          (Callback.calls cs (r.delegate.correctIndex index)).track := by
  let corrected : Receiver URL Image := ⟨r.player, r.delegate.correctIndex index⟩
  obtain ⟨cs, hcs⟩ := corrected.exists_calls_setRadioURL (os.url radioURL)
  exact ⟨cs, by rw [← hcs]; rfl⟩

/-- The screen has the labels of its track, and the app has its one station. -/
def Labels (m : MainViewController Image) : Prop := m.Labelled ∧ m.stations.length = 1

/-- The screen mirrors its track and the one station. -/
def Mirrors (m : MainViewController Image) : Prop := m.Mirrored ∧ m.stations.length = 1

theorem Labels.call {m : MainViewController Image} (h : Labels m)
    (c : Callback URL (Artwork Image)) : Labels (c.call m) :=
  ⟨h.1.call c, by rw [MainViewController.stations_call]; exact h.2⟩

theorem Mirrors.call {m : MainViewController Image} (h : Mirrors m)
    (c : Callback URL (Artwork Image)) : Mirrors (c.call m) :=
  ⟨h.1.call c, by rw [MainViewController.stations_call]; exact h.2⟩

theorem Mirrors.labels {m : MainViewController Image} (h : Mirrors m) : Labels m :=
  ⟨h.1.toLabelled, h.2⟩

theorem mirrors_invariant : DelegateInvariant fun (_ : FRadioPlayer URL) => @Mirrors Image :=
  Callback.delegateInvariant fun c _ h => h.call c

/-- Whatever the player calls back while the station is selected, publishing comes last. -/
theorem setSelectedIndex_mirrors (h : Labels r.delegate) (radioURL : String) (index : ℤ) :
    Mirrors (r.setSelectedIndex os radioURL index).delegate := by
  obtain ⟨cs, hcs⟩ := setSelectedIndex_calls os r radioURL index
  have corrected : Labels (r.delegate.correctIndex index) :=
    ⟨h.1.correctIndex index, by rw [MainViewController.stations_correctIndex]; exact h.2⟩
  obtain ⟨labelled, one⟩ := Callback.calls_keep (I := Labels) (fun c _ h => h.call c) cs corrected
  rw [hcs]
  exact ⟨labelled.mirrored_updateNowPlaying, one⟩

theorem playTap_mirrors (h : Mirrors r.delegate) (radioURL : String) :
    Mirrors (r.playTap os radioURL).delegate := by
  -- the image on the play button is no part of the mirror
  have button {m : MainViewController Image} (h : Mirrors m) (playButton : PlayImage) :
      Mirrors { m with playButton } :=
    ⟨⟨⟨h.1.valid, h.1.artist, h.1.information⟩, h.1.published⟩, h.2⟩
  unfold Radio.playTap
  split
  · exact button (mirrors_invariant.pause h) .play
  · exact button (mirrors_invariant.togglePlaying
      (setSelectedIndex_mirrors h.labels radioURL 0)) .pause

theorem next_mirrors (h : Mirrors r.delegate) (e : Event URL Image) :
    Mirrors (next os r e).delegate := by
  cases e with
  | selectedIndex index radioURL => exact setSelectedIndex_mirrors h.labels radioURL index
  | playback e =>
    by_cases tap : ∃ radioURL, e = .playTap radioURL
    · obtain ⟨radioURL, rfl⟩ := tap
      exact playTap_mirrors h radioURL
    · exact mirrors_invariant.next h (not_exists.mp tap)
  | callback c => exact h.call c

theorem launch_mirrors (os : Platform URL) (clean : String → String) (image : Image)
    (radioURL : String) : Mirrors (Playback.launch os clean image radioURL).delegate :=
  mirrors_invariant.play (setSelectedIndex_mirrors
    (r := ⟨{ cleanMetadata := clean }, .initial image⟩)
    ⟨MainViewController.labelled_initial image, rfl⟩ radioURL 0)

/-- After any sequence of assignments of any index, taps and callbacks the index is valid and the
screen mirrors the current track and station. So it does in the middle of an assignment, after any
callbacks made since the index was corrected. -/
theorem mirrored_of_exec (os : Platform URL) (clean : String → String) (image : Image)
    (radioURL : String) {es : List (Event URL Image)} {r : Receiver URL Image}
    (run : (system os).Exec (Playback.launch os clean image radioURL) es r) :
    r.delegate.Mirrored ∧ ∀ (index : ℤ) (cs : List (Callback URL (Artwork Image))),
      (Callback.calls cs (r.delegate.correctIndex index)).Mirrored := by
  have mirrors : Mirrors r.delegate := by
    refine run.invariant' (I := fun r => Mirrors r.delegate)
      (launch_mirrors os clean image radioURL) ?_
    rintro s e t h _ ⟨⟩
    exact next_mirrors h e
  refine ⟨mirrors.1, fun index cs => ?_⟩
  rw [mirrors.labels.1.correctIndex_eq mirrors.2]
  exact (Callback.calls_keep (I := Mirrors) (fun c _ h => h.call c) cs mirrors).1

/-- A song is announced, and an index out of range is assigned. -/
theorem mirrored_of_exec_song :
    (next .text (next .text (Playback.launch .text id () "a")
      (.callback (.metadata {} (some "artist") (some "song"))))
      (.selectedIndex (-3) "b")).delegate.Mirrored := by
  have run : (system .text).Exec (Playback.launch .text id () "a")
      [.callback (.metadata {} (some "artist") (some "song")), .selectedIndex (-3) "b"] _ :=
    .cons trivial rfl (.cons trivial rfl (.nil _))
  exact (mirrored_of_exec .text id () "a" run).1

end Screen

end RockRadio
