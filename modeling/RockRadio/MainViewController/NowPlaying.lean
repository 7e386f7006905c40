import RockRadio.AppConstants
import RockRadio.FRadioPlayer.Delegate

/-!
# The player screen

The part of `MainViewController` that shows what is playing: the station and the song, the labels,
the album cover, the play button, and the information published to the system. It is the delegate
of the player.
-/

namespace RockRadio

/-- A station. Its detail text and its address are not read again after it was created. -/
structure Station (Image : Type*) where
  name : String
  image : Option Image
  deriving DecidableEq

structure Track (Image : Type*) where
  artist : Option String := none
  name : Option String := none
  image : Option Image := none
  deriving DecidableEq

/-- The dictionary handed to `MPNowPlayingInfoCenter`, by the keys the code uses. -/
structure NowPlayingInfo (Image : Type*) where
  artist : Option String
  title : Option String
  artwork : Option Image
  deriving DecidableEq

/-- The image set on the play button. -/
inductive PlayImage where
  | play | pause
  deriving DecidableEq, Repr

/-- What comes of an artwork address when `Data(contentsOf:)` and `UIImage(data:)` are applied to
it: no data, data that is not an image, or an image. -/
inductive Artwork (Image : Type*) where
  | unreachable
  | undecodable
  | image (i : Image)
  deriving DecidableEq

namespace Artwork

variable {Image : Type*}

/-- `try? Data(contentsOf: artworkURL)` followed by `UIImage(data: data)`; `none` where the guard
fails. -/
def load : Option (Artwork Image) → Option (Option Image)
  | none | some .unreachable => none
  | some .undecodable => some none
  | some (.image i) => some (some i)

/-- The image found, if it could be decoded. -/
def decoded (a : Option (Artwork Image)) : Option Image := (load a).join

end Artwork

/-- The player screen. A label is the text it shows, which is empty when it is set to `nil`. -/
structure MainViewController (Image : Type*) where
  stations : List (Station Image)
  selectedIndex : ℤ := 0
  track : Option (Track Image) := none
  currentSongLabel : String := ""
  radioInformation : String := ""
  /-- `MPNowPlayingInfoCenter.default().nowPlayingInfo` -/
  nowPlayingInfo : Option (NowPlayingInfo Image) := none
  /-- `albumCoverImage.image` -/
  albumCoverImage : Option Image
  playButton : PlayImage := .play
  playButtonIsSelected : Bool := false
  /-- The blocks `{ self.albumCoverImage.image = image }` waiting on the main queue. -/
  coverUpdates : List Image := []
  deriving DecidableEq

namespace MainViewController

variable {Image : Type*} (m : MainViewController Image)

/-- The screen as the nib shows it: the one station, whose image is also on the cover. -/
def initial (image : Image) : MainViewController Image where
  stations := [⟨appName, some image⟩]
  albumCoverImage := some image

/-- `stations[selectedIndex]`; `none` where Swift would trap on the index. -/
def station : Option (Station Image) :=
  if 0 ≤ m.selectedIndex then m.stations[m.selectedIndex.toNat]? else none

/-- `stations[selectedIndex].image` -/
def stationImage : Option Image := m.station.bind (·.image)

/-- What `selectedIndex.didSet` makes of a new index: the one it keeps, or a valid one. -/
def correctIndex (index : ℤ) : MainViewController Image :=
  if 0 ≤ index ∧ index < m.stations.length then { m with selectedIndex := index }
  else { m with selectedIndex := if index < 0 then m.stations.length - 1 else 0 }

def updateNowPlaying (track : Option (Track Image)) : MainViewController Image :=
  { m with nowPlayingInfo := some {
      artist := track.bind (·.artist)
      title := (track.bind (·.name)).or (m.station.map (·.name))
      artwork := (track.bind (·.image)).or m.stationImage } }

/-- `track = …`, with its `didSet` -/
def setTrack (track : Option (Track Image)) : MainViewController Image :=
  { m with
    track
    currentSongLabel := (track.bind (·.artist)).getD ""
    radioInformation := (track.bind (·.name)).getD "" }.updateNowPlaying track

/-- `nowPlayingInfo[MPMediaItemPropertyArtwork]`, as published -/
def publishedArtwork : Option Image := m.nowPlayingInfo.bind (·.artwork)

/-- The request handler of the published artwork: it returns the image and has it shown on the
cover by a block on the main queue. -/
def requestArtwork : MainViewController Image :=
  match m.publishedArtwork with
  | none => m
  | some image => { m with coverUpdates := m.coverUpdates ++ [image] }

@[simp] theorem playButton_correctIndex (index : ℤ) :
    (m.correctIndex index).playButton = m.playButton := by
  unfold correctIndex; split <;> rfl

@[simp] theorem playButton_updateNowPlaying (track : Option (Track Image)) :
    (m.updateNowPlaying track).playButton = m.playButton := rfl

@[simp] theorem playButton_setTrack (track : Option (Track Image)) :
    (m.setTrack track).playButton = m.playButton := rfl

/-- The main queue runs the first of these blocks. -/
def runCoverUpdate : MainViewController Image :=
  match m.coverUpdates with
  | [] => m
  | image :: images => { m with albumCoverImage := some image, coverUpdates := images }

/-! ## The delegate methods -/

/-- `radioPlayer(_:playbackStateDidChange:)` -/
def playbackStateDidChange {URL : Type*} (player : FRadioPlayer URL) : MainViewController Image :=
  { m with
    playButtonIsSelected := player.isPlaying
    playButton := if player.isPlaying then .pause else .play }

/-- `radioPlayer(_:metadataDidChange:trackName:)` -/
def metadataDidChange (artistName trackName : Option String) : MainViewController Image :=
  m.setTrack (some { artist := artistName, name := trackName })

/-- `radioPlayer(_:itemDidChange:)` -/
def itemDidChange : MainViewController Image := m.setTrack none

/-- `radioPlayer(_:artworkDidChange:)`. Without a track, `track?.image = …` assigns nothing. -/
def artworkDidChange (artworkURL : Option (Artwork Image)) : MainViewController Image :=
  match Artwork.load artworkURL with
  | none => { m with albumCoverImage := m.stationImage }
  | some image =>
    let m :=
      match m.track with
      | none => m
      | some track => m.setTrack (some { track with image })
    let m := { m with albumCoverImage := m.track.bind (·.image) }
    m.updateNowPlaying m.track

@[simp] theorem playButton_artworkDidChange (artworkURL : Option (Artwork Image)) :
    (m.artworkDidChange artworkURL).playButton = m.playButton := by
  unfold artworkDidChange
  cases Artwork.load artworkURL with
  | none => rfl
  | some image => cases m.track <;> rfl

theorem stationImage_artworkDidChange (artworkURL : Option (Artwork Image)) :
    (m.artworkDidChange artworkURL).stationImage = m.stationImage := by
  simp only [artworkDidChange]
  cases Artwork.load artworkURL with
  | none => rfl
  | some image => cases m.track <;> rfl

instance {URL : Type*} : FRadioPlayerDelegate (MainViewController Image) URL (Artwork Image) where
  playerStateDidChange _ _ m := m
  playbackStateDidChange player _ m := m.playbackStateDidChange player
  itemDidChange _ _ m := m.itemDidChange
  metadataDidChange _ artistName trackName m := m.metadataDidChange artistName trackName
  rawMetadataDidChange _ _ m := m
  artworkDidChange _ artworkURL m := m.artworkDidChange artworkURL

end MainViewController

end RockRadio
