import Mathlib.Data.Rat.Defs
import Mathlib.Data.Option.Basic

/-!
# The radio player and its delegate

`FRadioPlayer` wraps an `AVPlayer`. Assigning `radioURL` throws the current item away and starts
to load the new one; a load is never cancelled, so several can be outstanding, and each one that
succeeds installs its item and plays it. The delegate is called synchronously, in the middle of
these operations.

A `Radio` is a player together with its delegate, of any type with the methods of the protocol.
-/

namespace RockRadio

inductive FRadioPlaybackState where
  | playing | paused | stopped
  deriving DecidableEq, Repr

inductive FRadioPlayerState where
  | urlNotSet | readyToPlay | loading | loadingFinished | error
  deriving DecidableEq, Repr

/-- `AVPlayerItem`: two items are the same object when they have the same serial number. -/
structure AVPlayerItem (URL : Type*) where
  serial : ℕ
  url : URL

/-- `AVPlayer`: its rate, which the system may change at any time, and its item. -/
structure AVPlayer (URL : Type*) where
  rate : ℚ := 0
  currentItem : Option (AVPlayerItem URL) := none

structure FRadioPlayer (URL : Type*) where
  radioURL : Option URL := none
  isAutoPlay : Bool := true
  enableArtwork : Bool := true
  state : FRadioPlayerState := .urlNotSet
  playbackState : FRadioPlaybackState := .stopped
  player : Option (AVPlayer URL) := none
  lastPlayerItem : Option (AVPlayerItem URL) := none
  playerItem : Option (AVPlayerItem URL) := none
  /-- The player items created so far; the next one gets this serial number. -/
  items : ℕ := 0
  /-- The assets whose `loadValuesAsynchronously` has not called back yet. -/
  loads : List URL := []
  /-- The metadata whose artwork lookup has not called back yet. -/
  lookups : List String := []
  /-- What the regular expression in `cleanMetadata` leaves of a raw value. -/
  cleanMetadata : String → String := id

namespace FRadioPlayer

variable {URL : Type*} (p : FRadioPlayer URL)

def isPlaying : Bool :=
  match p.playbackState with
  | .playing => true
  | .stopped | .paused => false

def rate : Option ℚ := p.player.map (·.rate)

theorem isPlaying_iff : p.isPlaying = true ↔ p.playbackState = .playing := by
  unfold isPlaying; cases p.playbackState <;> simp

theorem isPlaying_congr {p q : FRadioPlayer URL} (same : q.playbackState = p.playbackState) :
    q.isPlaying = p.isPlaying := by
  unfold isPlaying; rw [same]

end FRadioPlayer

/-- The protocol of the delegate. An artwork address is only ever passed on to the delegate. -/
class FRadioPlayerDelegate (δ URL : Type*) (Artwork : outParam (Type*)) where
  playerStateDidChange (player : FRadioPlayer URL) (state : FRadioPlayerState) (self : δ) : δ
  playbackStateDidChange (player : FRadioPlayer URL) (state : FRadioPlaybackState) (self : δ) : δ
  itemDidChange (player : FRadioPlayer URL) (url : Option URL) (self : δ) : δ
  metadataDidChange (player : FRadioPlayer URL) (artistName trackName : Option String)
    (self : δ) : δ
  rawMetadataDidChange (player : FRadioPlayer URL) (rawValue : Option String) (self : δ) : δ
  artworkDidChange (player : FRadioPlayer URL) (artworkURL : Option Artwork) (self : δ) : δ

/-- A player and its delegate. -/
structure Radio (URL δ : Type*) where
  player : FRadioPlayer URL
  delegate : δ

namespace Radio

variable {URL Artwork δ : Type*} [FRadioPlayerDelegate δ URL Artwork] (r : Radio URL δ)

/-- Call a delegate method. -/
def notify (method : FRadioPlayer URL → δ → δ) : Radio URL δ :=
  { r with delegate := method r.player r.delegate }

/-- `state = …`, with its `didSet` -/
def setState (state : FRadioPlayerState) : Radio URL δ :=
  if r.player.state = state then r
  else
    { r with player.state := state }.notify
      (FRadioPlayerDelegate.playerStateDidChange · state)

/-- `playbackState = …`, with its `didSet` -/
def setPlaybackState (state : FRadioPlaybackState) : Radio URL δ :=
  if r.player.playbackState = state then r
  else
    { r with player.playbackState := state }.notify
      (FRadioPlayerDelegate.playbackStateDidChange · state)

def play : Radio URL δ :=
  match r.player.player with
  | none => r
  | some av =>
    -- an item is put back only where there is none
    let av := { av with currentItem := av.currentItem.or r.player.playerItem }
    { r with player.player := some { av with rate := 1 } }.setPlaybackState .playing

def pause : Radio URL δ :=
  match r.player.player with
  | none => r
  | some av => { r with player.player := some { av with rate := 0 } }.setPlaybackState .paused

def togglePlaying : Radio URL δ :=
  if r.player.isPlaying then r.pause else r.play

def shouldGetArtwork (rawValue : Option String) : Radio URL δ :=
  if r.player.enableArtwork then
    match rawValue with
    | none => r.notify (FRadioPlayerDelegate.artworkDidChange · none)
    | some raw => { r with player.lookups := r.player.lookups ++ [raw] }
  else r

def timedMetadataDidChange (rawValue : Option String) : Radio URL δ :=
  let parts := rawValue.map fun raw => (r.player.cleanMetadata raw).splitOn " - "
  let r := r.notify
    (FRadioPlayerDelegate.metadataDidChange · (parts.bind (·.head?)) (parts.bind (·.getLast?)))
  let r := r.notify (FRadioPlayerDelegate.rawMetadataDidChange · rawValue)
  r.shouldGetArtwork rawValue

def stop : Radio URL δ :=
  match r.player.player with
  | none => r
  | some av =>
    let r := r.setPlaybackState .stopped
    let r := { r with player.player := some { av with currentItem := none } }
    r.timedMetadataDidChange none

def playerItemDidChange : Radio URL δ :=
  if r.player.lastPlayerItem.map (·.serial) = r.player.playerItem.map (·.serial) then r
  else
    let r := if r.player.lastPlayerItem.isSome then r.pause else r
    let r := { r with player.lastPlayerItem := r.player.playerItem }
    let r := r.timedMetadataDidChange none
    let r :=
      match r.player.playerItem with
      | none => r
      | some item =>
        let av := r.player.player.map fun (av : AVPlayer URL) =>
          { av with currentItem := some item }
        let r := { r with player.player := av }
        if r.player.isAutoPlay then r.play else r
    r.notify fun p => FRadioPlayerDelegate.itemDidChange p p.radioURL

/-- `playerItem = …`, with its `didSet` -/
def setPlayerItem (item : Option (AVPlayerItem URL)) : Radio URL δ :=
  { r with player.playerItem := item }.playerItemDidChange

def resetPlayer : Radio URL δ :=
  let r := r.stop
  let r := r.setPlayerItem none
  { r with player.lastPlayerItem := none, player.player := none }

def radioURLDidChange (url : Option URL) : Radio URL δ :=
  let r := r.resetPlayer
  match url with
  | none => r.setState .urlNotSet
  | some url =>
    let r := r.setState .loading
    { r with player.loads := r.player.loads ++ [url] }

/-- `radioURL = …`, with its `didSet` -/
def setRadioURL (url : Option URL) : Radio URL δ :=
  { r with player.radioURL := url }.radioURLDidChange url

def setupPlayer (asset : URL) : Radio URL δ :=
  let r := { r with player.player := some (r.player.player.getD ({} : AVPlayer URL)) }
  let item : AVPlayerItem URL := ⟨r.player.items, asset⟩
  let r := { r with player.items := r.player.items + 1 }
  r.setPlayerItem (some item)

/-- The completion handler of `preparePlayer` for the `i`-th outstanding load. -/
def loadValues (i : ℕ) (isPlayable : Bool) : Radio URL δ :=
  match r.player.loads[i]? with
  | none => r
  | some asset =>
    let r := { r with player.loads := r.player.loads.eraseIdx i }
    if isPlayable then r.setupPlayer asset
    else r.resetPlayer.setState .error

/-- The answer to the `i`-th outstanding artwork lookup. -/
def artworkFound (i : ℕ) (artworkURL : Option Artwork) : Radio URL δ :=
  { r with player.lookups := r.player.lookups.eraseIdx i }.notify
    (FRadioPlayerDelegate.artworkDidChange · artworkURL)

/-- The metadata output pushes the first value of its first group. -/
def metadataOutput (value : Option String) : Radio URL δ :=
  r.timedMetadataDidChange value

end Radio

end RockRadio
