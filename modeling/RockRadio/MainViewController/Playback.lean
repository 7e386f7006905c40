import RockRadio.FRadioPlayer.Settled
import RockRadio.Library.EventSystem
import RockRadio.MainViewController.NowPlaying
import RockRadio.Platform

/-!
# Playing the station

The methods of `MainViewController` that drive the player, and the system they form with the
events that reach it: taps on the play button, remote commands, interruptions, and the ends of the
loads and lookups under way. The global `radioURL` belongs to the rest of the app, so a tap brings
along its value at that moment.
-/

namespace RockRadio

/-- The player with its screen. -/
abbrev Receiver (URL Image : Type) := Radio URL (MainViewController Image)

namespace Radio

variable {URL Image : Type} (os : Platform URL) (r : Receiver URL Image)

/-- `selectStation(at:)`; the position is not used. -/
def selectStation (radioURL : String) : Receiver URL Image :=
  r.setRadioURL (os.url radioURL)

/-- `selectedIndex = …`, with its `didSet`: an index out of range is corrected before the deferred
block runs. -/
def setSelectedIndex (radioURL : String) (index : ℤ) : Receiver URL Image :=
  let r : Receiver URL Image := { r with delegate := r.delegate.correctIndex index }
  let r : Receiver URL Image := r.selectStation os radioURL
  { r with delegate := r.delegate.updateNowPlaying r.delegate.track }

/-- The part of `viewDidLoad` that is about the player. -/
def viewDidLoad (radioURL : String) : Receiver URL Image :=
  (r.setSelectedIndex os radioURL 0).play

def playTap (radioURL : String) : Receiver URL Image :=
  if r.player.isPlaying then { r.pause with delegate.playButton := .play }
  else
    { (r.setSelectedIndex os radioURL 0).togglePlaying with delegate.playButton := .pause }

/-- The handler added to `playCommand`. -/
def remotePlay : Receiver URL Image :=
  if r.player.rate = some 0 then r.play else r

/-- The handler added to `pauseCommand`. -/
def remotePause : Receiver URL Image :=
  if r.player.rate = some 1 then r.pause else r

end Radio

namespace Playback

variable {URL Image : Type}

/-- What can happen to the player after `viewDidLoad`. -/
inductive Event (Image : Type) where
  | playTap (radioURL : String)
  /-- the commands of the remote command center -/
  | remotePlay
  | remotePause
  /-- the events passed to `remoteControlReceived` -/
  | remoteControlPlay
  | remoteControlPause
  | remoteControlTogglePlayPause
  | interruptionBegan
  | interruptionEnded (shouldResume : Bool)
  /-- the headphones are unplugged: `headphonesConnected` is false whenever it is read -/
  | oldDeviceUnavailable
  /-- the system changes the rate of the `AVPlayer` by itself -/
  | rateDidChange (rate : ℚ)
  | loadValues (i : ℕ) (isPlayable : Bool)
  | metadataOutput (value : Option String)
  | artworkFound (i : ℕ) (artworkURL : Option (Artwork Image))

/-- The event asks the player to play what it has. -/
def Event.Plays : Event Image → Prop
  | .remotePlay | .remoteControlPlay | .remoteControlTogglePlayPause => True
  | .interruptionEnded shouldResume => shouldResume = true
  | _ => False

/-- A load or a lookup can only end while it is outstanding. -/
def Enabled (r : Receiver URL Image) : Event Image → Prop
  | .loadValues i _ => i < r.player.loads.length
  | .artworkFound i _ => i < r.player.lookups.length
  | _ => True

instance (r : Receiver URL Image) (e : Event Image) : Decidable (Enabled r e) := by
  cases e <;> unfold Enabled <;> infer_instance

def next (os : Platform URL) (r : Receiver URL Image) : Event Image → Receiver URL Image
  | .playTap radioURL => r.playTap os radioURL
  | .remotePlay => r.remotePlay
  | .remotePause => r.remotePause
  | .remoteControlPlay => r.play
  | .remoteControlPause => r.pause
  | .remoteControlTogglePlayPause => r.togglePlaying
  | .interruptionBegan => r.pause
  | .interruptionEnded shouldResume => if shouldResume then r.play else r.pause
  | .oldDeviceUnavailable => r.pause
  | .rateDidChange rate =>
    { r with player.player := r.player.player.map fun (av : AVPlayer URL) => { av with rate } }
  | .loadValues i isPlayable => r.loadValues i isPlayable
  | .metadataOutput value => r.metadataOutput value
  | .artworkFound i artworkURL => r.artworkFound i artworkURL

/-- The player under these events. Nothing here can trap. -/
def system (os : Platform URL) : EventSystem (Receiver URL Image) (Event Image) Empty where
  enabled := Enabled
  step r e := .ok (next os r e)

instance (os : Platform URL) (r : Receiver URL Image) (e : Event Image) :
    Decidable ((system os).enabled r e) :=
  inferInstanceAs (Decidable (Enabled r e))

/-- The state right after `viewDidLoad`, with the given value of the global `radioURL`. -/
def launch (os : Platform URL) (clean : String → String) (image : Image) (radioURL : String) :
    Receiver URL Image :=
  Radio.viewDidLoad os ⟨{ cleanMetadata := clean }, .initial image⟩ radioURL

end Playback

/-- What the silent callbacks keep is kept by every event but a tap, if it is kept by what the event
announces. -/
theorem SilentInvariant.next {URL Image : Type}
    {R : FRadioPlayer URL → MainViewController Image → Prop} (hR : SilentInvariant R)
    {os : Platform URL} {r : Receiver URL Image} {e : Playback.Event Image} (h : r.Holds R)
    (notTap : ∀ radioURL, e ≠ .playTap radioURL)
    (announced : ∀ value, e = .metadataOutput value → (r.timedMetadataDidChange value).Holds R) :
    (Playback.next os r e).Holds R := by
  have play := hR.play h
  have pause := hR.pause h
  cases e with
  | playTap radioURL => exact absurd rfl (notTap radioURL)
  | remotePlay => simp only [Playback.next, Radio.remotePlay]; split <;> [exact play; exact h]
  | remotePause => simp only [Playback.next, Radio.remotePause]; split <;> [exact pause; exact h]
  | remoteControlPlay => exact play
  | remoteControlPause => exact pause
  | remoteControlTogglePlayPause => exact hR.togglePlaying h
  | interruptionBegan => exact pause
  | interruptionEnded shouldResume => cases shouldResume <;> [exact pause; exact play]
  | oldDeviceUnavailable => exact pause
  | rateDidChange rate => exact hR.update h rfl rfl
  | loadValues i isPlayable => exact hR.loadValues h i isPlayable
  | metadataOutput value => exact announced value rfl
  | artworkFound i url => exact hR.artworkFound h i url

/-- What the callbacks keep is kept by every event but a tap. -/
theorem DelegateInvariant.next {URL Image : Type}
    {R : FRadioPlayer URL → MainViewController Image → Prop} (hR : DelegateInvariant R)
    {os : Platform URL} {r : Receiver URL Image} {e : Playback.Event Image} (h : r.Holds R)
    (notTap : ∀ radioURL, e ≠ .playTap radioURL) : (Playback.next os r e).Holds R :=
  hR.silent.next h notTap fun value _ => hR.timedMetadataDidChange h value

/-! ## The deck under these events -/

namespace Radio

variable {URL Image : Type} (os : Platform URL) {r : Receiver URL Image}

theorem selectStation_settled (h : r.player.Settled) (radioURL : String) :
    (r.selectStation os radioURL).player.Settled ∧
      (r.selectStation os radioURL).player.deck = r.player.deck.select (os.url radioURL) :=
  setRadioURL_settled h _

theorem setSelectedIndex_settled (h : r.player.Settled) (radioURL : String) (index : ℤ) :
    (r.setSelectedIndex os radioURL index).player.Settled ∧
      (r.setSelectedIndex os radioURL index).player.deck =
        r.player.deck.select (os.url radioURL) := by
  unfold setSelectedIndex
  exact selectStation_settled os (r := ⟨r.player, r.delegate.correctIndex index⟩) h radioURL

theorem togglePlaying_settled (h : r.player.Settled) :
    r.togglePlaying.player.Settled ∧ r.togglePlaying.player.deck =
      if r.player.isPlaying then r.player.deck.pause else r.player.deck.play := by
  unfold togglePlaying
  split
  · exact pause_settled h
  · exact play_settled h

/-- Playing right after selecting has no effect: nothing is loaded yet. -/
theorem select_play (d : Deck URL) (m : Option URL) : (d.select m).play = d.select m := rfl

theorem viewDidLoad_settled (h : r.player.Settled) (radioURL : String) :
    (r.viewDidLoad os radioURL).player.Settled ∧
      (r.viewDidLoad os radioURL).player.deck = r.player.deck.select (os.url radioURL) := by
  obtain ⟨settled, hdeck⟩ := setSelectedIndex_settled os h radioURL 0
  obtain ⟨settled', hdeck'⟩ := play_settled settled
  exact ⟨settled', by rw [viewDidLoad, hdeck', hdeck, select_play]⟩

/-- A tap pauses what plays; otherwise it selects the station anew, and the toggle after that
finds nothing to play. -/
theorem playTap_settled (h : r.player.Settled) (radioURL : String) :
    (r.playTap os radioURL).player.Settled ∧ (r.playTap os radioURL).player.deck =
      if r.player.isPlaying then r.player.deck.pause
      else r.player.deck.select (os.url radioURL) := by
  unfold playTap
  cases hp : r.player.isPlaying with
  | true => simpa using pause_settled h
  | false =>
    obtain ⟨settled, hdeck⟩ := setSelectedIndex_settled os h radioURL 0
    obtain ⟨settled', hdeck'⟩ := togglePlaying_settled settled
    have quiet : (r.setSelectedIndex os radioURL 0).player.isPlaying = false := by
      rw [← settled.deck_playing, hdeck]; rfl
    refine ⟨settled', ?_⟩
    simp only [Bool.false_eq_true, if_false]
    rw [hdeck', quiet, hdeck, if_neg (by simp), select_play]

end Radio

namespace Playback

variable {URL Image : Type}

/-- What an event does to the deck. A remote command may be refused because of the rate. -/
inductive DeckStep (os : Platform URL) (d : Deck URL) : Event Image → Deck URL → Prop where
  | tapPlaying (radioURL : String) : d.playing = true → DeckStep os d (.playTap radioURL) d.pause
  | tap (radioURL : String) : d.playing = false →
      DeckStep os d (.playTap radioURL) (d.select (os.url radioURL))
  | play {e : Event Image} : e.Plays → DeckStep os d e d.play
  | pause {e : Event Image} : (∀ radioURL, e ≠ .playTap radioURL) → DeckStep os d e d.pause
  | load (i : ℕ) (isPlayable : Bool) :
      DeckStep os d (.loadValues i isPlayable) (d.finish i isPlayable)
  | skip {e : Event Image} : (∀ radioURL, e ≠ .playTap radioURL) →
      (∀ i isPlayable, e ≠ .loadValues i isPlayable) → DeckStep os d e d

/-- Every event keeps the player settled and makes a step of the deck. -/
theorem next_settled (os : Platform URL) {r : Receiver URL Image} (h : r.player.Settled)
    (e : Event Image) :
    (next os r e).player.Settled ∧ DeckStep os r.player.deck e (next os r e).player.deck := by
  have play := Radio.play_settled h
  have pause := Radio.pause_settled h
  cases e with
  | playTap radioURL =>
    obtain ⟨settled, hdeck⟩ := Radio.playTap_settled os h radioURL
    refine ⟨settled, ?_⟩
    simp only [next, hdeck, ← h.deck_playing]
    split_ifs with hp
    · exact .tapPlaying radioURL hp
    · exact .tap radioURL (eq_false_of_ne_true hp)
  | remotePlay =>
    simp only [next, Radio.remotePlay]
    split
    · exact ⟨play.1, play.2 ▸ .play trivial⟩
    · exact ⟨h, .skip nofun nofun⟩
  | remotePause =>
    simp only [next, Radio.remotePause]
    split
    · exact ⟨pause.1, pause.2 ▸ .pause nofun⟩
    · exact ⟨h, .skip nofun nofun⟩
  | remoteControlPlay => exact ⟨play.1, play.2 ▸ .play trivial⟩
  | remoteControlPause => exact ⟨pause.1, pause.2 ▸ .pause nofun⟩
  | remoteControlTogglePlayPause =>
    obtain ⟨settled, hdeck⟩ := Radio.togglePlaying_settled h
    refine ⟨settled, ?_⟩
    simp only [next, hdeck]
    split
    · exact .pause nofun
    · exact .play trivial
  | interruptionBegan => exact ⟨pause.1, pause.2 ▸ .pause nofun⟩
  | interruptionEnded shouldResume =>
    cases shouldResume with
    | true => exact ⟨play.1, play.2 ▸ .play rfl⟩
    | false => exact ⟨pause.1, pause.2 ▸ .pause nofun⟩
  | oldDeviceUnavailable => exact ⟨pause.1, pause.2 ▸ .pause nofun⟩
  | rateDidChange rate =>
    refine ⟨{ h with wired := ?_, current := ?_ }, .skip nofun nofun⟩
    · simpa [next] using h.wired
    · simpa [next] using h.current
  | loadValues i isPlayable =>
    obtain ⟨settled, hdeck⟩ := Radio.loadValues_settled h i isPlayable
    exact ⟨settled, hdeck ▸ .load i isPlayable⟩
  | metadataOutput value =>
    obtain ⟨settled, hdeck⟩ := Radio.timedMetadataDidChange_settled h value
    exact ⟨settled, hdeck ▸ .skip nofun nofun⟩
  | artworkFound i url => exact ⟨{ h with }, .skip nofun nofun⟩

end Playback

end RockRadio
