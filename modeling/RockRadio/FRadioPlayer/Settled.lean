import RockRadio.FRadioPlayer.Basic
import RockRadio.Library.Deck

/-!
# The player is a deck

Between two operations the player's several copies of "the current item" agree. In such a settled
state the player is a `Deck`, and each operation does to it what the deck operation of that name
does, whatever the delegate makes of the callbacks.
-/

namespace RockRadio

variable {URL Artwork δ : Type*}

namespace FRadioPlayer

/-- What holds of the player between two operations. -/
structure Settled (p : FRadioPlayer URL) : Prop where
  autoPlay : p.isAutoPlay = true
  last : p.lastPlayerItem = p.playerItem
  fresh : ∀ item ∈ p.playerItem, item.serial < p.items
  wired : p.player.isSome = p.playerItem.isSome
  current : ∀ av ∈ p.player, av.currentItem = p.playerItem
  playing : p.isPlaying = true → p.playerItem.isSome = true

/-- The player as a deck. -/
def deck (p : FRadioPlayer URL) : Deck URL where
  item := p.playerItem.map (·.url)
  playing := p.isPlaying && p.playerItem.isSome
  loads := p.loads
  backed := by simp

@[simp] theorem deck_loads (p : FRadioPlayer URL) : p.deck.loads = p.loads := rfl

theorem Settled.player_eq_none_iff {p : FRadioPlayer URL} (h : p.Settled) :
    p.player = none ↔ p.playerItem = none := by
  rw [← Option.not_isSome_iff_eq_none, h.wired, Option.not_isSome_iff_eq_none]

/-- Where there is a system player, there is an item. -/
theorem Settled.isSome_playerItem {p : FRadioPlayer URL} (h : p.Settled) {av : AVPlayer URL}
    (hav : p.player = some av) : p.playerItem.isSome = true := by
  rw [← h.wired, hav]
  rfl

theorem Settled.deck_playing {p : FRadioPlayer URL} (h : p.Settled) :
    p.deck.playing = p.isPlaying := by
  change (p.isPlaying && p.playerItem.isSome) = p.isPlaying
  cases hp : p.isPlaying with
  | false => rfl
  | true => exact h.playing hp

/-- The address of the item the system player holds. -/
def currentURL (p : FRadioPlayer URL) : Option URL :=
  (p.player.bind (·.currentItem)).map (·.url)

theorem Settled.currentURL_eq {p : FRadioPlayer URL} (h : p.Settled) :
    p.currentURL = p.deck.item := by
  change (p.player.bind (·.currentItem)).map (·.url) = p.playerItem.map (·.url)
  cases hp : p.player with
  | none => rw [h.player_eq_none_iff.mp hp, Option.bind_none]
  | some av => simp [h.current av hp]

/-- A player that was just created. -/
theorem settled_init (clean : String → String) :
    ({ cleanMetadata := clean } : FRadioPlayer URL).Settled where
  autoPlay := rfl
  last := rfl
  fresh := nofun
  wired := rfl
  current := nofun
  playing := nofun

end FRadioPlayer

namespace Radio

variable [FRadioPlayerDelegate δ URL Artwork] (r : Radio URL δ)

/-! ## What the operations do to the player -/

@[simp] theorem player_notify (method : FRadioPlayer URL → δ → δ) :
    (r.notify method).player = r.player := rfl

@[simp] theorem player_setState (state : FRadioPlayerState) :
    (r.setState state).player = { r.player with state := state } := by
  unfold setState
  split
  · rename_i same; rw [← same]
  · rfl

@[simp] theorem player_setPlaybackState (state : FRadioPlaybackState) :
    (r.setPlaybackState state).player = { r.player with playbackState := state } := by
  unfold setPlaybackState
  split
  · rename_i same; rw [← same]
  · rfl

@[simp] theorem player_timedMetadataDidChange_none :
    (r.timedMetadataDidChange none).player = r.player := by
  simp only [timedMetadataDidChange, shouldGetArtwork]
  split <;> rfl

theorem play_of_none (h : r.player.player = none) : r.play = r := by
  unfold play; rw [h]

theorem pause_of_none (h : r.player.player = none) : r.pause = r := by
  unfold pause; rw [h]

theorem stop_of_none (h : r.player.player = none) : r.stop = r := by
  unfold stop; rw [h]

/-- An empty player has nothing to reset. -/
theorem resetPlayer_of_none (h : r.player.Settled) (noItem : r.player.playerItem = none) :
    r.resetPlayer = r := by
  have none : r.player.player = none := h.player_eq_none_iff.mpr noItem
  have last : r.player.lastPlayerItem = Option.none := h.last.trans noItem
  obtain ⟨⟨⟩, d⟩ := r
  cases none
  cases noItem
  cases last
  rfl

theorem player_play {av : AVPlayer URL} (h : r.player.player = some av) :
    r.play.player = { r.player with
      player := some { rate := 1, currentItem := av.currentItem.or r.player.playerItem },
      playbackState := .playing } := by
  unfold play; rw [h]; simp

theorem player_pause {av : AVPlayer URL} (h : r.player.player = some av) :
    r.pause.player = { r.player with
      player := some { av with rate := 0 }, playbackState := .paused } := by
  unfold pause; rw [h]; simp

theorem player_stop {av : AVPlayer URL} (h : r.player.player = some av) :
    r.stop.player = { r.player with
      player := some { av with currentItem := none }, playbackState := .stopped } := by
  unfold stop; rw [h]; simp

/-- Dropping the current item pauses the system player on the way. -/
theorem player_setPlayerItem_none {av : AVPlayer URL} {item : AVPlayerItem URL}
    (hav : r.player.player = some av) (hlast : r.player.lastPlayerItem = some item) :
    (r.setPlayerItem none).player = { r.player with
      player := some { av with rate := 0 }, playbackState := .paused
      lastPlayerItem := none, playerItem := none } := by
  obtain ⟨⟨⟩, d⟩ := r
  cases hav
  cases hlast
  simp [setPlayerItem, playerItemDidChange, pause]

/-- A new item is installed and played. -/
theorem player_setPlayerItem_some {av : AVPlayer URL} {item : AVPlayerItem URL}
    (hav : r.player.player = some av) (auto : r.player.isAutoPlay = true)
    (new : r.player.lastPlayerItem.map (·.serial) ≠ some item.serial) :
    (r.setPlayerItem (some item)).player = { r.player with
      player := some { rate := 1, currentItem := some item }, playbackState := .playing
      lastPlayerItem := some item, playerItem := some item } := by
  obtain ⟨⟨_, _, _, _, _, _, last⟩, d⟩ := r
  cases hav
  cases auto
  cases last with
  | none => simp [setPlayerItem, playerItemDidChange, play]
  | some last =>
    have other : last.serial ≠ item.serial := fun same => new (congrArg some same)
    simp [setPlayerItem, playerItemDidChange, pause, play, other]

/-- A reset leaves no item and does not play; loads under way are not touched. -/
theorem player_resetPlayer (h : r.player.Settled) :
    ∃ state, state ≠ .playing ∧ r.resetPlayer.player = { r.player with
      playbackState := state, player := none, lastPlayerItem := none, playerItem := none } := by
  cases hav : r.player.player with
  | none =>
    have noItem := h.player_eq_none_iff.mp hav
    have noLast : r.player.lastPlayerItem = none := h.last.trans noItem
    refine ⟨r.player.playbackState, fun playing => ?_, ?_⟩
    · simpa [noItem] using h.playing (r.player.isPlaying_iff.mpr playing)
    · simp [resetPlayer, stop_of_none r hav, setPlayerItem, playerItemDidChange, noLast]
  | some av =>
    obtain ⟨item, hitem⟩ := Option.isSome_iff_exists.mp (h.isSome_playerItem hav)
    have stopped := player_stop r hav
    have hav' : r.stop.player.player = some { av with currentItem := none } := by rw [stopped]
    have hlast : r.stop.player.lastPlayerItem = some item := by rw [stopped, ← hitem, ← h.last]
    refine ⟨.paused, nofun, ?_⟩
    simp only [resetPlayer]
    rw [player_setPlayerItem_none r.stop hav' hlast, stopped]

/-- A load that succeeded puts its item in place and plays it. -/
theorem player_setupPlayer (h : r.player.Settled) (asset : URL) :
    (r.setupPlayer asset).player = { r.player with
      player := some { rate := 1, currentItem := some ⟨r.player.items, asset⟩ }
      playbackState := .playing, items := r.player.items + 1
      lastPlayerItem := some ⟨r.player.items, asset⟩
      playerItem := some ⟨r.player.items, asset⟩ } := by
  have new : r.player.lastPlayerItem.map (·.serial) ≠ some r.player.items := by
    intro same
    obtain ⟨item, hitem, hserial⟩ := Option.map_eq_some_iff.mp same
    have := h.fresh item (h.last ▸ hitem)
    omega
  unfold setupPlayer
  exact player_setPlayerItem_some _ rfl h.autoPlay new

/-! ## What the operations do to the deck -/

section Deck

variable {r}

/-- Without a system player there is nothing to play: the deck is empty. -/
theorem deck_of_none (h : r.player.Settled) (none : r.player.player = none) :
    r.player.deck.item = Option.none ∧ r.player.deck.playing = false := by
  have noItem := h.player_eq_none_iff.mp none
  simp [FRadioPlayer.deck, noItem]

theorem play_settled (h : r.player.Settled) :
    r.play.player.Settled ∧ r.play.player.deck = r.player.deck.play := by
  cases hav : r.player.player with
  | none =>
    obtain ⟨noItem, quiet⟩ := deck_of_none h hav
    rw [play_of_none r hav]
    exact ⟨h, by ext1 <;> simp [Deck.play, noItem, quiet]⟩
  | some av =>
    have item := h.isSome_playerItem hav
    rw [player_play r hav]
    refine ⟨{ h with wired := ?_, current := ?_, playing := ?_ }, ?_⟩
    · simp [item]
    · simp [h.current av hav]
    · simp [item]
    · simp [FRadioPlayer.deck, Deck.play, FRadioPlayer.isPlaying, item]

theorem pause_settled (h : r.player.Settled) :
    r.pause.player.Settled ∧ r.pause.player.deck = r.player.deck.pause := by
  cases hav : r.player.player with
  | none =>
    obtain ⟨noItem, quiet⟩ := deck_of_none h hav
    rw [pause_of_none r hav]
    exact ⟨h, by ext1 <;> simp [Deck.pause, noItem, quiet]⟩
  | some av =>
    have item := h.isSome_playerItem hav
    rw [player_pause r hav]
    refine ⟨{ h with wired := ?_, current := ?_, playing := ?_ }, ?_⟩
    · simp [item]
    · simp [h.current av hav]
    · simp [item]
    · simp [FRadioPlayer.deck, Deck.pause, FRadioPlayer.isPlaying]

theorem resetPlayer_settled (h : r.player.Settled) :
    r.resetPlayer.player.Settled ∧ r.resetPlayer.player.deck = r.player.deck.select none := by
  obtain ⟨state, notPlaying, reset⟩ := player_resetPlayer r h
  rw [reset]
  refine ⟨⟨h.autoPlay, rfl, nofun, rfl, nofun, ?_⟩, ?_⟩
  · simp [FRadioPlayer.isPlaying_iff, notPlaying]
  · simp [FRadioPlayer.deck, Deck.select]

theorem setState_settled (h : r.player.Settled) (state : FRadioPlayerState) :
    (r.setState state).player.Settled ∧ (r.setState state).player.deck = r.player.deck := by
  rw [player_setState]
  exact ⟨{ h with }, rfl⟩

theorem timedMetadataDidChange_settled (h : r.player.Settled) (value : Option String) :
    (r.timedMetadataDidChange value).player.Settled ∧
      (r.timedMetadataDidChange value).player.deck = r.player.deck := by
  cases value with
  | none => simpa using h
  | some raw =>
    simp only [timedMetadataDidChange, shouldGetArtwork]
    split
    · exact ⟨{ h with }, rfl⟩
    · exact ⟨h, rfl⟩

/-- Assigning `radioURL` selects. -/
theorem setRadioURL_settled (h : r.player.Settled) (url : Option URL) :
    (r.setRadioURL url).player.Settled ∧
      (r.setRadioURL url).player.deck = r.player.deck.select url := by
  obtain ⟨reset, hreset⟩ :=
    resetPlayer_settled (r := { r with player.radioURL := url }) { h with }
  cases url with
  | none =>
    obtain ⟨settled, hdeck⟩ := setState_settled reset .urlNotSet
    exact ⟨settled, hdeck.trans hreset⟩
  | some url =>
    obtain ⟨settled, hdeck⟩ := setState_settled reset .loading
    refine ⟨{ settled with }, ?_⟩
    have same := hdeck.trans hreset
    have loads := congrArg Deck.loads same
    have item := congrArg Deck.item same
    have playing := congrArg Deck.playing same
    ext1
    · exact item
    · exact playing
    · simpa [setRadioURL, radioURLDidChange, Deck.select] using loads

/-- The end of a load finishes it. -/
theorem loadValues_settled (h : r.player.Settled) (i : ℕ) (isPlayable : Bool) :
    (r.loadValues i isPlayable).player.Settled ∧
      (r.loadValues i isPlayable).player.deck = r.player.deck.finish i isPlayable := by
  unfold loadValues Deck.finish
  rw [FRadioPlayer.deck_loads]
  cases hi : r.player.loads[i]? with
  | none => exact ⟨h, rfl⟩
  | some asset =>
    have taken : FRadioPlayer.Settled { r.player with loads := r.player.loads.eraseIdx i } :=
      { h with }
    cases isPlayable with
    | true =>
      have setup := player_setupPlayer
        (r := { r with player.loads := r.player.loads.eraseIdx i }) taken asset
      simp only [if_true]
      rw [setup]
      refine ⟨⟨h.autoPlay, rfl, ?_, rfl, ?_, fun _ => rfl⟩, ?_⟩
      · simp
      · simp
      · simp [FRadioPlayer.deck, FRadioPlayer.isPlaying]
    | false =>
      obtain ⟨reset, hreset⟩ := resetPlayer_settled
        (r := { r with player.loads := r.player.loads.eraseIdx i }) taken
      obtain ⟨settled, hdeck⟩ := setState_settled reset .error
      refine ⟨settled, (hdeck.trans hreset).trans ?_⟩
      ext1 <;> simp [Deck.select]

/-- A load that fails leaves the others under way, and nothing plays. -/
theorem loadValues_failed (h : r.player.Settled) {i : ℕ} (pending : i < r.player.loads.length) :
    (r.loadValues i false).player.isPlaying = false ∧
      (r.loadValues i false).player.loads = r.player.loads.eraseIdx i := by
  obtain ⟨settled, hdeck⟩ := loadValues_settled h i false
  rw [← settled.deck_playing, ← FRadioPlayer.deck_loads, hdeck]
  simp [Deck.finish, pending]

/-- The only load under way ends well. -/
theorem loadValues_only (h : r.player.Settled) {url : URL} (only : r.player.loads = [url]) :
    (r.loadValues 0 true).player.loads = [] ∧ (r.loadValues 0 true).player.isPlaying = true ∧
      (r.loadValues 0 true).player.currentURL = some url := by
  obtain ⟨settled, hdeck⟩ := loadValues_settled h 0 true
  have finished : r.player.deck.finish 0 true = ⟨some url, true, [], fun _ => rfl⟩ := by
    simp [Deck.finish, only]
  rw [finished] at hdeck
  refine ⟨congrArg Deck.loads hdeck, ?_, ?_⟩
  · rw [← settled.deck_playing, hdeck]
  · rw [settled.currentURL_eq, hdeck]

end Deck

end Radio

end RockRadio
