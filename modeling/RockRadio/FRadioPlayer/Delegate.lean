import RockRadio.FRadioPlayer.Basic

/-!
# What a delegate can rely on

A relation between the player and its delegate that survives each single callback survives every
operation of the player, with all the callbacks it makes on the way.
-/

namespace RockRadio

variable {URL Artwork δ : Type*} [FRadioPlayerDelegate δ URL Artwork]

open FRadioPlayerDelegate

/-- The relation holds of the player and its delegate. -/
def Radio.Holds (R : FRadioPlayer URL → δ → Prop) (r : Radio URL δ) : Prop :=
  R r.player r.delegate

/-! ## Without an announcement -/

/-- A relation between player and delegate that every callback keeps but the announcement of a song.
The callback for the playback state is the only one made because of a change that the relation may
depend on; how the metadata is cleaned never changes. -/
structure SilentInvariant (R : FRadioPlayer URL → δ → Prop) : Prop where
  frame : ∀ {p q d}, q.playbackState = p.playbackState → q.cleanMetadata = p.cleanMetadata →
    R p d → R q d
  playback : ∀ {p d} state, R p d →
    R { p with playbackState := state }
      (playbackStateDidChange { p with playbackState := state } state d)
  state : ∀ {p d} state, R p d → R p (playerStateDidChange p state d)
  item : ∀ {p d} url, R p d → R p (itemDidChange p url d)
  silence : ∀ {p d}, R p d → R p (metadataDidChange p none none d)
  raw : ∀ {p d} value, R p d → R p (rawMetadataDidChange p value d)
  artwork : ∀ {p d} url, R p d → R p (artworkDidChange p url d)

namespace SilentInvariant

variable {R : FRadioPlayer URL → δ → Prop} (hR : SilentInvariant R) {r : Radio URL δ}
include hR

/-- A change to anything else in the player goes unnoticed. -/
theorem update (h : r.Holds R) {p : FRadioPlayer URL}
    (same : p.playbackState = r.player.playbackState)
    (clean : p.cleanMetadata = r.player.cleanMetadata) : Radio.Holds R ⟨p, r.delegate⟩ :=
  hR.frame same clean h

theorem setState (h : r.Holds R) (state : FRadioPlayerState) : (r.setState state).Holds R := by
  unfold Radio.setState
  split
  · exact h
  · exact hR.state state (hR.update h rfl rfl)

theorem setPlaybackState (h : r.Holds R) (state : FRadioPlaybackState) :
    (r.setPlaybackState state).Holds R := by
  unfold Radio.setPlaybackState
  split
  · exact h
  · exact hR.playback state h

theorem play (h : r.Holds R) : r.play.Holds R := by
  unfold Radio.play
  split
  · exact h
  · apply hR.setPlaybackState
    exact hR.update h rfl rfl

theorem pause (h : r.Holds R) : r.pause.Holds R := by
  unfold Radio.pause
  split
  · exact h
  · apply hR.setPlaybackState
    exact hR.update h rfl rfl

theorem togglePlaying (h : r.Holds R) : r.togglePlaying.Holds R := by
  unfold Radio.togglePlaying
  split
  · exact hR.pause h
  · exact hR.play h

theorem shouldGetArtwork (h : r.Holds R) (value : Option String) :
    (r.shouldGetArtwork value).Holds R := by
  unfold Radio.shouldGetArtwork
  split
  · cases value with
    | none => exact hR.artwork none h
    | some raw => exact hR.update h rfl rfl
  · exact h

/-- What is announced is kept by the rest of the announcement. -/
theorem announce {value : Option String} (h : Radio.Holds R ⟨r.player, metadataDidChange r.player
      ((value.map fun raw => (r.player.cleanMetadata raw).splitOn " - ").bind (·.head?))
      ((value.map fun raw => (r.player.cleanMetadata raw).splitOn " - ").bind (·.getLast?))
      r.delegate⟩) : (r.timedMetadataDidChange value).Holds R := by
  apply hR.shouldGetArtwork
  exact hR.raw value h

theorem timedMetadataDidChange (h : r.Holds R) : (r.timedMetadataDidChange none).Holds R :=
  hR.announce (hR.silence h)

theorem stop (h : r.Holds R) : r.stop.Holds R := by
  unfold Radio.stop
  split
  · exact h
  · apply hR.timedMetadataDidChange
    exact hR.update (hR.setPlaybackState h .stopped) rfl rfl

theorem playerItemDidChange (h : r.Holds R) : r.playerItemDidChange.Holds R := by
  unfold Radio.playerItemDidChange
  split
  · exact h
  · apply hR.item
    have paused : (if r.player.lastPlayerItem.isSome then r.pause else r).Holds R := by
      split
      · exact hR.pause h
      · exact h
    generalize (if r.player.lastPlayerItem.isSome then r.pause else r) = s at paused ⊢
    have observed := hR.timedMetadataDidChange (hR.update paused
      (p := { s.player with lastPlayerItem := s.player.playerItem }) rfl rfl)
    dsimp only
    split
    · exact observed
    · split
      · apply hR.play
        exact hR.update observed rfl rfl
      · exact hR.update observed rfl rfl

theorem setPlayerItem (h : r.Holds R) (item : Option (AVPlayerItem URL)) :
    (r.setPlayerItem item).Holds R := by
  apply hR.playerItemDidChange
  exact hR.update h rfl rfl

theorem resetPlayer (h : r.Holds R) : r.resetPlayer.Holds R :=
  hR.update (hR.setPlayerItem (hR.stop h) none) rfl rfl

theorem radioURLDidChange (h : r.Holds R) (url : Option URL) :
    (r.radioURLDidChange url).Holds R := by
  have reset := hR.resetPlayer h
  cases url with
  | none => exact hR.setState reset .urlNotSet
  | some url => exact hR.update (hR.setState reset .loading) rfl rfl

theorem setRadioURL (h : r.Holds R) (url : Option URL) : (r.setRadioURL url).Holds R := by
  apply hR.radioURLDidChange
  exact hR.update h rfl rfl

theorem setupPlayer (h : r.Holds R) (asset : URL) : (r.setupPlayer asset).Holds R := by
  apply hR.setPlayerItem
  exact hR.update h rfl rfl

theorem loadValues (h : r.Holds R) (i : ℕ) (isPlayable : Bool) :
    (r.loadValues i isPlayable).Holds R := by
  unfold Radio.loadValues
  split
  · exact h
  · have taken := hR.update h (p := { r.player with loads := r.player.loads.eraseIdx i }) rfl rfl
    dsimp only
    split
    · exact hR.setupPlayer taken _
    · exact hR.setState (hR.resetPlayer taken) .error

theorem artworkFound (h : r.Holds R) (i : ℕ) (url : Option Artwork) :
    (r.artworkFound i url).Holds R :=
  hR.artwork url (hR.update h rfl rfl)

end SilentInvariant

/-! ## With announcements -/

/-- A relation between player and delegate that every callback keeps. The callback for the playback
state is the only one made because of a change that the relation may depend on. -/
structure DelegateInvariant (R : FRadioPlayer URL → δ → Prop) : Prop where
  frame : ∀ {p q d}, q.playbackState = p.playbackState → R p d → R q d
  playback : ∀ {p d} state, R p d →
    R { p with playbackState := state }
      (playbackStateDidChange { p with playbackState := state } state d)
  state : ∀ {p d} state, R p d → R p (playerStateDidChange p state d)
  item : ∀ {p d} url, R p d → R p (itemDidChange p url d)
  metadata : ∀ {p d} artist name, R p d → R p (metadataDidChange p artist name d)
  raw : ∀ {p d} value, R p d → R p (rawMetadataDidChange p value d)
  artwork : ∀ {p d} url, R p d → R p (artworkDidChange p url d)

namespace DelegateInvariant

variable {R : FRadioPlayer URL → δ → Prop} (hR : DelegateInvariant R) {r : Radio URL δ}
include hR

theorem silent : SilentInvariant R where
  frame same _ h := hR.frame same h
  playback := hR.playback
  state := hR.state
  item := hR.item
  silence := hR.metadata none none
  raw := hR.raw
  artwork := hR.artwork

/-- A change to the player that leaves the playback state alone goes unnoticed. -/
theorem update (h : r.Holds R) {p : FRadioPlayer URL}
    (same : p.playbackState = r.player.playbackState) : Radio.Holds R ⟨p, r.delegate⟩ :=
  hR.frame same h

theorem play (h : r.Holds R) : r.play.Holds R := hR.silent.play h

theorem pause (h : r.Holds R) : r.pause.Holds R := hR.silent.pause h

theorem togglePlaying (h : r.Holds R) : r.togglePlaying.Holds R := hR.silent.togglePlaying h

theorem timedMetadataDidChange (h : r.Holds R) (value : Option String) :
    (r.timedMetadataDidChange value).Holds R :=
  hR.silent.announce (hR.metadata _ _ h)

theorem setRadioURL (h : r.Holds R) (url : Option URL) : (r.setRadioURL url).Holds R :=
  hR.silent.setRadioURL h url

theorem loadValues (h : r.Holds R) (i : ℕ) (isPlayable : Bool) :
    (r.loadValues i isPlayable).Holds R :=
  hR.silent.loadValues h i isPlayable

theorem artworkFound (h : r.Holds R) (i : ℕ) (url : Option Artwork) :
    (r.artworkFound i url).Holds R :=
  hR.silent.artworkFound h i url

end DelegateInvariant

/-! ## Callbacks as values -/

/-- A call of one of the delegate's methods, with its arguments. -/
inductive Callback (URL Artwork : Type*) where
  | playerState (player : FRadioPlayer URL) (state : FRadioPlayerState)
  | playbackState (player : FRadioPlayer URL) (state : FRadioPlaybackState)
  | item (player : FRadioPlayer URL) (url : Option URL)
  | metadata (player : FRadioPlayer URL) (artistName trackName : Option String)
  | rawMetadata (player : FRadioPlayer URL) (rawValue : Option String)
  | artwork (player : FRadioPlayer URL) (artworkURL : Option Artwork)

namespace Callback

def call : Callback URL Artwork → δ → δ
  | .playerState player state => playerStateDidChange player state
  | .playbackState player state => playbackStateDidChange player state
  | .item player url => itemDidChange player url
  | .metadata player artistName trackName => metadataDidChange player artistName trackName
  | .rawMetadata player rawValue => rawMetadataDidChange player rawValue
  | .artwork player artworkURL => artworkDidChange player artworkURL

/-- Several calls, one after the other. -/
def calls (cs : List (Callback URL Artwork)) (d : δ) : δ := cs.foldl (fun d c => c.call d) d

variable {I : δ → Prop} (keep : ∀ (c : Callback URL Artwork) {d : δ}, I d → I (c.call d))
include keep

/-- What every single call keeps, every operation of the player keeps. -/
theorem delegateInvariant : DelegateInvariant fun (_ : FRadioPlayer URL) => I where
  frame _ h := h
  playback state h := keep (.playbackState _ state) h
  state state h := keep (.playerState _ state) h
  item url h := keep (.item _ url) h
  metadata artist name h := keep (.metadata _ artist name) h
  raw value h := keep (.rawMetadata _ value) h
  artwork url h := keep (.artwork _ url) h

theorem calls_keep (cs : List (Callback URL Artwork)) {d : δ} (h : I d) : I (calls cs d) := by
  induction cs generalizing d with
  | nil => exact h
  | cons c cs ih => exact ih (keep c h)

end Callback

/-- Assigning `radioURL` reaches the delegate by calls of its methods only. -/
theorem Radio.exists_calls_setRadioURL (r : Radio URL δ) (url : Option URL) :
    ∃ cs : List (Callback URL Artwork),
      (r.setRadioURL url).delegate = Callback.calls cs r.delegate := by
  have reached : DelegateInvariant fun (_ : FRadioPlayer URL) (d : δ) =>
      ∃ cs : List (Callback URL Artwork), d = Callback.calls cs r.delegate := by
    refine Callback.delegateInvariant ?_
    rintro c d ⟨cs, rfl⟩
    exact ⟨cs ++ [c], by simp [Callback.calls]⟩
  exact reached.setRadioURL ⟨[], rfl⟩ url

end RockRadio
