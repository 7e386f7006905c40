import RockRadio.FRadioPlayer.Delegate
import RockRadio.FRadioPlayer.Settled
import Mathlib.Logic.Function.Basic

/-!
# The player on a device

Besides its own operations, `FRadioPlayer` reacts to the network, to the audio session and to the
properties of the item it plays. Most of these reactions are deferred: a handler puts a block on the
main queue, or has one called after a second, and by then the player may be in another state.

The reachability notifier has been started, so its flags are known.
-/

namespace RockRadio

/-! ## Reachability -/

structure SCNetworkReachabilityFlags where
  reachable : Bool := false
  connectionRequired : Bool := false
  connectionOnTraffic : Bool := false
  connectionOnDemand : Bool := false
  interventionRequired : Bool := false
  transientConnection : Bool := false
  isLocalAddress : Bool := false
  isDirect : Bool := false
  isWWAN : Bool := false
  deriving DecidableEq, Repr

inductive Connection where
  | none | wifi | cellular
  deriving DecidableEq, Repr

def SCNetworkReachabilityFlags.connection (flags : SCNetworkReachabilityFlags) : Connection :=
  if !flags.reachable then .none
  else
    let connection := if !flags.connectionRequired then .wifi else .none
    let connection :=
      if flags.connectionOnTraffic || flags.connectionOnDemand then
        if !flags.interventionRequired then .wifi else connection
      else connection
    if flags.isWWAN then .cellular else connection

structure Reachability where
  flags : SCNetworkReachabilityFlags
  allowsCellularConnection : Bool := true

def Reachability.connection (r : Reachability) : Connection :=
  match r.flags.connection with
  | .none => .none
  | .cellular => if r.allowsCellularConnection then .cellular else .none
  | .wifi => .wifi

/-! ## The device -/

/-- What the handlers put on the main queue. -/
inductive Block where
  /-- the post of `.reachabilityChanged`, with its observer -/
  | reachabilityChanged
  | interruptionBegan
  | interruptionEnded (shouldResume : Bool)
  | oldDeviceUnavailable
  deriving DecidableEq, Repr

inductive AVPlayerStatus where
  | unknown | readyToPlay | failed
  deriving DecidableEq, Repr

inductive InterruptionType where
  | began | ended
  deriving DecidableEq, Repr

inductive RouteChangeReason where
  | newDeviceAvailable | oldDeviceUnavailable | other
  deriving DecidableEq, Repr

inductive Port where
  | headphones | other
  deriving DecidableEq, Repr

/-- The key paths `FRadioPlayer` observes, each with what it reads when it is notified. -/
inductive KeyPath where
  | status (player : AVPlayerStatus)
  | playbackBufferEmpty (isEmpty : Bool)
  | playbackLikelyToKeepUp
  deriving DecidableEq, Repr

/-- A player, its delegate, and what it depends on. -/
structure Device (URL δ : Type*) where
  radio : Radio URL δ
  reachability : Reachability
  isConnected : Bool
  headphonesConnected : Bool := false
  mainQueue : List Block := []
  /-- The items captured by the blocks that check once more a second later. -/
  rechecks : List (AVPlayerItem URL) := []
  /-- `isPlaybackLikelyToKeepUp` of each item, by its serial number. -/
  isPlaybackLikelyToKeepUp : ℕ → Bool := fun _ => false

variable {URL Artwork δ : Type*}

/-- `player?.play()` or `player?.pause()` on the `AVPlayer` itself, or a change by the system. -/
def Radio.setRate (r : Radio URL δ) (rate : ℚ) : Radio URL δ :=
  { r with player.player := r.player.player.map fun (av : AVPlayer URL) => { av with rate } }

def Radio.reloadItem (r : Radio URL δ) : Radio URL δ :=
  let item := r.player.playerItem
  let r : Radio URL δ :=
    { r with
      player.player :=
        r.player.player.map fun (av : AVPlayer URL) => { av with currentItem := none } }
  { r with
    player.player :=
      r.player.player.map fun (av : AVPlayer URL) => { av with currentItem := item } }

namespace Device

variable [FRadioPlayerDelegate δ URL Artwork] (d : Device URL δ)

/-- `Reachability.flags = …`, with its `didSet` -/
def setFlags (flags : SCNetworkReachabilityFlags) : Device URL δ :=
  if d.reachability.flags = flags then d
  else { d with
    reachability.flags := flags
    mainQueue := d.mainQueue ++ [.reachabilityChanged] }

def checkNetworkInterruption : Device URL δ :=
  match d.radio.player.playerItem with
  | none => d
  | some item =>
    if d.isPlaybackLikelyToKeepUp item.serial = false ∧ d.reachability.connection ≠ .none then
      { d with radio := d.radio.setRate 0, rechecks := d.rechecks ++ [item] }
    else d

/-- The block called a second later. The item it captured need not be the current one any more. -/
def recheck : Device URL δ :=
  match d.rechecks with
  | [] => d
  | item :: rest =>
    let d := { d with rechecks := rest }
    let d :=
      if d.isPlaybackLikelyToKeepUp item.serial then d else { d with radio := d.radio.reloadItem }
    { d with radio := d.radio.setRate (if d.radio.player.isPlaying then 1 else 0) }

def reachabilityChanged : Device URL δ :=
  let d :=
    if d.reachability.connection ≠ .none ∧ d.isConnected = false then d.checkNetworkInterruption
    else d
  { d with isConnected := d.reachability.connection ≠ .none }

def handleInterruption (type : Option InterruptionType) (shouldResume : Option Bool) :
    Device URL δ :=
  match type, shouldResume with
  | none, _ => d
  | some .began, _ => { d with mainQueue := d.mainQueue ++ [.interruptionBegan] }
  | some .ended, none => d
  | some .ended, some resume =>
    { d with mainQueue := d.mainQueue ++ [.interruptionEnded resume] }

/-- The loop leaves early when it has found headphones, and what follows it is run all the same. -/
def checkHeadphonesConnection (outputs : List Port) : Device URL δ :=
  let d := if .headphones ∈ outputs then { d with headphonesConnected := true } else d
  { d with headphonesConnected := false }

def handleRouteChange (reason : Option RouteChangeReason) (currentRoute : List Port)
    (previousRoute : Option (List Port)) : Device URL δ :=
  match reason, previousRoute with
  | some .newDeviceAvailable, _ => d.checkHeadphonesConnection currentRoute
  | some .oldDeviceUnavailable, some previous =>
    let d := d.checkHeadphonesConnection previous
    { d with mainQueue := d.mainQueue ++ [.oldDeviceUnavailable] }
  | _, _ => d

/-- `observeValue(forKeyPath:of:)` for the item with this serial number -/
def observeValue (serial : ℕ) (keyPath : KeyPath) : Device URL δ :=
  if d.radio.player.playerItem.map (·.serial) = some serial then
    match keyPath with
    | .status player =>
      -- the status of the system player, not that of the item
      match d.radio.player.player.map fun _ => player with
      | some .readyToPlay => { d with radio := d.radio.setState .readyToPlay }
      | some .failed => { d with radio := d.radio.setState .error }
      | _ => d
    | .playbackBufferEmpty isEmpty =>
      if isEmpty then { d with radio := d.radio.setState .loading }.checkNetworkInterruption else d
    | .playbackLikelyToKeepUp =>
      let likely := d.isPlaybackLikelyToKeepUp serial
      { d with radio := d.radio.setState (if likely then .loadingFinished else .loading) }
  else d

/-- A property of an item changes. Only the item that was set last is observed. -/
def valueDidChange (serial : ℕ) (keyPath : KeyPath) : Device URL δ :=
  if d.radio.player.lastPlayerItem.map (·.serial) = some serial then d.observeValue serial keyPath
  else d

def likelyToKeepUpDidChange (serial : ℕ) (value : Bool) : Device URL δ :=
  { d with isPlaybackLikelyToKeepUp := Function.update d.isPlaybackLikelyToKeepUp serial value
    }.valueDidChange serial .playbackLikelyToKeepUp

def runBlock (b : Block) : Device URL δ :=
  match b with
  | .reachabilityChanged => d.reachabilityChanged
  | .interruptionBegan => { d with radio := d.radio.pause }
  | .interruptionEnded shouldResume =>
    { d with radio := if shouldResume then d.radio.play else d.radio.pause }
  | .oldDeviceUnavailable =>
    { d with radio := if d.headphonesConnected then d.radio else d.radio.pause }

/-- The main queue runs its first block. -/
def runMain : Device URL δ :=
  match d.mainQueue with
  | [] => d
  | b :: rest => { d with mainQueue := rest }.runBlock b

end Device

/-! ## The rate of the system player -/

namespace Radio

variable {r : Radio URL δ}

@[simp] theorem isPlaying_setRate (r : Radio URL δ) (rate : ℚ) :
    (r.setRate rate).player.isPlaying = r.player.isPlaying := rfl

@[simp] theorem rate_setRate (r : Radio URL δ) (rate : ℚ) :
    (r.setRate rate).player.rate = r.player.player.map fun _ => rate := by
  simp [setRate, FRadioPlayer.rate, Function.comp_def]

/-- The rate is not part of the deck. -/
theorem setRate_settled (h : r.player.Settled) (rate : ℚ) :
    (r.setRate rate).player.Settled ∧ (r.setRate rate).player.deck = r.player.deck := by
  refine ⟨{ h with wired := ?_, current := ?_ }, rfl⟩
  · simpa [setRate] using h.wired
  · simpa [setRate] using h.current

/-- The item put back is the one that was there. -/
theorem reloadItem_eq (h : r.player.Settled) : r.reloadItem = r := by
  have same : (r.player.player.map fun (av : AVPlayer URL) =>
      { av with currentItem := r.player.playerItem }) = r.player.player := by
    cases hav : r.player.player with
    | none => rfl
    | some av => simp [← h.current av hav]
  simp only [reloadItem, Option.map_map, Function.comp_def, same]

/-- The system player runs only while the player says so. -/
def Quiet (r : Radio URL δ) : Prop :=
  ∀ rate ∈ r.player.rate, rate ≠ 0 → r.player.isPlaying = true

/-- While the player says it plays, the system player runs. -/
def Awake (r : Radio URL δ) : Prop :=
  r.player.isPlaying = true → r.player.rate = some 1

theorem quiet_of_none (h : r.player.player = none) : r.Quiet := by
  simp [Quiet, FRadioPlayer.rate, h]

theorem quiet_setRate_zero : (r.setRate 0).Quiet := by
  intro rate hrate ne
  rw [rate_setRate] at hrate
  obtain ⟨av, _, rfl⟩ := Option.map_eq_some_iff.mp hrate
  exact absurd rfl ne

theorem quiet_setRate_playing : (r.setRate (if r.player.isPlaying then 1 else 0)).Quiet := by
  cases h : r.player.isPlaying with
  | true => exact fun _ _ _ => h
  | false => exact quiet_setRate_zero

theorem Quiet.congr {s : Radio URL δ} (h : r.Quiet) (rate : s.player.rate = r.player.rate)
    (playing : s.player.isPlaying = r.player.isPlaying) : s.Quiet := by
  unfold Quiet
  rw [rate, playing]
  exact h

theorem Awake.congr {s : Radio URL δ} (h : r.Awake) (rate : s.player.rate = r.player.rate)
    (playing : s.player.isPlaying = r.player.isPlaying) : s.Awake := by
  unfold Awake
  rw [rate, playing]
  exact h

/-- What plays has a system player, so its rate can be set. -/
theorem awake_setRate_playing (h : r.player.Settled) :
    (r.setRate (if r.player.isPlaying then 1 else 0)).Awake := by
  intro playing
  have item := h.playing playing
  rw [← h.wired] at item
  obtain ⟨av, hav⟩ := Option.isSome_iff_exists.mp item
  rw [isPlaying_setRate] at playing
  simp [hav, playing]

variable [FRadioPlayerDelegate δ URL Artwork]

theorem play_synced (h : r.player.Settled) : r.play.Quiet ∧ r.play.Awake := by
  cases hav : r.player.player with
  | none =>
    rw [play_of_none r hav]
    refine ⟨quiet_of_none hav, fun playing => ?_⟩
    simpa [← h.wired, hav] using h.playing playing
  | some av => simp [Quiet, Awake, player_play r hav, FRadioPlayer.rate, FRadioPlayer.isPlaying]

theorem pause_synced (h : r.player.Settled) : r.pause.Quiet ∧ r.pause.Awake := by
  cases hav : r.player.player with
  | none =>
    rw [pause_of_none r hav]
    refine ⟨quiet_of_none hav, fun playing => ?_⟩
    simpa [← h.wired, hav] using h.playing playing
  | some av => simp [Quiet, Awake, player_pause r hav, FRadioPlayer.rate, FRadioPlayer.isPlaying]

/-- A reset leaves no system player. -/
theorem resetPlayer_synced (h : r.player.Settled) :
    r.resetPlayer.player.player = none ∧ r.resetPlayer.player.isPlaying = false := by
  obtain ⟨state, notPlaying, reset⟩ := player_resetPlayer r h
  rw [reset]
  refine ⟨rfl, ?_⟩
  rw [← Bool.not_eq_true, FRadioPlayer.isPlaying_iff]
  exact notPlaying

theorem synced_of_none (none : r.player.player = none) (quiet : r.player.isPlaying = false) :
    r.Quiet ∧ r.Awake :=
  ⟨quiet_of_none none, fun playing => by simp [quiet] at playing⟩

theorem loadValues_synced (h : r.player.Settled) {i : ℕ} (pending : i < r.player.loads.length)
    (isPlayable : Bool) :
    (r.loadValues i isPlayable).Quiet ∧ (r.loadValues i isPlayable).Awake := by
  unfold loadValues
  rw [List.getElem?_eq_getElem pending]
  have taken : FRadioPlayer.Settled { r.player with loads := r.player.loads.eraseIdx i } :=
    { h with }
  cases isPlayable with
  | true =>
    have setup := player_setupPlayer
      (r := { r with player.loads := r.player.loads.eraseIdx i }) taken r.player.loads[i]
    simp only [if_true]
    unfold Quiet Awake
    rw [setup]
    simp [FRadioPlayer.rate, FRadioPlayer.isPlaying]
  | false =>
    obtain ⟨none, quiet⟩ := resetPlayer_synced
      (r := { r with player.loads := r.player.loads.eraseIdx i }) taken
    exact synced_of_none (by simpa using none)
      (by simpa [FRadioPlayer.isPlaying] using quiet)

/-- The rate and the playback state are all that matters here. -/
theorem timedMetadataDidChange_rate (value : Option String) :
    (r.timedMetadataDidChange value).player.rate = r.player.rate ∧
      (r.timedMetadataDidChange value).player.isPlaying = r.player.isPlaying := by
  cases value with
  | none => simp
  | some raw =>
    simp only [timedMetadataDidChange, shouldGetArtwork]
    split <;> exact ⟨rfl, rfl⟩

end Radio

/-! ## What the state of the player reports -/

/-- The state can be trusted: no address means none was set, a ready player has an item, and without
an item a loading player has a load under way. -/
structure FRadioPlayer.Reports (p : FRadioPlayer URL) : Prop where
  unset : p.state = .urlNotSet → p.radioURL = none
  ready : p.state = .readyToPlay ∨ p.state = .loadingFinished → p.playerItem.isSome = true
  loading : p.state = .loading → p.playerItem = none → p.loads ≠ []

namespace Radio

variable [FRadioPlayerDelegate δ URL Artwork] {r : Radio URL δ}

theorem play_reports (h : r.player.Reports) : r.play.player.Reports := by
  cases hav : r.player.player with
  | none =>
    rw [play_of_none r hav]
    exact h
  | some av =>
    rw [player_play r hav]
    exact ⟨h.unset, h.ready, h.loading⟩

theorem pause_reports (h : r.player.Reports) : r.pause.player.Reports := by
  cases hav : r.player.player with
  | none =>
    rw [pause_of_none r hav]
    exact h
  | some av =>
    rw [player_pause r hav]
    exact ⟨h.unset, h.ready, h.loading⟩

theorem setRadioURL_reports (h : r.player.Settled) (url : Option URL) :
    (r.setRadioURL url).player.Reports := by
  obtain ⟨state, _, reset⟩ :=
    player_resetPlayer { r with player.radioURL := url } { h with }
  cases url with
  | none =>
    simp only [setRadioURL, radioURLDidChange, player_setState, reset]
    exact ⟨fun _ => rfl, by simp, by simp⟩
  | some url =>
    simp only [setRadioURL, radioURLDidChange, player_setState, reset]
    exact ⟨by simp, by simp, fun _ _ => List.append_ne_nil_of_right_ne_nil _ (List.cons_ne_nil _ _)⟩

theorem loadValues_reports (h : r.player.Settled) (reports : r.player.Reports) {i : ℕ}
    (pending : i < r.player.loads.length) (isPlayable : Bool) :
    (r.loadValues i isPlayable).player.Reports := by
  unfold loadValues
  rw [List.getElem?_eq_getElem pending]
  have taken : FRadioPlayer.Settled { r.player with loads := r.player.loads.eraseIdx i } :=
    { h with }
  cases isPlayable with
  | true =>
    have setup := player_setupPlayer
      (r := { r with player.loads := r.player.loads.eraseIdx i }) taken r.player.loads[i]
    simp only [if_true, setup]
    exact ⟨reports.unset, fun _ => rfl, nofun⟩
  | false =>
    simp only [Bool.false_eq_true, if_false, player_setState]
    exact ⟨nofun, nofun, nofun⟩

theorem timedMetadataDidChange_reports (h : r.player.Reports) (value : Option String) :
    (r.timedMetadataDidChange value).player.Reports := by
  cases value with
  | none => simpa using h
  | some raw =>
    simp only [timedMetadataDidChange, shouldGetArtwork]
    split
    · exact ⟨h.unset, h.ready, h.loading⟩
    · exact h

/-- What is observed is observed of an item. -/
theorem setState_reports {state : FRadioPlayerState} (notUnset : state ≠ .urlNotSet)
    (item : r.player.playerItem.isSome = true) : (r.setState state).player.Reports := by
  rw [player_setState]
  refine ⟨fun unset => absurd unset notUnset, fun _ => item, fun _ none => ?_⟩
  simp only at none
  simp [none] at item

end Radio

/-! ## What the handlers do -/

namespace Device

variable [FRadioPlayerDelegate δ URL Artwork] {d : Device URL δ}

/-- What a handler does to the player and to the items to be checked again: it may change the state
of the player, and it may suspend the player, whose item is then checked again. -/
inductive Observed (r : Radio URL δ) (rechecks : List (AVPlayerItem URL)) :
    Radio URL δ → List (AVPlayerItem URL) → Prop where
  | same : Observed r rechecks r rechecks
  | suspended (item : AVPlayerItem URL) :
      Observed r rechecks (r.setRate 0) (rechecks ++ [item])
  | state {state : FRadioPlayerState} : state ≠ .urlNotSet →
      r.player.playerItem.isSome = true → Observed r rechecks (r.setState state) rechecks
  | stalled {state : FRadioPlayerState} (item : AVPlayerItem URL) : state ≠ .urlNotSet →
      r.player.playerItem.isSome = true →
      Observed r rechecks ((r.setState state).setRate 0) (rechecks ++ [item])

theorem checkNetworkInterruption_cases (d : Device URL δ) :
    d.checkNetworkInterruption = d ∨ ∃ item, d.checkNetworkInterruption =
      { d with radio := d.radio.setRate 0, rechecks := d.rechecks ++ [item] } := by
  unfold checkNetworkInterruption
  split
  · exact .inl rfl
  · split
    · exact .inr ⟨_, rfl⟩
    · exact .inl rfl

theorem observed_reachabilityChanged (d : Device URL δ) :
    Observed d.radio d.rechecks d.reachabilityChanged.radio d.reachabilityChanged.rechecks := by
  unfold reachabilityChanged
  dsimp only
  split
  · rcases checkNetworkInterruption_cases d with same | ⟨item, suspended⟩
    · rw [same]
      exact .same
    · rw [suspended]
      exact .suspended item
  · exact .same

theorem observed_valueDidChange (d : Device URL δ) (serial : ℕ) (keyPath : KeyPath) :
    Observed d.radio d.rechecks (d.valueDidChange serial keyPath).radio
      (d.valueDidChange serial keyPath).rechecks := by
  unfold valueDidChange observeValue
  split
  · split
    · rename_i same
      have item : d.radio.player.playerItem.isSome = true := by
        obtain ⟨i, hi, _⟩ := Option.map_eq_some_iff.mp same
        simp [hi]
      cases keyPath with
      | status player =>
        dsimp only
        split
        · exact .state nofun item
        · exact .state nofun item
        · exact .same
      | playbackBufferEmpty isEmpty =>
        dsimp only
        split
        · have loading : FRadioPlayerState.loading ≠ .urlNotSet := nofun
          rcases checkNetworkInterruption_cases
            { d with radio := d.radio.setState .loading } with same | ⟨item', suspended⟩
          · rw [same]
            exact .state loading item
          · rw [suspended]
            exact .stalled item' loading item
        · exact .same
      | playbackLikelyToKeepUp =>
        refine .state ?_ item
        split <;> exact nofun
    · exact .same
  · exact .same

theorem Observed.reports {r s : Radio URL δ} {items items' : List (AVPlayerItem URL)}
    (seen : Observed r items s items') (h : r.player.Reports) : s.player.Reports := by
  cases seen with
  | same => exact h
  | suspended item => exact ⟨h.unset, h.ready, h.loading⟩
  | state notUnset item => exact Radio.setState_reports notUnset item
  | stalled _ notUnset item =>
    have state := Radio.setState_reports notUnset item
    exact ⟨state.unset, state.ready, state.loading⟩

theorem recheck_eq (h : d.radio.player.Settled) {item : AVPlayerItem URL}
    {rest : List (AVPlayerItem URL)} (hd : d.rechecks = item :: rest) :
    d.recheck = { d with
      rechecks := rest
      radio := d.radio.setRate (if d.radio.player.isPlaying then 1 else 0) } := by
  unfold recheck
  rw [hd]
  dsimp only
  split
  · rfl
  · rw [Radio.reloadItem_eq h]

/-! ## What the player knows of the network -/

/-- The player knows the last change of the network, unless it is still to be announced. -/
def Informed (d : Device URL δ) : Prop :=
  .reachabilityChanged ∉ d.mainQueue →
    d.isConnected = decide (d.reachability.connection ≠ .none)

/-- Neither the queue nor what is known of the network and the headphones has changed. -/
structure SameKnowledge (d d' : Device URL δ) : Prop where
  reachability : d'.reachability = d.reachability
  isConnected : d'.isConnected = d.isConnected
  headphones : d'.headphonesConnected = d.headphonesConnected
  mainQueue : d'.mainQueue = d.mainQueue

theorem SameKnowledge.informed {d' : Device URL δ} (same : SameKnowledge d d')
    (h : d.Informed) : d'.Informed := by
  unfold Informed
  rw [same.reachability, same.isConnected, same.mainQueue]
  exact h

theorem sameKnowledge_checkNetworkInterruption (d : Device URL δ) :
    SameKnowledge d d.checkNetworkInterruption := by
  rcases checkNetworkInterruption_cases d with same | ⟨item, suspended⟩
  · rw [same]
    exact ⟨rfl, rfl, rfl, rfl⟩
  · rw [suspended]
    exact ⟨rfl, rfl, rfl, rfl⟩

theorem sameKnowledge_recheck (d : Device URL δ) : SameKnowledge d d.recheck := by
  unfold recheck
  split
  · exact ⟨rfl, rfl, rfl, rfl⟩
  · dsimp only
    split <;> exact ⟨rfl, rfl, rfl, rfl⟩

theorem sameKnowledge_valueDidChange (d : Device URL δ) (serial : ℕ) (keyPath : KeyPath) :
    SameKnowledge d (d.valueDidChange serial keyPath) := by
  unfold valueDidChange observeValue
  split
  · split
    · cases keyPath with
      | status player =>
        dsimp only
        split <;> exact ⟨rfl, rfl, rfl, rfl⟩
      | playbackBufferEmpty isEmpty =>
        dsimp only
        split
        · obtain ⟨reachability, isConnected, headphones, mainQueue⟩ :=
            sameKnowledge_checkNetworkInterruption { d with radio := d.radio.setState .loading }
          exact ⟨reachability, isConnected, headphones, mainQueue⟩
        · exact ⟨rfl, rfl, rfl, rfl⟩
      | playbackLikelyToKeepUp => exact ⟨rfl, rfl, rfl, rfl⟩
    · exact ⟨rfl, rfl, rfl, rfl⟩
  · exact ⟨rfl, rfl, rfl, rfl⟩

/-- A change of the network is announced. -/
theorem informed_setFlags (h : d.Informed) (flags : SCNetworkReachabilityFlags) :
    (d.setFlags flags).Informed := by
  unfold setFlags
  split
  · exact h
  · intro announced
    simp at announced

/-- The player looks at the network after it has dealt with the announcement. -/
theorem informed_reachabilityChanged (d : Device URL δ) : d.reachabilityChanged.Informed :=
  fun _ => rfl

theorem informed_append (h : d.Informed) (b : Block) :
    Device.Informed { d with mainQueue := d.mainQueue ++ [b] } := by
  intro quiet
  apply h
  simp only [List.mem_append, not_or] at quiet
  exact quiet.1

theorem informed_handleInterruption (h : d.Informed) (type : Option InterruptionType)
    (shouldResume : Option Bool) : (d.handleInterruption type shouldResume).Informed := by
  unfold handleInterruption
  split
  · exact h
  · exact informed_append h _
  · exact h
  · exact informed_append h _

@[simp] theorem checkHeadphonesConnection_eq (d : Device URL δ) (outputs : List Port) :
    d.checkHeadphonesConnection outputs = { d with headphonesConnected := false } := by
  unfold checkHeadphonesConnection
  dsimp only
  split <;> rfl

theorem informed_handleRouteChange (h : d.Informed) (reason : Option RouteChangeReason)
    (currentRoute : List Port) (previousRoute : Option (List Port)) :
    (d.handleRouteChange reason currentRoute previousRoute).Informed := by
  unfold handleRouteChange
  split
  · rw [checkHeadphonesConnection_eq]
    exact h
  · rw [checkHeadphonesConnection_eq]
    exact informed_append (d := { d with headphonesConnected := false }) h _
  · exact h

/-- No route is ever found to have headphones. -/
theorem headphones_handleRouteChange (h : d.headphonesConnected = false)
    (reason : Option RouteChangeReason) (currentRoute : List Port)
    (previousRoute : Option (List Port)) :
    (d.handleRouteChange reason currentRoute previousRoute).headphonesConnected = false := by
  unfold handleRouteChange
  split
  · rw [checkHeadphonesConnection_eq]
  · rw [checkHeadphonesConnection_eq]
  · exact h

/-- A block taken off the queue: either it is the announcement, or none of those left is missing. -/
theorem informed_runBlock {b : Block} {rest : List Block} (h : d.Informed)
    (queue : d.mainQueue = b :: rest) :
    (Device.runBlock { d with mainQueue := rest } b).Informed := by
  have taken (other : b ≠ .reachabilityChanged) : Device.Informed { d with mainQueue := rest } := by
    intro quiet
    apply h
    rw [queue, List.mem_cons, not_or]
    exact ⟨other.symm, quiet⟩
  cases b with
  | reachabilityChanged => exact informed_reachabilityChanged _
  | interruptionBegan => exact taken nofun
  | interruptionEnded resume => exact taken nofun
  | oldDeviceUnavailable => exact taken nofun

theorem headphones_runBlock (d : Device URL δ) (b : Block) :
    (d.runBlock b).headphonesConnected = d.headphonesConnected := by
  cases b with
  | reachabilityChanged =>
    unfold runBlock reachabilityChanged
    dsimp only
    split
    · exact (sameKnowledge_checkNetworkInterruption d).headphones
    · rfl
  | interruptionBegan => rfl
  | interruptionEnded resume => rfl
  | oldDeviceUnavailable => rfl

end Device

end RockRadio
