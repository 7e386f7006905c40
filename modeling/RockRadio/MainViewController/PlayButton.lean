import RockRadio.MainViewController.Playback

/-!
# The play button

The button shows 'pause' or 'play', and two places decide which: the callback for the playback
state copies it from the player, and a tap sets it in advance of what the tap will bring about.

## Main results

* `agrees_iff_honest` — the button agrees with the player in every state without a load under way,
  exactly when no tap and no failing load of the run leaves it at 'pause' for nothing.
* `staysPaused_iff` — a tap keeps the radio quiet exactly when it finds no load under way and does
  not start one.
-/

namespace RockRadio.Playback

variable {URL Image : Type} {os : Platform URL} {r : Receiver URL Image} {e : Event Image}

/-! ## The image on the button -/

/-- The button shows 'pause' when the player plays and 'play' when it does not. -/
def ShowsState (p : FRadioPlayer URL) (m : MainViewController Image) : Prop :=
  m.playButton = if p.isPlaying then .pause else .play

theorem showsState_invariant :
    DelegateInvariant (@ShowsState URL Image) where
  frame same h := by rw [ShowsState, FRadioPlayer.isPlaying_congr same]; exact h
  playback _ _ := rfl
  state _ h := h
  item _ h := h
  metadata _ _ h := h
  raw _ h := h
  artwork url h := (MainViewController.playButton_artworkDidChange _ url).trans h

/-- Weaker: the button does not offer to play what plays. -/
def Pausable (p : FRadioPlayer URL) (m : MainViewController Image) : Prop :=
  p.isPlaying = true → m.playButton = .pause

theorem pausable_invariant : DelegateInvariant (@Pausable URL Image) where
  frame same h := by rw [Pausable, FRadioPlayer.isPlaying_congr same]; exact h
  playback _ _ playing := if_pos playing
  state _ h := h
  item _ h := h
  metadata _ _ h := h
  raw _ h := h
  artwork url h playing := (MainViewController.playButton_artworkDidChange _ url).trans (h playing)

/-- What a receiver looks like between two events: the button agrees with the player, unless it
offers to pause a player that holds no item. -/
structure Displayed (r : Receiver URL Image) : Prop where
  settled : r.player.Settled
  shown : r.Holds ShowsState ∨ r.delegate.playButton = .pause ∧ r.player.playerItem = none

theorem playButton_timedMetadataDidChange (value : Option String) :
    (r.timedMetadataDidChange value).delegate.playButton = r.delegate.playButton := by
  simp only [Radio.timedMetadataDidChange, Radio.shouldGetArtwork]
  split
  · cases value with
    | none => exact MainViewController.playButton_artworkDidChange _ none
    | some raw => rfl
  · rfl

/-- A load that fails resets an empty player, which nobody hears of. -/
theorem playButton_loadValues_false (h : r.player.Settled) (noItem : r.player.playerItem = none)
    (i : ℕ) : (r.loadValues i false).delegate.playButton = r.delegate.playButton := by
  simp only [Radio.loadValues]
  cases r.player.loads[i]? with
  | none => rfl
  | some asset =>
    have reset := Radio.resetPlayer_of_none
      (r := { r with player.loads := r.player.loads.eraseIdx i }) { h with } noItem
    simp only [Bool.false_eq_true, if_false, reset, Radio.setState]
    split <;> rfl

/-- While the player holds no item, only a load that succeeds moves the button. -/
theorem playButton_next (h : r.player.Settled) (noItem : r.player.playerItem = none)
    (notTap : ∀ radioURL, e ≠ .playTap radioURL) (noLoad : ∀ i, e ≠ .loadValues i true) :
    (next os r e).delegate.playButton = r.delegate.playButton := by
  have noPlayer := h.player_eq_none_iff.mpr noItem
  have play := Radio.play_of_none r noPlayer
  have pause := Radio.pause_of_none r noPlayer
  cases e with
  | playTap radioURL => exact absurd rfl (notTap radioURL)
  | remotePlay => simp [next, Radio.remotePlay, play]
  | remotePause => simp [next, Radio.remotePause, pause]
  | remoteControlPlay => simp [next, play]
  | remoteControlPause => simp [next, pause]
  | remoteControlTogglePlayPause => simp [next, Radio.togglePlaying, play, pause]
  | interruptionBegan => simp [next, pause]
  | interruptionEnded shouldResume => simp [next, play, pause]
  | oldDeviceUnavailable => simp [next, pause]
  | rateDidChange rate => rfl
  | loadValues i isPlayable =>
    cases isPlayable with
    | true => exact absurd rfl (noLoad i)
    | false => exact playButton_loadValues_false h noItem i
  | metadataOutput value => exact playButton_timedMetadataDidChange value
  | artworkFound i url => exact MainViewController.playButton_artworkDidChange _ url

theorem playerItem_eq_none {p : FRadioPlayer URL} : p.deck.item = none ↔ p.playerItem = none :=
  Option.map_eq_none_iff

/-- A load that succeeds leaves the player playing and the button at 'pause'. -/
theorem loadValues_true_agrees (h : Displayed r) {i : ℕ} (pending : i < r.player.loads.length) :
    (r.loadValues i true).player.isPlaying = true ∧ (r.loadValues i true).Holds ShowsState := by
  obtain ⟨settled, hdeck⟩ := Radio.loadValues_settled h.settled i true
  have playing : (r.loadValues i true).player.isPlaying = true := by
    rw [← settled.deck_playing, hdeck]
    simp [Deck.finish, pending]
  refine ⟨playing, ?_⟩
  rcases h.shown with agrees | ⟨pause, _⟩
  · exact showsState_invariant.loadValues agrees i true
  · have shown := pausable_invariant.loadValues (r := r) (fun _ => pause) i true playing
    simpa [Radio.Holds, ShowsState, playing] using shown

/-- A tap that finds the player playing pauses it, and shows so. -/
theorem playTap_showsState (h : r.player.Settled) (playing : r.player.isPlaying = true)
    (radioURL : String) : (r.playTap os radioURL).Holds ShowsState := by
  obtain ⟨settled, hdeck⟩ := Radio.playTap_settled os h radioURL
  have quiet : (r.playTap os radioURL).player.isPlaying = false := by
    rw [← settled.deck_playing, hdeck, if_pos playing]
    rfl
  simp only [Radio.Holds, ShowsState, quiet]
  simp [Radio.playTap, playing]

/-- Any other tap shows 'pause', whatever comes of it. -/
theorem playTap_pause (stopped : r.player.isPlaying = false) (radioURL : String) :
    (r.playTap os radioURL).delegate.playButton = .pause := by
  simp [Radio.playTap, stopped]

/-- A tap puts its own image on the button: 'play' if it paused the player, else 'pause', with the
player empty. -/
theorem playTap_displayed (h : Displayed r) (radioURL : String) :
    Displayed (r.playTap os radioURL) := by
  obtain ⟨settled, hdeck⟩ := Radio.playTap_settled os h.settled radioURL
  refine ⟨settled, ?_⟩
  cases playing : r.player.isPlaying with
  | true => exact .inl (playTap_showsState h.settled playing radioURL)
  | false =>
    rw [if_neg (by simp [playing])] at hdeck
    refine .inr ⟨playTap_pause playing radioURL, playerItem_eq_none.mp ?_⟩
    rw [hdeck]
    rfl

/-- Every event leaves the receiver in such a state. -/
theorem Displayed.next (h : Displayed r) (enabled : Enabled r e) : Displayed (next os r e) := by
  obtain ⟨settled, step⟩ := next_settled os h.settled e
  by_cases tap : ∃ radioURL, e = .playTap radioURL
  · obtain ⟨radioURL, rfl⟩ := tap
    exact playTap_displayed h radioURL
  by_cases load : ∃ i, e = .loadValues i true
  · obtain ⟨i, rfl⟩ := load
    exact ⟨settled, .inl (loadValues_true_agrees h enabled).2⟩
  rw [not_exists] at tap load
  refine ⟨settled, ?_⟩
  rcases h.shown with agrees | ⟨pause, noItem⟩
  · exact .inl (showsState_invariant.next agrees tap)
  · refine .inr ⟨(playButton_next h.settled noItem tap load).trans pause, ?_⟩
    have empty : r.player.deck.item = none := playerItem_eq_none.mpr noItem
    rw [← playerItem_eq_none]
    generalize (Playback.next os r e).player.deck = d at step
    cases step with
    | tapPlaying radioURL => exact absurd rfl (tap radioURL)
    | tap radioURL => exact absurd rfl (tap radioURL)
    | play => exact empty
    | pause => exact empty
    | load i isPlayable =>
      cases isPlayable with
      | true => exact absurd rfl (load i)
      | false => simp only [Deck.finish]; split <;> [exact empty; rfl]
    | skip => exact empty

/-- The button and the player agree whenever no load is under way. -/
def ButtonAgrees (r : Receiver URL Image) : Prop :=
  r.player.loads = [] → r.Holds ShowsState

/-- The event does not leave the button at 'pause' with nothing to wait for: a tap that finds
neither playback nor a load starts a load, and the last load only fails while the player plays or
after the button went back to 'play'. -/
def Honest (os : Platform URL) (r : Receiver URL Image) : Event Image → Prop
  | .playTap radioURL =>
    r.player.isPlaying = false → r.player.loads = [] → (os.url radioURL).isSome = true
  | .loadValues _ false =>
    r.player.loads.length = 1 → r.delegate.playButton = .pause → r.player.isPlaying = true
  | _ => True

theorem playTap_agrees_iff (h : Displayed r) (radioURL : String) :
    ButtonAgrees (r.playTap os radioURL) ↔ Honest os r (.playTap radioURL) := by
  obtain ⟨settled, hdeck⟩ := Radio.playTap_settled os h.settled radioURL
  cases playing : r.player.isPlaying with
  | true =>
    refine iff_of_true (fun _ => playTap_showsState h.settled playing radioURL) ?_
    simp [Honest, playing]
  | false =>
    rw [if_neg (by simp [playing])] at hdeck
    have quiet : (r.playTap os radioURL).player.isPlaying = false := by
      rw [← settled.deck_playing, hdeck]
      rfl
    have loads : (r.playTap os radioURL).player.loads =
        r.player.loads ++ (os.url radioURL).toList := congrArg Deck.loads hdeck
    have pause : (r.playTap os radioURL).delegate.playButton = .pause :=
      playTap_pause playing radioURL
    simp only [ButtonAgrees, Radio.Holds, ShowsState, quiet, loads, pause, Honest, playing]
    cases os.url radioURL <;> simp

theorem loadValues_false_agrees_iff (h : Displayed r) {i : ℕ}
    (pending : i < r.player.loads.length) :
    ButtonAgrees (r.loadValues i false) ↔ Honest os r (.loadValues i false) := by
  obtain ⟨quiet, loads⟩ := Radio.loadValues_failed h.settled pending
  have length := List.length_eraseIdx_of_lt pending
  by_cases last : r.player.loads.length = 1
  · have none : (r.loadValues i false).player.loads = [] := by
      rw [loads, ← List.length_eq_zero_iff]; omega
    rcases h.shown with agrees | ⟨pause, noItem⟩
    · refine iff_of_true (fun _ => showsState_invariant.loadValues agrees i false) ?_
      intro _ pause
      cases playing : r.player.isPlaying with
      | true => rfl
      | false => simp [Radio.Holds, ShowsState, pause, playing] at agrees
    · have still := (playButton_loadValues_false h.settled noItem i).trans pause
      have stopped : r.player.isPlaying = false := by
        simpa [noItem] using mt h.settled.playing
      simp [ButtonAgrees, Honest, Radio.Holds, ShowsState, none, quiet, still, last, pause,
        stopped]
  · refine iff_of_true (fun idle => ?_) (fun one => absurd one last)
    rw [loads, ← List.length_eq_zero_iff] at idle
    omega

/-- An event that neither taps the button nor ends a load starts and ends no load. -/
theorem loads_next (h : r.player.Settled) (notTap : ∀ radioURL, e ≠ .playTap radioURL)
    (notLoad : ∀ i isPlayable, e ≠ .loadValues i isPlayable) :
    (next os r e).player.loads = r.player.loads := by
  obtain ⟨_, step⟩ := next_settled os h e
  rw [← FRadioPlayer.deck_loads, ← FRadioPlayer.deck_loads r.player]
  generalize (next os r e).player.deck = d at step
  cases step with
  | tapPlaying radioURL => exact absurd rfl (notTap radioURL)
  | tap radioURL => exact absurd rfl (notTap radioURL)
  | play => rfl
  | pause => rfl
  | load i isPlayable => exact absurd rfl (notLoad i isPlayable)
  | skip => rfl

/-- Where the button agrees, an event keeps it so exactly when it is honest. -/
theorem next_agrees_iff (h : Displayed r) (agrees : ButtonAgrees r) (enabled : Enabled r e) :
    ButtonAgrees (next os r e) ↔ Honest os r e := by
  have other (notTap : ∀ radioURL, e ≠ .playTap radioURL)
      (notLoad : ∀ i isPlayable, e ≠ .loadValues i isPlayable) : ButtonAgrees (next os r e) := by
    intro idle
    rw [loads_next h.settled notTap notLoad] at idle
    exact showsState_invariant.next (agrees idle) notTap
  cases e with
  | playTap radioURL => exact playTap_agrees_iff h radioURL
  | loadValues i isPlayable =>
    cases isPlayable with
    | true => exact iff_of_true (fun _ => (loadValues_true_agrees h enabled).2) trivial
    | false => exact loadValues_false_agrees_iff h enabled
  | _ => exact iff_of_true (other nofun nofun) trivial

theorem setSelectedIndex_showsState (h : r.Holds ShowsState) (radioURL : String) (index : ℤ) :
    (r.setSelectedIndex os radioURL index).Holds ShowsState := by
  have corrected : Radio.Holds ShowsState ⟨r.player, r.delegate.correctIndex index⟩ :=
    (r.delegate.playButton_correctIndex index).trans h
  exact showsState_invariant.setRadioURL corrected (os.url radioURL)

theorem launch_showsState (os : Platform URL) (clean : String → String) (image : Image)
    (radioURL : String) : (launch os clean image radioURL).Holds ShowsState := by
  have initial : @ShowsState URL Image { cleanMetadata := clean } (.initial image) := rfl
  exact showsState_invariant.play (setSelectedIndex_showsState
    (r := ⟨{ cleanMetadata := clean }, .initial image⟩) initial radioURL 0)

theorem displayed_launch (os : Platform URL) (clean : String → String) (image : Image)
    (radioURL : String) : Displayed (launch os clean image radioURL) where
  settled := (Radio.viewDidLoad_settled os (FRadioPlayer.settled_init clean) radioURL).1
  shown := .inl (launch_showsState os clean image radioURL)

/-- Along every run, the button agrees with the player whenever no load is under way, exactly when
every tap and every failing load of the run is honest. -/
theorem agrees_iff_honest (os : Platform URL) (clean : String → String) (image : Image)
    (radioURL : String) {es : List (Event Image)} {r : Receiver URL Image}
    (run : (system os).Exec (launch os clean image radioURL) es r) :
    (system os).Always ButtonAgrees (launch os clean image radioURL) es ↔
      (system os).AllSteps (Honest os) (launch os clean image radioURL) es := by
  refine run.always_iff_allSteps (displayed_launch os clean image radioURL)
    (fun _ => launch_showsState os clean image radioURL) ?_ ?_
  · rintro s e t displayed enabled ⟨⟩
    exact displayed.next enabled
  · rintro s e t displayed agrees enabled ⟨⟩
    exact next_agrees_iff displayed agrees enabled

/-- A run of one tap on an address that loads. -/
theorem agrees_iff_honest_text :
    (system .text).Always ButtonAgrees (launch .text id () "a") [.playTap "a"] ↔
      (system .text).AllSteps (Honest .text) (launch .text id () "a") [.playTap "a"] :=
  agrees_iff_honest .text id () "a" (.cons trivial rfl (.nil _))

/-- The station of the launch does not load, and by the next tap the address is an empty text: the
button is left at 'pause' although nothing plays and nothing is on its way. -/
theorem pause_shown_for_nothing :
    ¬ ∀ (es : List (Event Unit)) (r : Receiver String Unit),
      (system .text).Exec (launch .text id () "a") es r → ButtonAgrees r := by
  intro claim
  have agrees : PlayImage.pause = .play :=
    claim [.loadValues 0 false, .playTap ""] _
      (.cons Nat.zero_lt_one rfl (.cons trivial rfl (.nil _))) rfl
  cases agrees

/-! ## Taps that pause -/

/-- No command to play: taps only while the button shows 'pause', and nothing that asks the player
to play or to resume. -/
def Quiet (r : Receiver URL Image) : Event Image → Prop
  | .playTap _ => r.delegate.playButton = .pause
  | e => ¬ e.Plays

/-- A tap finds no load under way, and it pauses the player or has no address to load. -/
def Pauses (os : Platform URL) (r : Receiver URL Image) : Event Image → Prop
  | .playTap radioURL =>
    r.player.loads = [] ∧ (r.player.isPlaying = true ∨ os.url radioURL = none)
  | _ => True

/-- Whatever happens, without a command to play, nothing is heard. -/
def StaysPaused (os : Platform URL) (ok : Receiver URL Image → Event Image → Prop)
    (r : Receiver URL Image) : Prop :=
  ∀ es r', (system os).Exec r es r' → (system os).AllSteps ok r es → r'.player.isPlaying = false

/-- A quiet event keeps a silent deck silent, if it pauses where it taps. -/
theorem next_silent (h : r.player.Settled) (silent : r.player.deck.Silent) (quiet : Quiet r e)
    (pauses : Pauses os r e) : (next os r e).player.deck.Silent := by
  obtain ⟨_, step⟩ := next_settled os h e
  generalize (next os r e).player.deck = d at step ⊢
  cases step with
  | tapPlaying radioURL playing => simp [silent.1] at playing
  | tap radioURL stopped =>
    have noAddress : os.url radioURL = none := by
      rcases pauses.2 with playing | none
      · rw [← h.deck_playing, stopped] at playing
        cases playing
      · exact none
    rw [noAddress]
    exact Deck.silent_select_none silent.2
  | play command =>
    cases e with
    | playTap radioURL => exact command.elim
    | _ => exact absurd command quiet
  | pause => exact silent.pause
  | load i isPlayable => exact silent.finish i isPlayable
  | skip => exact silent

/-- A tap that pauses leaves the deck silent; any other leaves a load under way. -/
theorem playTap_silent_iff (h : r.player.Settled) (radioURL : String) :
    (r.playTap os radioURL).player.deck.Silent ↔ Pauses os r (.playTap radioURL) := by
  obtain ⟨_, hdeck⟩ := Radio.playTap_settled os h radioURL
  rw [hdeck]
  cases playing : r.player.isPlaying with
  | true => simp [Pauses, playing, Deck.Silent, Deck.pause]
  | false => simp [Pauses, playing, Deck.Silent, Deck.select]

/-- After a tap nothing is heard again, until the next command to play, exactly when the tap found
no load under way and started none. -/
theorem staysPaused_iff (os : Platform URL) (clean : String → String) (image : Image)
    (start radioURL : String) {es : List (Event Image)} {r : Receiver URL Image}
    (run : (system os).Exec (launch os clean image start) es r) :
    StaysPaused os (fun r e => Quiet r e ∧ Pauses os r e) (next os r (.playTap radioURL)) ↔
      Pauses os r (.playTap radioURL) := by
  have settled : r.player.Settled := by
    refine run.invariant' (I := fun r => r.player.Settled)
      (displayed_launch os clean image start).settled ?_
    rintro s e t h _ ⟨⟩
    exact (next_settled os h e).1
  have tapped := (Radio.playTap_settled os settled radioURL).1
  rw [← playTap_silent_iff settled]
  constructor
  · intro stays
    have stopped := stays [] _ (.nil _) trivial
    refine ⟨by rw [tapped.deck_playing]; exact stopped, ?_⟩
    by_contra loading
    -- the first load under way ends well, and plays
    obtain ⟨after, hdeck⟩ := Radio.loadValues_settled tapped 0 true
    have pending : 0 < (r.playTap os radioURL).player.loads.length :=
      List.length_pos_iff.mpr loading
    have silent := stays [.loadValues 0 true] _ (.cons pending rfl (.nil _))
      ⟨⟨id, trivial⟩, fun _ _ => trivial⟩
    have playing := Deck.exists_finish_playing loading
    rw [← hdeck, after.deck_playing] at playing
    exact absurd (playing.symm.trans silent) (by decide)
  · intro silent es' r' run' quiet
    have kept : r'.player.Settled ∧ r'.player.deck.Silent := by
      refine run'.invariant (I := fun r => r.player.Settled ∧ r.player.deck.Silent) quiet
        ⟨tapped, silent⟩ ?_
      rintro s e t ⟨h, silent⟩ _ ⟨quiet, pauses⟩ ⟨⟩
      exact ⟨(next_settled os h e).1, next_silent h silent quiet pauses⟩
    rw [← kept.1.deck_playing]
    exact kept.2.1

/-- The station plays, nothing else is under way: the tap pauses it for good. -/
theorem staysPaused_playing :
    StaysPaused .text (fun r e => Quiet r e ∧ Pauses .text r e)
      (next .text (next .text (launch .text id () "a") (.loadValues 0 true)) (.playTap "a")) :=
  (staysPaused_iff .text id () "a" "a" (.cons (by decide) rfl (.nil _))).mpr ⟨rfl, .inl rfl⟩

/-- A tap on a button that shows 'pause' while the station still loads starts another load, and
playback starts with the first load that succeeds. -/
theorem pause_tap_restarts :
    ¬ ∀ (es : List (Event Unit)) (r : Receiver String Unit),
      (system .text).Exec (launch .text id () "a") es r → r.delegate.playButton = .pause →
        StaysPaused .text Quiet (next .text r (.playTap "a")) := by
  intro claim
  have stopped : true = false :=
    claim [.playTap "a"] _ (.cons trivial rfl (.nil _)) rfl [.loadValues 0 true] _
      (.cons (by decide) rfl (.nil _)) ⟨id, fun _ _ => trivial⟩
  cases stopped

end RockRadio.Playback
