import RockRadio.FRadioPlayer.Device
import RockRadio.MainViewController.Playback

/-!
# Playing on a device

The player and its screen, driven by the app and by the device: the events of `Playback`, changes of
the network and of the audio session, observed values, and the deferred blocks in the order in which
their queues run them.
-/

namespace RockRadio

namespace OnDevice

variable {URL Image : Type}

abbrev State (URL Image : Type) := Device URL (MainViewController Image)

inductive Event (Image : Type) where
  | app (e : Playback.Event Image)
  | flagsDidChange (flags : SCNetworkReachabilityFlags)
  | interruption (type : Option InterruptionType) (shouldResume : Option Bool)
  | routeChange (reason : Option RouteChangeReason) (currentRoute : List Port)
    (previousRoute : Option (List Port))
  /-- the main queue runs its first block -/
  | main (b : Block)
  /-- a second has passed for the item checked first -/
  | recheck
  | likelyToKeepUpDidChange (serial : ℕ) (value : Bool)
  | bufferEmptyDidChange (serial : ℕ) (isEmpty : Bool)
  | statusDidChange (serial : ℕ) (player : AVPlayerStatus)

/-- The event reaches the app by itself, not as a block of the main queue. -/
def isDirect : Playback.Event Image → Bool
  | .interruptionBegan | .interruptionEnded _ | .oldDeviceUnavailable => false
  | _ => true

def Enabled (d : State URL Image) : Event Image → Prop
  | .app e => isDirect e = true ∧ Playback.Enabled d.radio e
  | .main b => d.mainQueue.head? = some b
  | .recheck => d.rechecks ≠ []
  | _ => True

instance (d : State URL Image) (e : Event Image) : Decidable (Enabled d e) := by
  cases e <;> unfold Enabled <;> infer_instance

def next (os : Platform URL) (d : State URL Image) : Event Image → State URL Image
  | .app e => { d with radio := Playback.next os d.radio e }
  | .flagsDidChange flags => d.setFlags flags
  | .interruption type shouldResume => d.handleInterruption type shouldResume
  | .routeChange reason currentRoute previousRoute =>
    d.handleRouteChange reason currentRoute previousRoute
  | .main _ => d.runMain
  | .recheck => d.recheck
  | .likelyToKeepUpDidChange serial value => d.likelyToKeepUpDidChange serial value
  | .bufferEmptyDidChange serial isEmpty => d.valueDidChange serial (.playbackBufferEmpty isEmpty)
  | .statusDidChange serial player => d.valueDidChange serial (.status player)

/-- The app on a device. Nothing here can trap. -/
def system (os : Platform URL) : EventSystem (State URL Image) (Event Image) Empty where
  enabled := Enabled
  step d e := .ok (next os d e)

instance (os : Platform URL) (d : State URL Image) (e : Event Image) :
    Decidable ((system os).enabled d e) :=
  inferInstanceAs (Decidable (Enabled d e))

/-- The state right after `viewDidLoad`. The player has been created before that: starting the
notifier has stored its first flags, which is a change, so its block is on the main queue. -/
def launch (os : Platform URL) (clean : String → String) (image : Image) (radioURL : String)
    (flags : SCNetworkReachabilityFlags) : State URL Image where
  radio := Playback.launch os clean image radioURL
  reachability := { flags }
  isConnected := Reachability.connection { flags } ≠ .none
  mainQueue := [.reachabilityChanged]

/-! ## An outage -/

def online : SCNetworkReachabilityFlags := { reachable := true }

/-- The station plays, the network is lost and comes back, and the item is checked again. -/
def outage : List (Event Unit) :=
  [.main .reachabilityChanged, .app (.loadValues 0 true), .flagsDidChange {},
    .main .reachabilityChanged, .flagsDidChange online, .main .reachabilityChanged, .recheck]

/-- The state after these events, none of which is refused. -/
def afterEvents (os : Platform URL) (d : State URL Image) (es : List (Event Image)) :
    State URL Image :=
  es.foldl (next os) d

theorem exec_outage : (system .text).Exec (launch .text id () "a" online) outage
    (afterEvents .text (launch .text id () "a" online) outage) :=
  EventSystem.replay_sound rfl

/-! ## What an event does to the player -/

/-- The event of `Playback` that the app or a block of the main queue makes. -/
inductive Stands : Event Image → Playback.Event Image → Prop where
  | app (e : Playback.Event Image) : Stands (.app e) e
  | interruptionBegan : Stands (.main .interruptionBegan) .interruptionBegan
  | interruptionEnded (shouldResume : Bool) :
      Stands (.main (.interruptionEnded shouldResume)) (.interruptionEnded shouldResume)
  | oldDeviceUnavailable : Stands (.main .oldDeviceUnavailable) .oldDeviceUnavailable

inductive Effect (os : Platform URL) (d : State URL Image) :
    Event Image → State URL Image → Prop where
  | player {e : Event Image} {a : Playback.Event Image} {d' : State URL Image} : Stands e a →
      Playback.Enabled d.radio a → d'.radio = Playback.next os d.radio a →
      d'.rechecks = d.rechecks → Effect os d e d'
  | observed {e : Event Image} {d' : State URL Image} :
      Device.Observed d.radio d.rechecks d'.radio d'.rechecks → Effect os d e d'
  | resumed {item : AVPlayerItem URL} {d' : State URL Image} :
      d.rechecks = item :: d'.rechecks →
      d'.radio = d.radio.setRate (if d.radio.player.isPlaying then 1 else 0) →
      Effect os d .recheck d'

/-- What holds of the device at all times. -/
structure Tended (d : State URL Image) : Prop where
  settled : d.radio.player.Settled
  headphones : d.headphonesConnected = false
  informed : d.Informed

variable {os : Platform URL} {d : State URL Image} {e : Event Image}

/-- A handler that does not reach the player. -/
theorem Effect.unnoticed {d' : State URL Image} (radio : d'.radio = d.radio)
    (rechecks : d'.rechecks = d.rechecks) : Effect os d e d' := by
  refine .observed ?_
  rw [radio, rechecks]
  exact .same

theorem next_main {b : Block} (os : Platform URL) (enabled : Enabled d (.main b)) :
    ∃ rest, d.mainQueue = b :: rest ∧
      next os d (.main b) = { d with mainQueue := rest }.runBlock b := by
  obtain ⟨rest, queue⟩ := List.head?_eq_some_iff.mp enabled
  exact ⟨rest, queue, by simp only [next, Device.runMain, queue]⟩

theorem next_effect (os : Platform URL) (h : Tended d) (enabled : Enabled d e) :
    Effect os d e (next os d e) := by
  cases e with
  | app e => exact .player (.app e) enabled.2 rfl rfl
  | flagsDidChange flags =>
    simp only [next, Device.setFlags]
    split
    · exact .unnoticed rfl rfl
    · exact .unnoticed rfl rfl
  | interruption type shouldResume =>
    cases type with
    | none => exact .unnoticed rfl rfl
    | some type =>
      cases type with
      | began => exact .unnoticed rfl rfl
      | ended =>
        cases shouldResume with
        | none => exact .unnoticed rfl rfl
        | some resume => exact .unnoticed rfl rfl
  | routeChange reason currentRoute previousRoute =>
    simp only [next, Device.handleRouteChange, Device.checkHeadphonesConnection_eq]
    split
    · exact .unnoticed rfl rfl
    · exact .unnoticed rfl rfl
    · exact .unnoticed rfl rfl
  | main b =>
    obtain ⟨rest, _, run⟩ := next_main os enabled
    rw [run]
    cases b with
    | reachabilityChanged =>
      exact .observed (Device.observed_reachabilityChanged { d with mainQueue := rest })
    | interruptionBegan => exact .player .interruptionBegan trivial rfl rfl
    | interruptionEnded resume => exact .player (.interruptionEnded resume) trivial rfl rfl
    | oldDeviceUnavailable =>
      refine .player .oldDeviceUnavailable trivial ?_ rfl
      simp [Device.runBlock, h.headphones, Playback.next]
  | recheck =>
    obtain ⟨item, rest, pending⟩ := List.exists_cons_of_ne_nil enabled
    have resumed := Device.recheck_eq h.settled pending
    simp only [next, resumed]
    exact .resumed pending rfl
  | likelyToKeepUpDidChange serial value =>
    exact .observed (Device.observed_valueDidChange
      { d with isPlaybackLikelyToKeepUp :=
          Function.update d.isPlaybackLikelyToKeepUp serial value } serial _)
  | bufferEmptyDidChange serial isEmpty =>
    exact .observed (Device.observed_valueDidChange d serial _)
  | statusDidChange serial player =>
    exact .observed (Device.observed_valueDidChange d serial _)

/-! ## What holds at all times -/

theorem tended_launch (os : Platform URL) (clean : String → String) (image : Image)
    (radioURL : String) (flags : SCNetworkReachabilityFlags) :
    Tended (launch os clean image radioURL flags) where
  settled := (Radio.viewDidLoad_settled os (FRadioPlayer.settled_init clean) radioURL).1
  headphones := rfl
  informed quiet := absurd List.mem_cons_self quiet

/-- A handler leaves the deck alone. -/
theorem observed_settled {r s : Receiver URL Image} {items items' : List (AVPlayerItem URL)}
    (seen : Device.Observed r items s items') (h : r.player.Settled) :
    s.player.Settled ∧ s.player.deck = r.player.deck := by
  cases seen with
  | same => exact ⟨h, rfl⟩
  | suspended item => exact Radio.setRate_settled h 0
  | state _ _ => exact Radio.setState_settled h _
  | @stalled state item _ _ =>
    obtain ⟨settled, hdeck⟩ := Radio.setState_settled h state
    obtain ⟨settled', hdeck'⟩ := Radio.setRate_settled settled 0
    exact ⟨settled', hdeck'.trans hdeck⟩

theorem Effect.settled (h : Tended d) {d' : State URL Image} (effect : Effect os d e d') :
    d'.radio.player.Settled := by
  cases effect with
  | player _ _ radio _ =>
    rw [radio]
    exact (Playback.next_settled os h.settled _).1
  | observed seen => exact (observed_settled seen h.settled).1
  | resumed _ radio =>
    rw [radio]
    exact (Radio.setRate_settled h.settled _).1

theorem Tended.next (h : Tended d) (enabled : Enabled d e) : Tended (next os d e) := by
  refine ⟨(next_effect os h enabled).settled h, ?_, ?_⟩
  · cases e with
    | app e => exact h.headphones
    | flagsDidChange flags =>
      simp only [OnDevice.next, Device.setFlags]
      split <;> exact h.headphones
    | interruption type shouldResume =>
      simp only [OnDevice.next, Device.handleInterruption]
      split <;> exact h.headphones
    | routeChange reason currentRoute previousRoute =>
      exact Device.headphones_handleRouteChange h.headphones reason currentRoute previousRoute
    | main b =>
      obtain ⟨rest, _, run⟩ := next_main os enabled
      rw [run, Device.headphones_runBlock]
      exact h.headphones
    | recheck => exact (Device.sameKnowledge_recheck d).headphones.trans h.headphones
    | likelyToKeepUpDidChange serial value =>
      exact (Device.sameKnowledge_valueDidChange _ serial _).headphones.trans h.headphones
    | bufferEmptyDidChange serial isEmpty =>
      exact (Device.sameKnowledge_valueDidChange d serial _).headphones.trans h.headphones
    | statusDidChange serial player =>
      exact (Device.sameKnowledge_valueDidChange d serial _).headphones.trans h.headphones
  · cases e with
    | app e => exact h.informed
    | flagsDidChange flags => exact Device.informed_setFlags h.informed flags
    | interruption type shouldResume =>
      exact Device.informed_handleInterruption h.informed type shouldResume
    | routeChange reason currentRoute previousRoute =>
      exact Device.informed_handleRouteChange h.informed reason currentRoute previousRoute
    | main b =>
      obtain ⟨rest, queue, run⟩ := next_main os enabled
      rw [run]
      exact Device.informed_runBlock h.informed queue
    | recheck => exact (Device.sameKnowledge_recheck d).informed h.informed
    | likelyToKeepUpDidChange serial value =>
      exact (Device.sameKnowledge_valueDidChange _ serial _).informed h.informed
    | bufferEmptyDidChange serial isEmpty =>
      exact (Device.sameKnowledge_valueDidChange d serial _).informed h.informed
    | statusDidChange serial player =>
      exact (Device.sameKnowledge_valueDidChange d serial _).informed h.informed

theorem tended_of_exec {d' : State URL Image} {es : List (Event Image)} (h : Tended d)
    (run : (system os).Exec d es d') : Tended d' :=
  run.invariant' h fun h enabled step => by cases step; exact h.next enabled

/-! ## The device is a deck -/

/-- The event asks the player to pause. -/
def Halts : Playback.Event Image → Prop
  | .remotePause | .remoteControlPause | .remoteControlTogglePlayPause => True
  | .interruptionBegan | .oldDeviceUnavailable => True
  | .interruptionEnded shouldResume => shouldResume = false
  | _ => False

/-- The event of the deck that an event of `Playback` can lead to. -/
inductive Turns (os : Platform URL) : Playback.Event Image → Deck.Event URL → Prop where
  | select (radioURL : String) : Turns os (.playTap radioURL) (.select (os.url radioURL))
  | halt (radioURL : String) : Turns os (.playTap radioURL) .pause
  | finish (i : ℕ) (isPlayable : Bool) : Turns os (.loadValues i isPlayable) (.finish i isPlayable)
  | play {a : Playback.Event Image} : a.Plays → Turns os a .play
  | pause {a : Playback.Event Image} : Halts a → Turns os a .pause

/-- An event of the device leads to the event of the deck that what it stands for leads to. -/
def Answers (os : Platform URL) (e : Event Image) (e' : Deck.Event URL) : Prop :=
  ∃ a, Stands e a ∧ Turns os a e'

theorem deck_next (os : Platform URL) {r : Receiver URL Image} (h : r.player.Settled)
    {a : Playback.Event Image} (enabled : Playback.Enabled r a) :
    (Playback.next os r a).player.deck = r.player.deck ∨
      ∃ e', Turns os a e' ∧ (Deck.system URL).enabled r.player.deck e' ∧
        r.player.deck.next e' = (Playback.next os r a).player.deck := by
  have play := (Radio.play_settled h).2
  have pause := (Radio.pause_settled h).2
  cases a with
  | playTap radioURL =>
    have tap := (Radio.playTap_settled os h radioURL).2
    refine .inr ?_
    simp only [Playback.next, tap]
    split
    · exact ⟨.pause, .halt radioURL, trivial, rfl⟩
    · exact ⟨.select (os.url radioURL), .select radioURL, trivial, rfl⟩
  | remotePlay =>
    simp only [Playback.next, Radio.remotePlay]
    split
    · exact .inr ⟨.play, .play trivial, trivial, play.symm⟩
    · exact .inl rfl
  | remotePause =>
    simp only [Playback.next, Radio.remotePause]
    split
    · exact .inr ⟨.pause, .pause trivial, trivial, pause.symm⟩
    · exact .inl rfl
  | remoteControlPlay => exact .inr ⟨.play, .play trivial, trivial, play.symm⟩
  | remoteControlPause => exact .inr ⟨.pause, .pause trivial, trivial, pause.symm⟩
  | remoteControlTogglePlayPause =>
    have toggle := (Radio.togglePlaying_settled h).2
    refine .inr ?_
    simp only [Playback.next, toggle]
    split
    · exact ⟨.pause, .pause trivial, trivial, rfl⟩
    · exact ⟨.play, .play trivial, trivial, rfl⟩
  | interruptionBegan => exact .inr ⟨.pause, .pause trivial, trivial, pause.symm⟩
  | interruptionEnded shouldResume =>
    cases shouldResume with
    | true => exact .inr ⟨.play, .play rfl, trivial, play.symm⟩
    | false => exact .inr ⟨.pause, .pause rfl, trivial, pause.symm⟩
  | oldDeviceUnavailable => exact .inr ⟨.pause, .pause trivial, trivial, pause.symm⟩
  | rateDidChange rate => exact .inl rfl
  | loadValues i isPlayable =>
    exact .inr ⟨.finish i isPlayable, .finish i isPlayable, enabled,
      (Radio.loadValues_settled h i isPlayable).2.symm⟩
  | metadataOutput value => exact .inl (Radio.timedMetadataDidChange_settled h value).2
  | artworkFound i url => exact .inl rfl

theorem Tended.exists_exec_deck {d' : State URL Image} {es : List (Event Image)} (h : Tended d)
    (run : (system os).Exec d es d') :
    ∃ es', (Deck.system URL).Exec d.radio.player.deck es' d'.radio.player.deck ∧
      es'.SublistForall₂ (fun e' e => Answers os e e') es := by
  refine run.simulate (fun d => d.radio.player.deck) (Answers os) h
    (fun h enabled step => by cases step; exact h.next enabled) ?_
  intro d e t h enabled step
  cases step
  cases next_effect os h enabled with
  | player stands offered radio _ =>
    rw [radio]
    rcases deck_next os h.settled offered with same | ⟨e', turns, enabled', step'⟩
    · exact .inl same
    · exact .inr ⟨e', ⟨_, stands, turns⟩, enabled', congrArg Except.ok step'⟩
  | observed seen => exact .inl (observed_settled seen h.settled).2
  | resumed _ radio =>
    rw [radio]
    exact .inl (Radio.setRate_settled h.settled _).2

/-- Every run of the app on a device is a run of a deck, whose events answer some of the device's,
one each and in their order. Only a tap selects, only the end of a load finishes it, and only the
commands and the blocks of the audio session play or pause: no change of the network, no observed
value and no later check does anything to the deck. -/
theorem deck_of_exec (os : Platform URL) (clean : String → String) (image : Image)
    (radioURL : String) (flags : SCNetworkReachabilityFlags) {d : State URL Image}
    {es : List (Event Image)}
    (run : (system os).Exec (launch os clean image radioURL flags) es d) :
    ∃ es', (Deck.system URL).Exec (Deck.select ⟨none, false, [], nofun⟩ (os.url radioURL)) es'
        d.radio.player.deck ∧
      es'.SublistForall₂ (fun e' e => Answers os e e') es := by
  have launched := (Radio.viewDidLoad_settled os (r := ⟨_, .initial image⟩)
    (FRadioPlayer.settled_init clean) radioURL).2
  have refined := (tended_launch os clean image radioURL flags).exists_exec_deck run
  exact launched ▸ refined

theorem deck_of_exec_outage :
    ∃ es', (Deck.system String).Exec (Deck.select ⟨none, false, [], nofun⟩ (some "a")) es'
        (afterEvents .text (launch .text id () "a" online) outage).radio.player.deck ∧
      es'.SublistForall₂ (fun e' e => Answers .text e e') outage :=
  deck_of_exec .text id () "a" online exec_outage

/-- The event starts the player, or ends a load. -/
def Starts (e : Event Image) : Prop :=
  ∃ a, Stands e a ∧ (a.Plays ∨ ∃ i, a = .loadValues i true)

theorem Answers.starts {e' : Deck.Event URL} (answers : Answers os e e') (starts : e'.Starts) :
    Starts e := by
  obtain ⟨a, stands, turns⟩ := answers
  refine ⟨a, stands, ?_⟩
  cases turns with
  | select radioURL => exact starts.elim
  | halt radioURL => exact starts.elim
  | finish i isPlayable =>
    obtain rfl : isPlayable = true := starts
    exact .inr ⟨i, rfl⟩
  | play plays => exact .inl plays
  | pause _ => exact starts.elim

/-- A player that is paused or stopped stays so until it is asked to play, an interruption ends that
lets it resume, or a load ends well. The network never starts it. -/
theorem paused_of_exec (os : Platform URL) (clean : String → String) (image : Image)
    (radioURL : String) (flags : SCNetworkReachabilityFlags) {d d' : State URL Image}
    {es fs : List (Event Image)}
    (run : (system os).Exec (launch os clean image radioURL flags) es d)
    (paused : d.radio.player.isPlaying = false) (more : (system os).Exec d fs d')
    (quiet : ∀ e ∈ fs, ¬ Starts e) : d'.radio.player.isPlaying = false := by
  have h := tended_of_exec (tended_launch os clean image radioURL flags) run
  obtain ⟨es', deckRun, answered⟩ := h.exists_exec_deck more
  rw [← (tended_of_exec h more).settled.deck_playing]
  refine Deck.stopped_of_exec deckRun (h.settled.deck_playing.trans paused) ?_
  intro e' he' starts
  obtain ⟨e, he, answers⟩ := EventSystem.exists_mem_of_sublistForall₂ answered he'
  exact quiet e he (answers.starts starts)

/-- The listener pauses, the network is lost and comes back, and the item is checked again. -/
theorem paused_of_exec_outage :
    (afterEvents .text (launch .text id () "a" online)
      [.main .reachabilityChanged, .app (.loadValues 0 true), .app .remoteControlPause,
        .flagsDidChange {}, .main .reachabilityChanged, .flagsDidChange online,
        .main .reachabilityChanged, .recheck]).radio.player.isPlaying = false := by
  have run : (system .text).Exec (launch .text id () "a" online)
      [.main .reachabilityChanged, .app (.loadValues 0 true), .app .remoteControlPause] _ :=
    EventSystem.replay_sound rfl
  have lost : (system .text).Exec (afterEvents .text (launch .text id () "a" online)
      [.main .reachabilityChanged, .app (.loadValues 0 true), .app .remoteControlPause])
      [.flagsDidChange {}, .main .reachabilityChanged, .flagsDidChange online,
        .main .reachabilityChanged, .recheck] _ :=
    EventSystem.replay_sound rfl
  refine paused_of_exec .text id () "a" online run rfl lost ?_
  rintro e he ⟨a, stands, starts⟩
  cases stands <;> simp at he

/-! ## The rate of the system player -/

theorem togglePlaying_synced {r : Receiver URL Image} (h : r.player.Settled) :
    r.togglePlaying.Quiet ∧ r.togglePlaying.Awake := by
  unfold Radio.togglePlaying
  split
  · exact Radio.pause_synced h
  · exact Radio.play_synced h

/-- The app sets the rate together with the playback state, or leaves both alone. -/
theorem next_synced (os : Platform URL) {r : Receiver URL Image} (h : r.player.Settled)
    {a : Playback.Event Image} (enabled : Playback.Enabled r a) :
    (Playback.next os r a).Quiet ∧ (Playback.next os r a).Awake ∨
      (Playback.next os r a).player.rate = r.player.rate ∧
        (Playback.next os r a).player.isPlaying = r.player.isPlaying ∨
      ∃ rate, a = .rateDidChange rate ∧ Playback.next os r a = r.setRate rate := by
  have play := Radio.play_synced h
  have pause := Radio.pause_synced h
  cases a with
  | playTap radioURL =>
    refine .inl ?_
    simp only [Playback.next, Radio.playTap]
    split
    · exact ⟨pause.1.congr rfl rfl, pause.2.congr rfl rfl⟩
    · have selected := (Radio.setSelectedIndex_settled os h radioURL 0).1
      obtain ⟨quiet, awake⟩ := togglePlaying_synced selected
      exact ⟨quiet.congr rfl rfl, awake.congr rfl rfl⟩
  | remotePlay =>
    simp only [Playback.next, Radio.remotePlay]
    split
    · exact .inl play
    · exact .inr (.inl ⟨rfl, rfl⟩)
  | remotePause =>
    simp only [Playback.next, Radio.remotePause]
    split
    · exact .inl pause
    · exact .inr (.inl ⟨rfl, rfl⟩)
  | remoteControlPlay => exact .inl play
  | remoteControlPause => exact .inl pause
  | remoteControlTogglePlayPause => exact .inl (togglePlaying_synced h)
  | interruptionBegan => exact .inl pause
  | interruptionEnded shouldResume => cases shouldResume <;> [exact .inl pause; exact .inl play]
  | oldDeviceUnavailable => exact .inl pause
  | rateDidChange rate => exact .inr (.inr ⟨rate, rfl, rfl⟩)
  | loadValues i isPlayable => exact .inl (Radio.loadValues_synced h enabled isPlayable)
  | metadataOutput value => exact .inr (.inl (Radio.timedMetadataDidChange_rate value))
  | artworkFound i url => exact .inr (.inl ⟨rfl, rfl⟩)

theorem observed_quiet {r s : Receiver URL Image} {items items' : List (AVPlayerItem URL)}
    (seen : Device.Observed r items s items') (quiet : r.Quiet) : s.Quiet := by
  cases seen with
  | same => exact quiet
  | suspended item => exact Radio.quiet_setRate_zero
  | state _ _ => exact quiet.congr (by simp [FRadioPlayer.rate]) (by simp [FRadioPlayer.isPlaying])
  | stalled item _ _ => exact Radio.quiet_setRate_zero

/-- The system only ever stops the system player. -/
def StopsOnly : Event Image → Prop
  | .app (.rateDidChange rate) => rate = 0
  | _ => True

theorem quiet_launch (os : Platform URL) (clean : String → String) (image : Image)
    (radioURL : String) :
    (Playback.launch os clean image radioURL).Quiet ∧
      (Playback.launch os clean image radioURL).Awake :=
  Radio.play_synced
    (Radio.setSelectedIndex_settled os (FRadioPlayer.settled_init clean) radioURL 0).1

/-- As long as the system only stops it, the system player never runs while the player is paused or
stopped: not after a change of the network, and not when an item is checked again. -/
theorem quiet_of_exec (os : Platform URL) (clean : String → String) (image : Image)
    (radioURL : String) (flags : SCNetworkReachabilityFlags) {d : State URL Image}
    {es : List (Event Image)}
    (run : (system os).Exec (launch os clean image radioURL flags) es d)
    (stops : ∀ e ∈ es, StopsOnly e) : d.radio.Quiet := by
  refine (run.invariant (I := fun d => Tended d ∧ d.radio.Quiet)
    (EventSystem.allSteps_of_forall_mem _ stops)
    ⟨tended_launch os clean image radioURL flags, (quiet_launch os clean image radioURL).1⟩
    ?_).2
  rintro d e t ⟨h, quiet⟩ enabled stop ⟨⟩
  refine ⟨h.next enabled, ?_⟩
  cases next_effect os h enabled with
  | player stands offered radio _ =>
    rw [radio]
    rcases next_synced os h.settled offered with ⟨kept, _⟩ | ⟨rate, playing⟩ | ⟨q, rfl, set⟩
    · exact kept
    · exact quiet.congr rate playing
    · cases stands
      obtain rfl : q = 0 := stop
      rw [set]
      exact Radio.quiet_setRate_zero
  | observed seen => exact observed_quiet seen quiet
  | resumed _ radio =>
    rw [radio]
    exact Radio.quiet_setRate_playing

theorem quiet_of_exec_outage :
    (afterEvents .text (launch .text id () "a" online) outage).radio.Quiet :=
  quiet_of_exec .text id () "a" online exec_outage (by simp [outage, StopsOnly])

/-- While no item is waiting to be checked again, the system player runs if and only if the player
says it plays, as long as the system leaves its rate alone: whatever a change of the network has
suspended is resumed. -/
theorem rate_of_exec (os : Platform URL) (clean : String → String) (image : Image)
    (radioURL : String) (flags : SCNetworkReachabilityFlags) {d : State URL Image}
    {es : List (Event Image)}
    (run : (system os).Exec (launch os clean image radioURL flags) es d)
    (untouched : ∀ rate, .app (.rateDidChange rate) ∉ es) (checked : d.rechecks = []) :
    d.radio.player.rate = some 1 ↔ d.radio.player.isPlaying = true := by
  have alone : ∀ e ∈ es, ∀ rate, e ≠ .app (.rateDidChange rate) := by
    rintro e he rate rfl
    exact untouched rate he
  obtain ⟨_, quiet, awake⟩ := run.invariant
    (I := fun d => Tended d ∧ d.radio.Quiet ∧ (d.rechecks = [] → d.radio.Awake))
    (EventSystem.allSteps_of_forall_mem _ alone)
    ⟨tended_launch os clean image radioURL flags, (quiet_launch os clean image radioURL).1,
      fun _ => (quiet_launch os clean image radioURL).2⟩ <| by
    rintro d e t ⟨h, quiet, awake⟩ enabled alone ⟨⟩
    refine ⟨h.next enabled, ?_⟩
    cases next_effect os h enabled with
    | player stands offered radio rechecks =>
      rw [radio, rechecks]
      rcases next_synced os h.settled offered with ⟨q, a⟩ | ⟨rate, playing⟩ | ⟨q, rfl, _⟩
      · exact ⟨q, fun _ => a⟩
      · exact ⟨quiet.congr rate playing, fun none => (awake none).congr rate playing⟩
      · cases stands
        exact absurd rfl (alone q)
    | observed seen =>
      refine ⟨observed_quiet seen quiet, ?_⟩
      generalize (next os d e).radio = r at seen
      generalize (next os d e).rechecks = rechecks at seen
      intro none
      cases seen with
      | same => exact awake none
      | suspended item => simp at none
      | state _ _ =>
        exact (awake none).congr (by simp [FRadioPlayer.rate]) (by simp [FRadioPlayer.isPlaying])
      | stalled item _ _ => simp at none
    | resumed _ radio =>
      rw [radio]
      exact ⟨Radio.quiet_setRate_playing, fun _ => Radio.awake_setRate_playing h.settled⟩
  constructor
  · intro running
    exact quiet 1 running one_ne_zero
  · exact awake checked

theorem rate_of_exec_outage :
    (afterEvents .text (launch .text id () "a" online) outage).radio.player.rate = some 1 ↔
      (afterEvents .text (launch .text id () "a" online) outage).radio.player.isPlaying = true :=
  rate_of_exec .text id () "a" online exec_outage (by simp [outage]) rfl

/-! ## What the player knows and reports -/

/-- Whenever no change of the network is still to be announced, the player knows whether it is
connected. -/
theorem informed_of_exec (os : Platform URL) (clean : String → String) (image : Image)
    (radioURL : String) (flags : SCNetworkReachabilityFlags) {d : State URL Image}
    {es : List (Event Image)}
    (run : (system os).Exec (launch os clean image radioURL flags) es d)
    (announced : .reachabilityChanged ∉ d.mainQueue) :
    d.isConnected = decide (d.reachability.connection ≠ .none) :=
  (tended_of_exec (tended_launch os clean image radioURL flags) run).informed announced

theorem informed_of_exec_outage :
    (afterEvents .text (launch .text id () "a" online) outage).isConnected =
      decide ((afterEvents .text (launch .text id () "a" online) outage).reachability.connection ≠
        .none) :=
  informed_of_exec .text id () "a" online exec_outage (List.not_mem_nil)

theorem togglePlaying_reports {r : Receiver URL Image} (h : r.player.Reports) :
    r.togglePlaying.player.Reports := by
  unfold Radio.togglePlaying
  split
  · exact Radio.pause_reports h
  · exact Radio.play_reports h

theorem setSelectedIndex_reports (os : Platform URL) {r : Receiver URL Image}
    (h : r.player.Settled) (radioURL : String) (index : ℤ) :
    (r.setSelectedIndex os radioURL index).player.Reports :=
  Radio.setRadioURL_reports (r := ⟨r.player, r.delegate.correctIndex index⟩) h (os.url radioURL)

theorem next_reports (os : Platform URL) {r : Receiver URL Image} (h : r.player.Settled)
    (reports : r.player.Reports) {a : Playback.Event Image} (enabled : Playback.Enabled r a) :
    (Playback.next os r a).player.Reports := by
  have play := Radio.play_reports reports
  have pause := Radio.pause_reports reports
  cases a with
  | playTap radioURL =>
    simp only [Playback.next, Radio.playTap]
    split
    · exact pause
    · exact togglePlaying_reports (setSelectedIndex_reports os h radioURL 0)
  | remotePlay => simp only [Playback.next, Radio.remotePlay]; split <;> assumption
  | remotePause => simp only [Playback.next, Radio.remotePause]; split <;> assumption
  | remoteControlPlay => exact play
  | remoteControlPause => exact pause
  | remoteControlTogglePlayPause => exact togglePlaying_reports reports
  | interruptionBegan => exact pause
  | interruptionEnded shouldResume => cases shouldResume <;> [exact pause; exact play]
  | oldDeviceUnavailable => exact pause
  | rateDidChange rate => exact ⟨reports.unset, reports.ready, reports.loading⟩
  | loadValues i isPlayable => exact Radio.loadValues_reports h reports enabled isPlayable
  | metadataOutput value => exact Radio.timedMetadataDidChange_reports reports value
  | artworkFound i url => exact ⟨reports.unset, reports.ready, reports.loading⟩

/-- In every state the app can reach on a device, the state of the player can be trusted. -/
theorem reports_of_exec (os : Platform URL) (clean : String → String) (image : Image)
    (radioURL : String) (flags : SCNetworkReachabilityFlags) {d : State URL Image}
    {es : List (Event Image)}
    (run : (system os).Exec (launch os clean image radioURL flags) es d) :
    d.radio.player.Reports := by
  have launched : (launch os clean image radioURL flags).radio.player.Reports :=
    Radio.play_reports (setSelectedIndex_reports os (FRadioPlayer.settled_init clean) radioURL 0)
  refine (run.invariant' (I := fun d => Tended d ∧ d.radio.player.Reports)
    ⟨tended_launch os clean image radioURL flags, launched⟩ ?_).2
  rintro d e t ⟨h, reports⟩ enabled ⟨⟩
  refine ⟨h.next enabled, ?_⟩
  cases next_effect os h enabled with
  | player stands offered radio _ =>
    rw [radio]
    exact next_reports os h.settled reports offered
  | observed seen => exact seen.reports reports
  | resumed _ radio =>
    rw [radio]
    exact ⟨reports.unset, reports.ready, reports.loading⟩

theorem reports_of_exec_outage :
    (afterEvents .text (launch .text id () "a" online) outage).radio.player.Reports :=
  reports_of_exec .text id () "a" online exec_outage

end OnDevice

end RockRadio
