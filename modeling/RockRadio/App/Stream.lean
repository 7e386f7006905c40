import RockRadio.App.System

/-!
# The stream that plays

Answers to the 'social' queries and rows of the side menu announce a stream by writing it to the
global `radioURL`. The player only hears of it when the station is selected, which happens when the
main view is loaded and when the play button is tapped.

The environment here is the one without commands to play or to resume.

## Main results

* `configured_iff_heeded` — what plays is the configured stream, and stays so however the fetches
  and loads under way end, exactly when no event announces another stream while the player plays or
  loads.
-/

namespace RockRadio

/-- The stream that an event of the menu writes to `radioURL`. -/
def Menu.announced {URL : Type} (s : Menu URL) : Menu.Event URL → Option String
  | .mainSocialData (some documents) | .sideSocialData (some documents) =>
    Register.written (fun d : Document => d.data.radioStream) documents
  | .cellForRowAt row _ => s.sideSocialArray[row]?.bind (·.data.radioStream)
  | _ => none

theorem Menu.radioURL_step {URL : Type} {os : Platform URL} {s t : Menu URL} {e : Menu.Event URL}
    (h : s.step os e = .ok t) :
    t.globals.radioURL = (s.announced e).getD s.globals.radioURL := by
  cases e with
  | mainSocialData answer =>
    cases answer with
    | none => cases h; rfl
    | some documents =>
      cases h
      rw [announced, ← Register.lastWrite_eq_written]
      exact radioURL_foldl _ Globals.radioURL_readSocial s.globals documents
  | sideSocialData answer =>
    cases answer with
    | none => cases h; rfl
    | some documents =>
      cases h
      rw [announced, ← Register.lastWrite_eq_written]
      exact radioURL_foldl _ Globals.radioURL_readRadio s.globals documents
  | cellForRowAt row dequeued =>
    obtain ⟨document, hd, rfl⟩ := cellForRowAt_ok h
    simp [announced, hd, showCell]
  | adsData answer => cases answer <;> cases h <;> rfl
  | layoutTable =>
    cases h
    simp only [layoutTable]
    split <;> rfl
  | didSelectRowAt row => rw [step_didSelectRowAt h]; rfl
  | _ => cases h; rfl

namespace App

variable {URL Image : Type} {os : Platform URL} {s t : App URL Image} {e : Event URL Image}

/-- No command to play or to resume. -/
def NoCommand : Event URL Image → Prop
  | .player e => ¬ e.Plays
  | _ => True

/-- The app without such commands. -/
def station (os : Platform URL) : EventSystem (App URL Image) (Event URL Image) Trap :=
  (system os).restrict NoCommand

/-- When no fetch of 'social' and no load is under way and the player plays, it plays the address
that `radioURL` stands for. -/
def PlaysConfigured (os : Platform URL) (s : App URL Image) : Prop :=
  s.menu.mainFetches = 0 → s.menu.sideFetches = 0 → s.radio.player.loads = [] →
    s.radio.player.isPlaying = true → s.radio.player.currentURL = os.url s.radioURL

/-- A fetch fails, or a load ends. -/
def Ends : Event URL Image → Prop
  | .menu (.mainSocialData none) | .menu (.sideSocialData none) | .player (.loadValues ..) => True
  | _ => False

/-- The configured stream plays, and still does however the fetches and loads under way end, when
the fetches bring nothing. -/
def Configured (os : Platform URL) (s : App URL Image) : Prop :=
  ∀ es t, ((system os).restrict Ends).Exec s es t → PlaysConfigured os t

/-- An event that announces a stream while the player plays or loads announces one with the address
that is configured already. -/
def Heeded (os : Platform URL) (s : App URL Image) : Event URL Image → Prop
  | .menu e => ∀ url, s.menu.announced e = some url →
    s.radio.player.isPlaying = true ∨ s.radio.player.loads ≠ [] → os.url url = os.url s.radioURL
  | _ => True

/-- The player is a settled deck, and idle until the main view is loaded. -/
structure Steady (s : App URL Image) : Prop where
  settled : s.radio.player.Settled
  unloaded : s.menu.mainLoaded = false →
    s.radio.player.isPlaying = false ∧ s.radio.player.loads = []

/-- The deck is tuned to the configured stream. -/
def Tuned (os : Platform URL) (s : App URL Image) : Prop :=
  s.radio.player.deck.Tuned (os.url s.radioURL)

theorem Tuned.plays (steady : Steady s) (tuned : Tuned os s) : PlaysConfigured os s := by
  intro _ _ idle playing
  rw [steady.settled.currentURL_eq]
  exact tuned.1 (steady.settled.deck_playing.trans playing) idle

theorem steady_launch (clean : String → String) (image : Image) :
    Steady (launch clean image : App URL Image) :=
  ⟨FRadioPlayer.settled_init clean, fun _ => ⟨rfl, rfl⟩⟩

theorem tuned_launch (clean : String → String) (image : Image) :
    Tuned os (launch clean image : App URL Image) :=
  Deck.tuned_of_idle rfl rfl

/-! ## What a step does -/

theorem radioAfter_of_ne {e : Menu.Event URL} (h : e ≠ .mainViewDidLoad) :
    s.radioAfter os e = s.radio := by
  cases e <;> first | rfl | exact absurd rfl h

/-- Loading the main view aside, the menu does not touch the player. -/
theorem step_menu_of_ne {e : Menu.Event URL} (h : e ≠ .mainViewDidLoad)
    (step : step os s (.menu e) = .ok t) :
    s.menu.step os e = .ok t.menu ∧ t.radio = s.radio := by
  obtain ⟨menu, radio⟩ := step_menu step
  exact ⟨menu, radio.trans (radioAfter_of_ne h)⟩

theorem Steady.step (h : Steady s) (enabled : Enabled s e) (step : step os s e = .ok t) :
    Steady t := by
  cases e with
  | menu e =>
    by_cases loading : e = .mainViewDidLoad
    · subst loading
      obtain ⟨menu, radio⟩ := step_mainViewDidLoad step
      refine ⟨radio ▸ (Radio.viewDidLoad_settled os h.settled s.radioURL).1, fun unloaded => ?_⟩
      rw [menu] at unloaded
      cases unloaded
    · obtain ⟨menu, radio⟩ := step_menu_of_ne loading step
      exact ⟨radio ▸ h.settled, fun unloaded =>
        radio ▸ h.unloaded (Menu.mainLoaded_step menu unloaded)⟩
  | player e =>
    cases step
    refine ⟨(Playback.next_settled os h.settled e).1, fun unloaded => ?_⟩
    have loaded : s.menu.mainLoaded = true := enabled.1
    exact absurd (loaded.symm.trans unloaded) (by decide)
  | _ =>
    obtain ⟨menu, radio⟩ := step_other step nofun nofun
    exact ⟨radio ▸ h.settled, fun unloaded => radio ▸ h.unloaded (menu ▸ unloaded)⟩

/-- The events of the player itself, when none is a command, leave it tuned. -/
theorem tuned_next (steady : Steady s) (tuned : Tuned os s) {e : Playback.Event Image}
    (reads : e.Reads s.radioURL) (noCommand : ¬ e.Plays) :
    Tuned os { s with radio := Playback.next os s.radio e } := by
  obtain ⟨_, step⟩ := Playback.next_settled os steady.settled e
  change (Playback.next os s.radio e).player.deck.Tuned (os.url s.radioURL)
  generalize (Playback.next os s.radio e).player.deck = d at step ⊢
  cases step with
  | tapPlaying radioURL => exact Deck.Tuned.pause tuned
  | tap radioURL =>
    obtain rfl : radioURL = s.radioURL := reads
    exact Deck.Tuned.select tuned
  | play plays => exact absurd plays noCommand
  | pause => exact Deck.Tuned.pause tuned
  | load i isPlayable => exact Deck.Tuned.finish tuned i isPlayable
  | skip => exact tuned

/-- A step keeps the deck tuned exactly when it is heeded. -/
theorem step_tuned_iff (steady : Steady s) (tuned : Tuned os s) (enabled : Enabled s e)
    (noCommand : NoCommand e) (step : step os s e = .ok t) : Tuned os t ↔ Heeded os s e := by
  cases e with
  | menu e =>
    by_cases loading : e = .mainViewDidLoad
    · subst loading
      obtain ⟨menu, radio⟩ := step_mainViewDidLoad step
      refine iff_of_true ?_ nofun
      have sameURL : t.radioURL = s.radioURL := by rw [radioURL, menu]; rfl
      rw [Tuned, radio, sameURL, (Radio.viewDidLoad_settled os steady.settled s.radioURL).2]
      exact Deck.Tuned.select tuned
    · obtain ⟨menu, radio⟩ := step_menu_of_ne loading step
      have url : t.radioURL = (s.menu.announced e).getD s.radioURL := Menu.radioURL_step menu
      rw [Tuned, radio, url, Heeded]
      cases s.menu.announced e with
      | none => exact iff_of_true tuned nofun
      | some announced =>
        rw [Option.getD_some, Deck.Tuned.iff tuned, steady.settled.deck_playing]
        simp
  | player e =>
    cases step
    exact iff_of_true (tuned_next steady tuned enabled.2.2 noCommand) trivial
  | _ =>
    obtain ⟨menu, radio⟩ := step_other step nofun nofun
    refine iff_of_true ?_ trivial
    rw [Tuned, radio, radioURL, menu]
    exact tuned

/-! ## How the loads under way may end -/

/-- The end of a fetch or a load announces nothing. -/
theorem ends_heeded (ends : Ends e) : NoCommand e ∧ Heeded os s e := by
  cases e with
  | menu e =>
    refine ⟨trivial, ?_⟩
    cases e with
    | mainSocialData answer => cases answer <;> [exact nofun; exact ends.elim]
    | sideSocialData answer => cases answer <;> [exact nofun; exact ends.elim]
    | _ => exact ends.elim
  | player e =>
    refine ⟨?_, trivial⟩
    cases e with
    | loadValues i isPlayable => exact id
    | _ => exact ends.elim
  | _ => exact ends.elim

/-- A tuned deck stays tuned to the end of its loads. -/
theorem Tuned.configured (steady : Steady s) (tuned : Tuned os s) : Configured os s := by
  intro es t run
  have kept : Steady t ∧ Tuned os t := by
    refine run.invariant' (I := fun s => Steady s ∧ Tuned os s) ⟨steady, tuned⟩ ?_
    rintro s e t ⟨steady, tuned⟩ ⟨enabled, ends⟩ step
    obtain ⟨noCommand, heeded⟩ := ends_heeded (s := s) ends
    exact ⟨steady.step enabled step,
      (step_tuned_iff steady tuned enabled noCommand step).mpr heeded⟩
  exact kept.2.plays kept.1

/-- All fetches under way may fail. -/
theorem exists_fetches_over (os : Platform URL) (s : App URL Image) :
    ∃ es t, ((system os).restrict Ends).Exec s es t ∧ t.radio = s.radio ∧
      t.radioURL = s.radioURL ∧ t.menu.mainLoaded = s.menu.mainLoaded ∧
      t.menu.mainFetches = 0 ∧ t.menu.sideFetches = 0 := by
  induction hn : s.menu.mainFetches + s.menu.sideFetches generalizing s with
  | zero => exact ⟨[], s, .nil s, rfl, rfl, rfl, by omega, by omega⟩
  | succ n ih =>
    by_cases main : 0 < s.menu.mainFetches
    · obtain ⟨es, t, run, ended⟩ := ih { s with menu := s.menu.mainSocialData none } (by
        simp only [Menu.mainSocialData]
        omega)
      exact ⟨.menu (.mainSocialData none) :: es, t, .cons ⟨main, trivial⟩ rfl run, ended⟩
    · obtain ⟨es, t, run, ended⟩ := ih { s with menu := s.menu.sideSocialData none } (by
        simp only [Menu.sideSocialData]
        omega)
      have side : 0 < s.menu.sideFetches := by omega
      exact ⟨.menu (.sideSocialData none) :: es, t, .cons ⟨side, trivial⟩ rfl run, ended⟩

/-- Any of the loads under way may be the last to end, and end well. -/
theorem exists_load_plays (os : Platform URL) {s : App URL Image} (steady : Steady s) {url : URL}
    (loading : url ∈ s.radio.player.loads) :
    ∃ es t, ((system os).restrict Ends).Exec s es t ∧ t.menu = s.menu ∧
      t.radio.player.loads = [] ∧ t.radio.player.isPlaying = true ∧
      t.radio.player.currentURL = some url := by
  have loaded : s.menu.mainLoaded = true := by
    by_contra unloaded
    rw [(steady.unloaded (eq_false_of_ne_true unloaded)).2] at loading
    cases loading
  induction hn : s.radio.player.loads.length generalizing s with
  | zero =>
    rw [List.length_eq_zero_iff.mp hn] at loading
    cases loading
  | succ n ih =>
    by_cases last : s.radio.player.loads.length = 1
    · obtain ⟨only, hOnly⟩ := List.length_eq_one_iff.mp last
      obtain rfl : url = only := by simpa [hOnly] using loading
      have pending : 0 < s.radio.player.loads.length := by omega
      exact ⟨[.player (.loadValues 0 true)], { s with radio := s.radio.loadValues 0 true },
        .cons ⟨⟨loaded, pending, trivial⟩, trivial⟩ rfl (.nil _), rfl,
        Radio.loadValues_only steady.settled hOnly⟩
    · obtain ⟨i, inside, still⟩ := Deck.exists_other_load (d := s.radio.player.deck) loading last
      rw [FRadioPlayer.deck_loads] at inside still
      have settled := (Radio.loadValues_settled steady.settled i false).1
      have loads := (Radio.loadValues_failed steady.settled inside).2
      have shorter : (s.radio.loadValues i false).player.loads.length = n := by
        rw [loads, List.length_eraseIdx_of_lt inside]
        omega
      have steady' : Steady { s with radio := s.radio.loadValues i false } :=
        ⟨settled, fun unloaded => absurd (loaded.symm.trans unloaded) (by decide)⟩
      obtain ⟨es, t, run, played⟩ := ih steady' (loads ▸ still) loaded shorter
      exact ⟨.player (.loadValues i false) :: es, t,
        .cons ⟨⟨loaded, inside, trivial⟩, trivial⟩ rfl run, played⟩

/-- A deck that is not tuned may end up playing something else. -/
theorem Configured.tuned (steady : Steady s) (configured : Configured os s) : Tuned os s := by
  obtain ⟨es, t, run, radio, url, mainLoaded, main, side⟩ := exists_fetches_over os s
  have steady' : Steady t :=
    ⟨radio ▸ steady.settled, by rw [radio, mainLoaded]; exact steady.unloaded⟩
  rw [Tuned, ← radio, ← url]
  constructor
  · intro playing idle
    rw [← steady'.settled.currentURL_eq]
    exact configured es t run main side idle (steady'.settled.deck_playing.symm.trans playing)
  · intro l hl
    obtain ⟨es', u, run', menu, idle, playing, current⟩ := exists_load_plays os steady' hl
    have plays := configured (es ++ es') u (run.append run')
    rw [PlaysConfigured, current, radioURL, menu] at plays
    exact plays main side idle playing

/-! ## Runs -/

/-- If every event of a run is heeded, then the configured stream is what plays in every state
without a fetch or a load under way. And the condition is the weakest that also withstands any end
of the fetches and loads under way. -/
theorem configured_iff_heeded (os : Platform URL) (clean : String → String) (image : Image)
    {es : List (Event URL Image)} {s : App URL Image}
    (run : (station os).Exec (launch clean image) es s) :
    ((station os).AllSteps (Heeded os) (launch clean image) es →
      (station os).Always (PlaysConfigured os) (launch clean image) es) ∧
    ((station os).Always (Configured os) (launch clean image) es ↔
      (station os).AllSteps (Heeded os) (launch clean image) es) := by
  have exact : (station os).Always (Configured os) (launch clean image) es ↔
      (station os).AllSteps (Heeded os) (launch clean image) es := by
    refine run.always_iff_allSteps (steady_launch clean image)
      ((tuned_launch clean image).configured (steady_launch clean image)) ?_ ?_
    · intro s e t steady enabled step
      exact steady.step enabled.1 step
    · intro s e t steady configured enabled step
      rw [← step_tuned_iff steady (configured.tuned steady) enabled.1 enabled.2 step]
      have steady' := steady.step enabled.1 step
      exact ⟨fun h => h.tuned steady', fun h => h.configured steady'⟩
  refine ⟨fun heeded => ?_, exact⟩
  exact (exact.mpr heeded).mono fun s configured => configured [] s (.nil s)

/-- The station of the launch does not load. Another one is announced and tapped, and announced
again while it plays. -/
def streamAnnounced : List (Event String Unit) :=
  let answer := some [Menu.sampleStation "a" "x"]
  [.menu .sideViewDidLoad, .menu .mainViewDidLoad, .player (.loadValues 0 false),
    .menu (.adsData (some AdBanner.twoAds)), .menu (.mainSocialData answer), .player (.playTap "x"),
    .player (.loadValues 0 true), .menu (.mainSocialData answer), .menu (.sideSocialData answer)]

theorem configured_iff_heeded_announced :
    ((station .text).AllSteps (Heeded .text) (launch id ()) streamAnnounced →
      (station .text).Always (PlaysConfigured .text) (launch id ()) streamAnnounced) ∧
    ((station .text).Always (Configured .text) (launch id ()) streamAnnounced ↔
      (station .text).AllSteps (Heeded .text) (launch id ()) streamAnnounced) :=
  configured_iff_heeded .text id ()
    (.cons ⟨rfl, trivial⟩ rfl <| .cons ⟨rfl, trivial⟩ rfl <|
      .cons ⟨⟨rfl, Nat.zero_lt_one, trivial⟩, id⟩ rfl <| .cons ⟨Nat.zero_lt_one, trivial⟩ rfl <|
      .cons ⟨Nat.zero_lt_two, trivial⟩ rfl <| .cons ⟨⟨rfl, trivial, rfl⟩, id⟩ rfl <|
      .cons ⟨⟨rfl, Nat.zero_lt_one, trivial⟩, id⟩ rfl <| .cons ⟨Nat.zero_lt_one, trivial⟩ rfl <|
      .cons ⟨Nat.zero_lt_one, trivial⟩ rfl (.nil _))

/-- The station plays before the answer with another stream arrives, and plays on. -/
theorem plays_former_stream :
    ¬ ∀ (es : List (Event String Unit)) (s : App String Unit),
      (station .text).Exec (launch id ()) es s → PlaysConfigured .text s := by
  intro claim
  have plays := claim [.menu .mainViewDidLoad, .player (.loadValues 0 true), .menu (.adsData none),
    .menu (.mainSocialData (some [Menu.sampleStation "a" "x"]))] _
    (.cons ⟨rfl, trivial⟩ rfl <| .cons ⟨⟨rfl, Nat.zero_lt_one, trivial⟩, id⟩ rfl <|
      .cons ⟨Nat.zero_lt_one, trivial⟩ rfl <| .cons ⟨Nat.zero_lt_one, trivial⟩ rfl (.nil _))
  have same : some ({} : Globals).radioURL = some "x" := plays rfl rfl rfl rfl
  exact absurd same (by decide)

end App

end RockRadio
