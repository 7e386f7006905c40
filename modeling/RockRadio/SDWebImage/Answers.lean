import RockRadio.SDWebImage.InFlight

/-!
# How often a load is answered

A load is answered at most once, and the answer is final. The one way to lose a load that nobody
cancels is to share a download too late, after the download has looked at its callbacks for the last
time.
-/

namespace RockRadio

namespace ImageLoading

variable {View URL Image : Type*} {s t : ImageLoading View URL Image}
variable {l l' : CombinedOperation View URL}

/-! ## Steps -/

variable {Serves : URL → Image → Prop} {e : Event View URL Image}

theorem loaderOperation_runIOBlock [DecidableEq URL] (s : ImageLoading View URL Image)
    (decodes : Bool) : (s.runIO decodes).loaderOperation = s.loaderOperation := by
  unfold runIO queryDisk
  split
  · rfl
  · split <;> rfl
  · rfl

variable [DecidableEq View] [DecidableEq URL]

/-- The operation joins a download that has looked at its callbacks for the last time. -/
def Late (s : ImageLoading View URL Image) (l : CombinedOperation View URL) :
    Event View URL Image → Prop
  | .addHandlers =>
    ∃ k d, s.sharing = some (l, k) ∧ s.downloads k = some d ∧ d.isListening = false
  | _ => False

/-- Every operation was answered once, or has at most one thing on its way to answer it. -/
structure Accounts (s : ImageLoading View URL Image) : Prop where
  tidy : s.Tidy
  older : ∀ {l k}, s.loaderOperation l = some k → l.serial < s.created
  once : ∀ l, s.total l ≤ 1

theorem Accounts.of_settles (h : s.Accounts) (settles : Settles s [] t) (tidy : t.Tidy)
    (older : ∀ {l k}, t.loaderOperation l = some k → l.serial < t.created) : t.Accounts :=
  ⟨tidy, older, fun l => Nat.le_trans (settles l).1 (h.once l)⟩

/-- A block that is about to run has something to say to an operation without an answer. -/
theorem Accounts.unanswered (h : s.Accounts) : s.Unanswered := by
  intro b first
  obtain ⟨rest, queue⟩ := List.head?_eq_some_iff.mp first
  have taken := total_popMain queue b.operation
  have once := h.once b.operation
  rw [List.count_singleton_self] at taken
  rw [total] at taken
  refine List.eq_nil_of_length_eq_zero ?_
  dsimp only at taken
  omega

theorem loaderOperation_cancel (s : ImageLoading View URL Image) (l : CombinedOperation View URL) :
    (s.cancel l).loaderOperation = s.loaderOperation := by
  rcases manager_cancel s l with same | ⟨k, d, _, changed⟩
  · rw [same]
  · rw [changed]

theorem loaderOperation_vacate (s : ImageLoading View URL Image) (view : View) (url : Option URL) :
    (s.vacate view url).loaderOperation = s.loaderOperation := by
  rcases manager_vacate s view url with same | ⟨l, same⟩
  · rw [same]
  · rw [same, loaderOperation_cancel]

theorem loaderOperation_loadImage (s : ImageLoading View URL Image)
    (l : CombinedOperation View URL) : (s.loadImage l).loaderOperation = s.loaderOperation := by
  unfold loadImage callCacheProcess
  split
  · rw [manager_complete]
  · split
    · rw [manager_complete]
    · rfl

theorem loaderOperation_cacheDone {image : Option Image} {k : ℕ}
    (h : (s.cacheDone l image).loaderOperation l' = some k) :
    l' = l ∨ s.loaderOperation l' = some k := by
  have started (h : (s.startDownload l).loaderOperation l' = some k) :
      l' = l ∨ s.loaderOperation l' = some k := by
    by_cases same : l' = l
    · exact .inl same
    · exact .inr ((Function.update_of_ne same _ _).symm.trans h)
  unfold cacheDone at h
  split at h
  · exact .inr h
  · cases image with
    | some image =>
      dsimp only at h
      rw [manager_complete] at h
      exact .inr h
    | none =>
      dsimp only [downloadImage] at h
      split at h
      · exact started h
      · split at h
        · exact started h
        · split at h
          · exact started h
          · exact .inr h

theorem loaderOperation_loaderDone (s : ImageLoading View URL Image)
    (l : CombinedOperation View URL) (result : Except LoadError Image) :
    (s.loaderDone l result).loaderOperation = s.loaderOperation := by
  unfold loaderDone
  split
  · rfl
  · cases result with
    | ok image =>
      dsimp only
      rw [manager_complete]
      rfl
    | error error =>
      dsimp only
      split <;> rfl

/-- An operation that nobody has made yet. -/
theorem total_fresh (h : s.Accounts) (current : s.Current) (new : s.created ≤ l.serial) :
    s.total l = 0 ∧ s.loaderOperation l = none := by
  have noDownload : s.loaderOperation l = none := by
    cases hk : s.loaderOperation l with
    | none => rfl
    | some k => exact absurd (h.older hk) (Nat.not_lt.mpr new)
  have noWait : ¬ s.Waits l := fun waits => absurd (current.waits l waits).1 (Nat.not_lt.mpr new)
  have noQuery : l ∉ s.ioQueue.filterMap IOBlock.operation := by
    intro mem
    obtain ⟨b, hb, operation⟩ := List.mem_filterMap.mp mem
    cases b with
    | query l' =>
      cases operation
      exact noWait (.query hb)
    | store url image => cases operation
  have noBlock : l ∉ s.mainQueue.map MainBlock.operation := by
    intro mem
    obtain ⟨b, hb, operation⟩ := List.mem_map.mp mem
    cases b with
    | cacheDone l' image =>
      cases operation
      exact noWait (.cacheDone hb)
    | loaderDone l' result =>
      cases operation
      exact noWait (.loaderDone hb)
  have noSharing : l ∉ (s.sharing.map Prod.fst).toList := by
    intro mem
    simp only [Option.mem_toList, Option.map_eq_some_iff, Prod.exists,
      exists_and_right, exists_eq_right] at mem
    obtain ⟨k, hk⟩ := mem
    exact noWait (.sharing hk)
  refine ⟨?_, noDownload⟩
  simp [total, ImageManager.inFlight, ImageManager.queued, ImageManager.owed,
    (current.fresh l new).2, noDownload, List.count_eq_zero.mpr noQuery,
    List.count_eq_zero.mpr noBlock, List.count_eq_zero.mpr noSharing]

theorem Accounts.vacate (h : s.Accounts) (view : View) (url : Option URL) :
    (s.vacate view url).Accounts := by
  refine h.of_settles (settles_vacate h.tidy view url) (tidy_vacate h.tidy view url) ?_
  intro l k hk
  rw [loaderOperation_vacate] at hk
  obtain ⟨_, views, _⟩ := views_vacate s view url
  rw [views]
  exact h.older hk

/-- The new operation of a view is answered at once or has something on its way, and the operations
of the other views are left as they were. -/
theorem Accounts.setImage (h : s.Accounts) (sound : s.Sound Serves) (view : View)
    (url : Option URL) : (s.sd_setImage view url).Accounts ∧
      s.created ≤ (s.sd_setImage view url).created ∧
      ∀ {v l}, (s.sd_setImage view url).imageLoadOperation v = some l →
        s.created ≤ l.serial ∧ (s.sd_setImage view url).total l = 1 ∨
          s.imageLoadOperation v = some l ∧ (s.sd_setImage view url).total l = s.total l := by
  have vacated := h.vacate view url
  have sound' := sound.vacate view url
  have settles := settles_vacate h.tidy view url
  have old {v : View} {l : CombinedOperation View URL} (hne : v ≠ view)
      (hl : (s.vacate view url).imageLoadOperation v = some l) :
      s.imageLoadOperation v = some l ∧ (s.vacate view url).total l = s.total l := by
    have active := sound'.current.active hl
    obtain ⟨_, views, _⟩ := views_vacate s view url
    rw [views] at hl
    exact ⟨(Function.update_of_ne hne _ _).symm.trans hl, (settles l).2 active⟩
  have vacant := (vacate_current sound.current view url).2
  have same : (s.vacate view url).created = s.created := by
    obtain ⟨_, views, _⟩ := views_vacate s view url
    rw [views]
  cases url with
  | none =>
    refine ⟨vacated, Nat.le_of_eq same.symm, fun {v l} hl => .inr (old ?_ hl)⟩
    rintro rfl
    exact Option.some_ne_none _ (hl.symm.trans vacant)
  | some url =>
    obtain ⟨s', t, l, hs', hl, ht, set⟩ := setImage_some s view url
    rw [← hs'] at vacated sound' old same
    rw [set]
    obtain ⟨noAnswer, new⟩ := total_fresh (l := l) vacated sound'.current (hl ▸ Nat.le_refl _)
    have loaded := settles_loadImage { s' with created := s'.created + 1 } l
    have tidy := tidy_loadImage (s := { s' with created := s'.created + 1 }) vacated.tidy new
    have loader := loaderOperation_loadImage { s' with created := s'.created + 1 } l
    obtain ⟨created, operations, _⟩ := operations_loadImage { s' with created := s'.created + 1 } l
    rw [← ht] at loaded tidy loader created operations
    have after := (sound.setImage view (some url)).current
    rw [set] at after
    refine ⟨⟨tidy, fun {l₁ k} hk => ?_, fun l₁ => ?_⟩, ?_, fun {v l₁} hl₁ => ?_⟩
    · dsimp only at hk ⊢
      rw [loader] at hk
      rw [created]
      exact Nat.lt_succ_of_lt (vacated.older hk)
    · have atMost : t.total l₁ ≤ s'.total l₁ + [l].count l₁ := (loaded l₁).1
      by_cases same : l₁ = l
      · subst same
        rw [noAnswer, List.count_singleton_self] at atMost
        exact atMost
      · rw [List.count_eq_zero.mpr (by simpa using same)] at atMost
        exact Nat.le_trans atMost (vacated.once l₁)
    · dsimp only
      rw [created, same]
      exact Nat.le_succ _
    · have total : t.total l₁ = s'.total l₁ + [l].count l₁ := (loaded l₁).2 (after.active hl₁)
      by_cases here : v = view
      · subst here
        obtain rfl : l = l₁ := by simpa using hl₁
        rw [noAnswer, List.count_singleton_self] at total
        exact .inl ⟨hl ▸ Nat.le_of_eq same.symm, total⟩
      · dsimp only at hl₁
        rw [Function.update_of_ne here, operations] at hl₁
        obtain ⟨before, kept⟩ := old here hl₁
        have other : l₁ ≠ l := by
          rintro rfl
          exact absurd (sound'.current.created hl₁) (by rw [hl]; exact Nat.lt_irrefl _)
        rw [List.count_eq_zero.mpr (by simpa using other), Nat.add_zero] at total
        exact .inr ⟨before, total.trans kept⟩

/-- What was taken out of a queue is not in it twice. -/
theorem Accounts.noAsk (h : s.Accounts) {m : ImageManager View URL Image}
    (taken : (s.completions l).length + m.inFlight l + 1 ≤ s.total l) : ¬ m.Asks l := by
  intro asks
  have pos := ImageManager.inFlight_pos asks
  have once := h.once l
  omega

theorem Accounts.runMain (h : s.Accounts) (sound : s.Sound Serves) (noSharing : s.sharing = none) :
    s.runMain.Accounts ∧ Settles s [] s.runMain := by
  unfold ImageLoading.runMain
  split
  · exact ⟨h, settles_of_total fun l => rfl⟩
  · rename_i l image rest queue
    have first : .cacheDone l image ∈ s.mainQueue := queue ▸ List.mem_cons_self
    have new := h.tidy.asks l (.cacheDone first)
    have popped := h.tidy.popMain queue
    have balance := total_popMain queue
    have noAsk : ¬ ImageManager.Asks { s.toImageManager with mainQueue := rest } l := by
      refine h.noAsk (Nat.le_of_eq ?_)
      rw [← balance l]
      simp [total, MainBlock.operation]
    have settles := (settles_cacheDone (s := { s with mainQueue := rest }) popped new noSharing
      image).of_pop balance
    refine ⟨h.of_settles settles
      (tidy_cacheDone (s := { s with mainQueue := rest }) popped new noAsk image) ?_, settles⟩
    intro l' k hk
    rw [(operations_cacheDone _ _ _).1]
    rcases loaderOperation_cacheDone hk with rfl | hk
    · exact (sound.current.waits l' (.cacheDone first)).1
    · exact h.older hk
  · rename_i l result rest queue
    have settles := (settles_loaderDone { s with mainQueue := rest } l result).of_pop
      (total_popMain queue)
    refine ⟨h.of_settles settles
      (tidy_loaderDone (s := { s with mainQueue := rest }) (h.tidy.popMain queue) l result) ?_,
      settles⟩
    intro l' k hk
    rw [loaderOperation_loaderDone] at hk
    rw [(operations_loaderDone _ _ _).1]
    exact h.older hk

/-- The operation is answered in time unless it comes late. -/
theorem Accounts.addHandlers (h : s.Accounts) (sound : s.Sound Serves) :
    s.addHandlers.Accounts ∧
      ∀ l, (s.Late l .addHandlers → s.addHandlers.total l = 0) ∧
        (¬ s.Late l .addHandlers → s.addHandlers.total l = s.total l) := by
  cases hl : s.sharing with
  | none =>
    have same : s.addHandlers = s := by simp [ImageLoading.addHandlers, hl]
    rw [same]
    refine ⟨h, fun l => ⟨?_, fun _ => rfl⟩⟩
    rintro ⟨k, d, shared, _⟩
    exact absurd (shared.symm.trans hl) (Option.some_ne_none _)
  | some shared =>
    obtain ⟨l, k⟩ := shared
    obtain ⟨d, hd, _⟩ := sound.served.sharing hl
    have new := h.tidy.asks l (.sharing hl)
    have free (l' : CombinedOperation View URL) :
        ImageManager.inFlight { s.toImageManager with sharing := none } l' + [l].count l' =
          s.inFlight l' := by
      refine (ImageManager.inFlight_congr ?_ ?_ ?_).symm
      · rfl
      · rfl
      · simp [ImageManager.queued, hl]
    have tidy : ImageManager.Tidy { s.toImageManager with sharing := none } := by
      refine { h.tidy with asks := fun l' asks => h.tidy.asks l' ?_ }
      cases asks with
      | query asked => exact .query asked
      | cacheDone asked => exact .cacheDone asked
      | sharing asked => cases asked
    have noAsk : ¬ ImageManager.Asks { s.toImageManager with sharing := none } l := by
      refine h.noAsk (Nat.le_of_eq ?_)
      rw [total, ← free l, List.count_singleton_self]
      omega
    have older : k < s.started := sound.served.started hd
    have joined := ImageManager.inFlight_addHandlers tidy new hd
    have added : s.addHandlers = { s with
        sharing := none
        loaderOperation := Function.update s.loaderOperation l (some k)
        downloads := Function.update s.downloads k
          (some { d with callbackTokens := d.callbackTokens ++ [l] }) } := by
      simp [ImageLoading.addHandlers, hl, hd, setDownload]
    have balance (l' : CombinedOperation View URL) : s.addHandlers.total l' +
        (if d.isListening = true then 0 else [l].count l') = s.total l' := by
      have joined := joined l'
      have free := free l'
      rw [added]
      simp only [total]
      dsimp only at joined free ⊢
      split at joined
      · rename_i listening
        rw [if_pos listening]
        omega
      · rename_i deaf
        rw [if_neg deaf]
        omega
    have late : s.Late l .addHandlers ↔ d.isListening = false := by
      simp [Late, hl, hd]
    refine ⟨⟨?_, fun {l' k'} hk => ?_, fun l' => ?_⟩, fun l' => ?_⟩
    · rw [added]
      exact tidy.addHandlers new noAsk hd older
    · rw [added] at hk ⊢
      dsimp only at hk
      by_cases same : l' = l
      · subst same
        exact (sound.current.waits l' (.sharing hl)).1
      · rw [Function.update_of_ne same] at hk
        exact h.older hk
    · have := balance l'
      have := h.once l'
      omega
    · by_cases same : l' = l
      · subst same
        have balance := balance l'
        have once := h.once l'
        rw [late, List.count_singleton_self] at *
        constructor
        · intro deaf
          rw [deaf] at balance
          simp at balance
          omega
        · intro listening
          simpa [listening] using balance
      · have other : [l].count l' = 0 := by simpa [List.count_eq_zero] using same
        have onTime : ¬ s.Late l' .addHandlers := by
          rintro ⟨k', d', shared, _⟩
          rw [hl] at shared
          cases shared
          exact same rfl
        refine ⟨fun lost => absurd lost onTime, fun _ => ?_⟩
        simpa [other] using balance l'

theorem loaderOperation_proceed (s : ImageLoading View URL Image) (k : ℕ) :
    (s.proceed k).loaderOperation = s.loaderOperation := by
  unfold proceed
  split
  · rfl
  · split
    · rfl
    · rfl
    · unfold checkDone
      dsimp only
      split <;> rfl
    · rfl

/-- What a step does to the answers of the operations the views have afterwards. -/
structure Advances (s : ImageLoading View URL Image) (e : Event View URL Image)
    (t : ImageLoading View URL Image) : Prop where
  accounts : t.Accounts
  created : s.created ≤ t.created
  total : ∀ {v l}, t.imageLoadOperation v = some l → s.created ≤ l.serial ∧ t.total l = 1 ∨
    s.imageLoadOperation v = some l ∧ (s.Late l e → t.total l = 0) ∧
      (¬ s.Late l e → t.total l = s.total l)

theorem Advances.of_settles (h : s.Accounts) (settles : Settles s [] t) (tidy : t.Tidy)
    (loader : t.loaderOperation = s.loaderOperation) (views : t.toImageViews = s.toImageViews)
    (current : s.Current) (onTime : ∀ l, ¬ s.Late l e) : Advances s e t := by
  refine ⟨h.of_settles settles tidy ?_, ?_, ?_⟩
  · intro l k hk
    rw [views]
    exact h.older (loader ▸ hk)
  · exact Nat.le_of_eq (congrArg ImageViews.created views).symm
  · intro v l hl
    rw [views] at hl
    refine .inr ⟨hl, fun late => absurd late (onTime l), fun _ => (settles l).2 ?_⟩
    rw [views]
    exact current.active hl

theorem Accounts.next (h : s.Accounts) (sound : s.Sound Serves) (enabled : s.Enabled Serves e) :
    Advances s e (s.next e) := by
  have current := sound.current
  cases e with
  | sd_setImage view url =>
    obtain ⟨accounts, created, total⟩ := h.setImage sound view url
    refine ⟨accounts, created, fun hl => ?_⟩
    exact (total hl).imp_right fun old => ⟨old.1, False.elim, fun _ => old.2⟩
  | main =>
    obtain ⟨accounts, settles⟩ := h.runMain sound enabled.1
    obtain ⟨created, operations, _⟩ := operations_runMain s
    refine ⟨accounts, Nat.le_of_eq created.symm, fun {v l} hl => .inr ⟨?_, False.elim, fun _ => ?_⟩⟩
    · exact operations ▸ hl
    · exact (settles l).2 ((sound.next h.unanswered enabled).current.active hl)
  | addHandlers =>
    obtain ⟨accounts, total⟩ := h.addHandlers sound
    have views := views_addHandlers s
    refine ⟨accounts, ?_, fun {v l} hl => .inr ⟨?_, total l⟩⟩
    · exact Nat.le_of_eq (congrArg ImageViews.created views).symm
    · exact (congrArg (·.imageLoadOperation v) views).symm.trans hl
  | io decodes =>
    exact .of_settles h (settles_runIOBlock s decodes) (tidy_runIOBlock h.tidy decodes)
      (loaderOperation_runIOBlock s decodes) (views_runIOBlock s decodes) current fun _ => id
  | didFail k error =>
    obtain ⟨d, hd, stage, going⟩ := enabled
    have tells := tells_didFail stage going
    simp only [ImageLoading.next, hd]
    exact .of_settles h (settles_tell h.tidy hd tells _) (tidy_tell h.tidy hd tells _) rfl rfl
      current fun _ => id
  | didReceive k image =>
    obtain ⟨d, hd, stage, going, _⟩ := enabled
    obtain ⟨settles, tidy⟩ := didReceive_tells h.tidy hd stage going image
    simp only [ImageLoading.next, hd]
    refine .of_settles h settles tidy ?_ ?_ current fun _ => id
    · unfold didReceive
      split <;> rfl
    · unfold didReceive
      split <;> rfl
  | proceed k =>
    obtain ⟨d, hd, _, going⟩ := enabled
    obtain ⟨settles, tidy⟩ := proceed_tells h.tidy hd going
    exact .of_settles h settles tidy (loaderOperation_proceed s k) (views_proceed s k) current
      fun _ => id
  | removeOperation k =>
    obtain ⟨_, d, hd, _⟩ := enabled
    simp only [ImageLoading.next, removeOperation, hd]
    exact .of_settles h (settles_of_total fun l => rfl)
      { h.tidy with asks := fun l asks => h.tidy.asks l (asks.congr rfl rfl rfl) } rfl rfl
      current fun _ => id
  | evict url =>
    exact .of_settles h (settles_of_total fun l => rfl)
      { h.tidy with asks := fun l asks => h.tidy.asks l (asks.congr rfl rfl rfl) } rfl rfl
      current fun _ => id
  | expire url =>
    exact .of_settles h (settles_of_total fun l => rfl)
      { h.tidy with asks := fun l asks => h.tidy.asks l (asks.congr rfl rfl rfl) } rfl rfl
      current fun _ => id

/-! ## Over whole runs -/

/-- Nothing is on its way: the queues are empty and every download has come to its end. -/
structure Quiet (s : ImageLoading View URL Image) : Prop where
  ioQueue : s.ioQueue = []
  mainQueue : s.mainQueue = []
  sharing : s.sharing = none
  running : ∀ {k d}, s.downloads k = some d → d.stage = .running → d.Over
  ended : ∀ {k d}, s.downloads k = some d → d.stage ≠ .running → d.isFinished = true

theorem Quiet.inFlight_eq_zero (quiet : s.Quiet) (tidy : s.Tidy) (l : CombinedOperation View URL) :
    s.inFlight l = 0 := by
  have owed : s.owed l = 0 := by
    unfold ImageManager.owed
    split
    · rfl
    · rename_i d hd
      obtain ⟨k, _, hk⟩ := Option.bind_eq_some_iff.mp hd
      have deaf : d.isListening = false := by
        unfold DownloaderOperation.isListening
        split
        · rename_i stage
          rcases quiet.running hk stage with isOver | isOver <;> simp [isOver]
        · rfl
        · rename_i stage
          rw [quiet.ended hk (by rw [stage]; nofun)]
          rfl
      have pending : d.stage.pending = [] := by
        by_cases stage : d.stage = .running
        · rw [stage]
          rfl
        · exact tidy.finished hk (quiet.ended hk stage)
      simp [DownloaderOperation.owes, deaf, pending]
  simp [ImageManager.inFlight, ImageManager.queued, quiet.ioQueue, quiet.mainQueue, quiet.sharing,
    owed]

theorem accounts_launch (diskCache : URL → Option Image) :
    (launch diskCache : ImageLoading View URL Image).Accounts where
  tidy :=
    { asks := fun _ _ => rfl
      remembers := nofun
      started := nofun
      finished := nofun }
  older := nofun
  once _ := Nat.zero_le _

variable {diskCache : URL → Option Image} {es : List (Event View URL Image)}

theorem accounts_of_exec (run : (system Serves).Exec s es t) (sound : s.Sound Serves)
    (accounts : s.Accounts) : t.Sound Serves ∧ t.Accounts :=
  run.invariant' (I := fun s => s.Sound Serves ∧ s.Accounts) ⟨sound, accounts⟩
    fun h enabled step => by
      cases step
      exact ⟨h.1.next h.2.unanswered enabled, (h.2.next h.1 enabled).accounts⟩

/-- An operation that never comes late keeps what it is owed. -/
theorem total_of_exec (run : (system Serves).Exec s es t) (sound : s.Sound Serves)
    (accounts : s.Accounts) (inTime : (system Serves).AllSteps (fun s e => ¬ s.Late l e) s es)
    (start : ∀ v, s.imageLoadOperation v = some l → s.total l = 1) :
    ∀ v, t.imageLoadOperation v = some l → t.total l = 1 := by
  refine (run.invariant (I := fun s => s.Sound Serves ∧ s.Accounts ∧
    ∀ v, s.imageLoadOperation v = some l → s.total l = 1) inTime ⟨sound, accounts, start⟩ ?_).2.2
  rintro s e t ⟨sound, accounts, owed⟩ enabled onTime ⟨⟩
  have advances := accounts.next sound enabled
  refine ⟨sound.next accounts.unanswered enabled, advances.accounts, fun v hl => ?_⟩
  rcases advances.total hl with ⟨_, one⟩ | ⟨before, _, same⟩
  · exact one
  · exact (same onTime).trans (owed v before)

/-- What was lost stays lost. -/
theorem lost_of_exec (run : (system Serves).Exec s es t) (sound : s.Sound Serves)
    (accounts : s.Accounts) (older : l.serial < s.created)
    (lost : ∀ v, s.imageLoadOperation v = some l → s.total l = 0) :
    ∀ v, t.imageLoadOperation v = some l → t.total l = 0 := by
  refine (run.invariant' (I := fun s => s.Sound Serves ∧ s.Accounts ∧ l.serial < s.created ∧
    ∀ v, s.imageLoadOperation v = some l → s.total l = 0) ⟨sound, accounts, older, lost⟩ ?_).2.2.2
  rintro s e t ⟨sound, accounts, older, lost⟩ enabled ⟨⟩
  have advances := accounts.next sound enabled
  refine ⟨sound.next accounts.unanswered enabled, advances.accounts,
    Nat.lt_of_lt_of_le older advances.created, ?_⟩
  intro v hl
  rcases advances.total hl with ⟨newer, _⟩ | ⟨before, late, same⟩
  · exact absurd newer (Nat.not_le.mpr older)
  · by_cases isLate : s.Late l e
    · exact late isLate
    · exact (same isLate).trans (lost v before)

theorem total_of_late (run : (system Serves).Exec s es t) (sound : s.Sound Serves)
    (accounts : s.Accounts) (late : ¬ (system Serves).AllSteps (fun s e => ¬ s.Late l e) s es) :
    ∀ v, t.imageLoadOperation v = some l → t.total l = 0 := by
  induction run with
  | nil => exact absurd trivial late
  | @cons s s' t e es enabled step run ih =>
    cases step
    have advances := accounts.next sound enabled
    have sound' := sound.next accounts.unanswered enabled
    by_cases now : s.Late l e
    · refine lost_of_exec run sound' advances.accounts ?_ fun v hl => ?_
      · cases e with
        | addHandlers =>
          obtain ⟨k, d, shared, _⟩ := now
          exact Nat.lt_of_lt_of_le (sound.current.waits l (.sharing shared)).1 advances.created
        | _ => cases now
      · rcases advances.total hl with ⟨newer, _⟩ | ⟨_, late, _⟩
        · cases e with
          | addHandlers =>
            obtain ⟨k, d, shared, _⟩ := now
            exact absurd newer (Nat.not_le.mpr (sound.current.waits l (.sharing shared)).1)
          | _ => cases now
        · exact late now
    · refine ih sound' advances.accounts fun inTime => late ⟨now, ?_⟩
      rintro _ ⟨⟩
      exact inTime

theorem sound_of_exec {diskCache : URL → Option Image}
    (stored : ∀ url i, diskCache url = some i → Serves url i) {es : List (Event View URL Image)}
    (run : (system Serves).Exec (launch diskCache) es s) : Sound Serves s :=
  (accounts_of_exec run (sound_launch stored) (accounts_launch diskCache)).1

/-- Whatever happens on the queues, and in whatever order, a view shows nothing or an image served
under the last address it was given. -/
theorem picture_of_exec {diskCache : URL → Option Image}
    (stored : ∀ url i, diskCache url = some i → Serves url i) {es : List (Event View URL Image)}
    (run : (system Serves).Exec (launch diskCache) es s) {v : View} {image : Image}
    (shown : s.image v = some image) : ∃ url, s.imageURL v = some url ∧ Serves url image :=
  (sound_of_exec stored run).picture shown

/-- A view is given the address `8` when the answer for `7` is on the main queue. -/
def reuseEvents : List (Event ℕ ℕ ℕ) :=
  [.sd_setImage 0 (some 7), .io true, .main, .didReceive 0 (some 7), .proceed 0,
    .sd_setImage 0 (some 8), .main, .io true, .main, .didReceive 1 (some 8), .proceed 1, .main]

theorem picture_of_exec_reused : ∃ s : ImageLoading ℕ ℕ ℕ,
    (system (· = ·)).Exec (launch fun _ => none) reuseEvents s ∧
      ∃ url, s.imageURL 0 = some url ∧ url = 8 := by
  have run : (system (· = ·)).Exec (launch fun _ => none : ImageLoading ℕ ℕ ℕ) reuseEvents _ :=
    .cons rfl rfl <| .cons (List.cons_ne_nil _ _) rfl <| .cons ⟨rfl, List.cons_ne_nil _ _⟩ rfl <|
      .cons ⟨_, rfl, rfl, by simp [DownloaderOperation.Over], by simp⟩ rfl <|
      .cons ⟨_, rfl, by simp, rfl⟩ rfl <| .cons rfl rfl <|
      .cons ⟨rfl, List.cons_ne_nil _ _⟩ rfl <| .cons (List.cons_ne_nil _ _) rfl <|
      .cons ⟨rfl, List.cons_ne_nil _ _⟩ rfl <|
      .cons ⟨_, rfl, rfl, by simp [DownloaderOperation.Over], by simp⟩ rfl <|
      .cons ⟨_, rfl, by simp, rfl⟩ rfl <| .cons ⟨rfl, List.cons_ne_nil _ _⟩ rfl <| .nil _
  exact ⟨_, run, picture_of_exec (by simp) run rfl⟩

/-- Two views want the image `7`, and the download ends while the second is about to share it. -/
def raceEvents : List (Event ℕ ℕ ℕ) :=
  [.sd_setImage 0 (some 7), .io true, .main, .sd_setImage 1 (some 7), .io true,
    .didReceive 0 (some 7), .proceed 0, .main, .proceed 0, .addHandlers, .main, .io true, .io true]

def afterRace : ImageLoading ℕ ℕ ℕ := raceEvents.foldl next (launch fun _ => none)

theorem exec_race : (system (· = ·)).Exec (launch fun _ => none) raceEvents afterRace :=
  .cons rfl rfl <| .cons nofun rfl <| .cons ⟨rfl, nofun⟩ rfl <| .cons rfl rfl <|
    .cons nofun rfl <| .cons ⟨_, rfl, rfl, by simp [DownloaderOperation.Over], by simp⟩ rfl <|
    .cons ⟨_, rfl, nofun, rfl⟩ rfl <| .cons ⟨rfl, nofun⟩ rfl <| .cons ⟨_, rfl, nofun, rfl⟩ rfl <|
    .cons nofun rfl <| .cons ⟨rfl, nofun⟩ rfl <| .cons nofun rfl <| .cons nofun rfl <| .nil _

/-- No load is ever answered twice. -/
theorem once_of_exec (stored : ∀ url i, diskCache url = some i → Serves url i)
    (run : (system Serves).Exec (launch diskCache) es s) (l : CombinedOperation View URL) :
    (s.completions l).length ≤ 1 := by
  have accounts := (accounts_of_exec run (sound_launch stored) (accounts_launch diskCache)).2
  exact Nat.le_trans (Nat.le_add_right _ _) (accounts.once l)

/-- Once everything is quiet, what a view loads has been answered, and the view shows the answer,
exactly if it did not share a download too late. -/
theorem answered_iff_of_exec (stored : ∀ url i, diskCache url = some i → Serves url i)
    (run : (system Serves).Exec (launch diskCache) es s) (quiet : s.Quiet) {v : View}
    (loads : s.imageLoadOperation v = some l) :
    (∃ result, s.completions l = [result] ∧ s.image v = result.toOption) ↔
      (system Serves).AllSteps (fun s e => ¬ s.Late l e) (launch diskCache) es := by
  obtain ⟨sound, accounts⟩ := accounts_of_exec run (sound_launch stored) (accounts_launch diskCache)
  have total : s.total l = (s.completions l).length := by
    rw [ImageLoading.total, quiet.inFlight_eq_zero accounts.tidy, Nat.add_zero]
  constructor
  · rintro ⟨result, answered, _⟩
    by_contra late
    have none := total_of_late run (sound_launch stored) (accounts_launch diskCache) late v loads
    rw [total, answered] at none
    cases none
  · intro inTime
    have one := total_of_exec run (sound_launch stored) (accounts_launch diskCache) inTime
      (fun _ none => by cases none) v loads
    rw [total, List.length_eq_one_iff] at one
    obtain ⟨result, answered⟩ := one
    refine ⟨result, answered, ?_⟩
    rw [sound.current.shown loads, answered]
    cases result <;> rfl

theorem once_of_exec_race : (afterRace.completions ⟨0, 0, 7⟩).length ≤ 1 :=
  once_of_exec nofun exec_race _

theorem quiet_race : afterRace.Quiet := by
  obtain ⟨sound, _⟩ := accounts_of_exec exec_race (sound_launch nofun) (accounts_launch _)
  have only {k : ℕ} {d : DownloaderOperation ℕ ℕ ℕ} (hd : afterRace.downloads k = some d) :
      k = 0 := by
    have older : k < 1 := sound.served.started hd
    omega
  refine ⟨rfl, rfl, rfl, fun {k d} hd stage => ?_, fun {k d} hd _ => ?_⟩
  · obtain rfl := only hd
    cases hd
    exact .inl rfl
  · obtain rfl := only hd
    cases hd
    rfl

/-- The second view has lost the race, and its load. -/
theorem answered_iff_of_exec_race :
    ((∃ result, afterRace.completions ⟨1, 1, 7⟩ = [result] ∧
        afterRace.image 1 = result.toOption) ↔
      (system (· = ·)).AllSteps (fun s e => ¬ s.Late ⟨1, 1, 7⟩ e) (launch fun _ => none)
        raceEvents) ∧
    afterRace.completions ⟨1, 1, 7⟩ = [] ∧ afterRace.completions ⟨0, 0, 7⟩ = [.ok 7] :=
  ⟨answered_iff_of_exec nofun exec_race quiet_race rfl, rfl, rfl⟩

/-! ## An answer is final -/

theorem suffix_of_eq {α : Type*} {xs ys : List α} (same : xs = ys) : xs <:+ ys :=
  same ▸ List.suffix_rfl

theorem suffix_complete (s : ImageLoading View URL Image) (l l' : CombinedOperation View URL)
    (result : Except LoadError Image) :
    s.completions l' <:+ (s.complete l result).completions l' := by
  have completions : (s.complete l result).completions =
      Function.update s.completions l (result :: s.completions l) := by cases result <;> rfl
  rw [completions]
  by_cases same : l' = l
  · subst same
    rw [Function.update_self]
    exact List.suffix_cons _ _
  · exact suffix_of_eq (Function.update_of_ne same _ _).symm

theorem suffix_vacate (s : ImageLoading View URL Image) (view : View) (url : Option URL)
    (l : CombinedOperation View URL) : s.completions l <:+ (s.vacate view url).completions l := by
  obtain ⟨_, views, _⟩ := views_vacate s view url
  exact suffix_of_eq (congrArg (·.completions l) views).symm

theorem suffix_loadImage (s : ImageLoading View URL Image) (l l' : CombinedOperation View URL) :
    s.completions l' <:+ (s.loadImage l).completions l' := by
  unfold loadImage callCacheProcess
  split
  · exact suffix_complete _ _ _ _
  · split
    · exact suffix_complete _ _ _ _
    · exact List.suffix_rfl

theorem suffix_cacheDone (s : ImageLoading View URL Image) (l l' : CombinedOperation View URL)
    (image : Option Image) : s.completions l' <:+ (s.cacheDone l image).completions l' := by
  unfold cacheDone
  split
  · exact List.suffix_rfl
  · cases image with
    | some image => exact suffix_complete _ _ _ _
    | none =>
      dsimp only [downloadImage]
      split
      · exact List.suffix_rfl
      · split
        · exact List.suffix_rfl
        · split <;> exact List.suffix_rfl

theorem suffix_loaderDone (s : ImageLoading View URL Image) (l l' : CombinedOperation View URL)
    (result : Except LoadError Image) :
    s.completions l' <:+ (s.loaderDone l result).completions l' := by
  unfold loaderDone
  split
  · exact List.suffix_rfl
  · cases result with
    | ok image => exact suffix_complete (s.storeImage l.url image) _ _ _
    | error error =>
      dsimp only
      split <;> exact suffix_complete _ _ _ _

/-- What an operation was answered is never taken back. -/
theorem suffix_next (s : ImageLoading View URL Image) (e : Event View URL Image)
    (l : CombinedOperation View URL) : s.completions l <:+ (s.next e).completions l := by
  have unchanged {t : ImageLoading View URL Image} (views : t.toImageViews = s.toImageViews) :
      s.completions l <:+ t.completions l :=
    suffix_of_eq (congrArg (·.completions l) views).symm
  cases e with
  | sd_setImage view url =>
    cases url with
    | none => exact suffix_vacate s view none l
    | some url =>
      obtain ⟨s', t, l', hs', _, ht, set⟩ := setImage_some s view url
      have loaded := suffix_loadImage { s' with created := s'.created + 1 } l' l
      rw [← ht] at loaded
      simp only [next, set]
      exact (hs' ▸ suffix_vacate s view (some url) l).trans loaded
  | main =>
    simp only [next, runMain]
    split
    · exact List.suffix_rfl
    · rename_i l' image rest _
      exact suffix_cacheDone { s with mainQueue := rest } l' l image
    · rename_i l' result rest _
      exact suffix_loaderDone { s with mainQueue := rest } l' l result
  | addHandlers => exact unchanged (views_addHandlers s)
  | io decodes => exact unchanged (views_runIOBlock s decodes)
  | didFail k error =>
    simp only [next]
    split <;> exact List.suffix_rfl
  | didReceive k image =>
    simp only [next]
    split
    · exact List.suffix_rfl
    · unfold didReceive
      split <;> exact List.suffix_rfl
  | proceed k => exact unchanged (views_proceed s k)
  | removeOperation k =>
    simp only [next, removeOperation]
    split <;> exact List.suffix_rfl
  | evict url => exact List.suffix_rfl
  | expire url => exact List.suffix_rfl

/-- An answer stays what it is. -/
theorem answer_of_exec (run : (system Serves).Exec s es t) (sound : s.Sound Serves)
    (accounts : s.Accounts) {result : Except LoadError Image}
    (answered : s.completions l = [result]) : t.completions l = [result] := by
  refine (run.invariant' (I := fun s => s.Sound Serves ∧ s.Accounts ∧ s.completions l = [result])
    ⟨sound, accounts, answered⟩ ?_).2.2
  rintro s e t ⟨sound, accounts, answered⟩ enabled ⟨⟩
  have advances := accounts.next sound enabled
  refine ⟨sound.next accounts.unanswered enabled, advances.accounts, ?_⟩
  have longer := suffix_next s e l
  rw [answered] at longer
  have once : ((s.next e).completions l).length ≤ 1 :=
    Nat.le_trans (Nat.le_add_right _ _) (advances.accounts.once l)
  exact (longer.eq_of_length_le once).symm

theorem imageLoadOperation_of_exec (run : (system Serves).Exec s es t) {v : View}
    (kept : ∀ e ∈ es, ∀ url, e ≠ .sd_setImage v url) :
    t.imageLoadOperation v = s.imageLoadOperation v := by
  refine run.invariant (I := fun t => t.imageLoadOperation v = s.imageLoadOperation v)
    (EventSystem.allSteps_of_forall_mem s kept) rfl ?_
  rintro s e t same _ here ⟨⟩
  exact (wants_next s here).1.trans same

/-! ## Addresses that failed -/

theorem failedURLs_cancel (s : ImageLoading View URL Image) (l : CombinedOperation View URL) :
    (s.cancel l).failedURLs = s.failedURLs := by
  rcases manager_cancel s l with same | ⟨k, d, _, changed⟩
  · rw [same]
  · rw [changed]

theorem failedURLs_vacate (s : ImageLoading View URL Image) (view : View) (url : Option URL) :
    (s.vacate view url).failedURLs = s.failedURLs := by
  rcases manager_vacate s view url with same | ⟨l, same⟩
  · rw [same]
  · rw [same, failedURLs_cancel]

theorem failedURLs_loadImage (s : ImageLoading View URL Image) (l : CombinedOperation View URL) :
    (s.loadImage l).failedURLs = s.failedURLs := by
  unfold loadImage callCacheProcess
  split
  · rw [manager_complete]
  · split
    · rw [manager_complete]
    · rfl

theorem failedURLs_cacheDone (s : ImageLoading View URL Image) (l : CombinedOperation View URL)
    (image : Option Image) : (s.cacheDone l image).failedURLs = s.failedURLs := by
  unfold cacheDone
  split
  · rfl
  · cases image with
    | some image => rfl
    | none =>
      dsimp only [downloadImage]
      split
      · rfl
      · split
        · rfl
        · split <;> rfl

theorem subset_failedURLs_loaderDone (s : ImageLoading View URL Image)
    (l : CombinedOperation View URL) (result : Except LoadError Image) :
    s.failedURLs ⊆ (s.loaderDone l result).failedURLs := by
  unfold loaderDone
  split
  · exact List.Subset.refl _
  · cases result with
    | ok image => exact List.Subset.refl _
    | error error =>
      dsimp only
      split
      · exact List.subset_cons_self _ _
      · exact List.Subset.refl _

/-- An address that has failed is remembered for good. -/
theorem subset_failedURLs_next (s : ImageLoading View URL Image) (e : Event View URL Image) :
    s.failedURLs ⊆ (s.next e).failedURLs := by
  have unchanged {t : ImageLoading View URL Image} (same : t.failedURLs = s.failedURLs) :
      s.failedURLs ⊆ t.failedURLs := by
    rw [same]
    exact List.Subset.refl _
  cases e with
  | sd_setImage view url =>
    cases url with
    | none => exact unchanged (failedURLs_vacate s view none)
    | some url =>
      obtain ⟨s', t, l, hs', _, ht, set⟩ := setImage_some s view url
      have loaded := failedURLs_loadImage { s' with created := s'.created + 1 } l
      rw [← ht, hs'] at loaded
      simp only [next, set]
      exact unchanged (loaded.trans (failedURLs_vacate s view (some url)))
  | main =>
    simp only [next, runMain]
    split
    · exact List.Subset.refl _
    · rename_i l image rest _
      exact unchanged (failedURLs_cacheDone { s with mainQueue := rest } l image)
    · rename_i l result rest _
      exact subset_failedURLs_loaderDone { s with mainQueue := rest } l result
  | addHandlers =>
    refine unchanged ?_
    simp only [next, addHandlers]
    split
    · rfl
    · split <;> rfl
  | io decodes =>
    refine unchanged ?_
    simp only [next, runIO, queryDisk]
    split
    · rfl
    · split <;> rfl
    · rfl
  | didFail k error =>
    simp only [next]
    split <;> exact List.Subset.refl _
  | didReceive k image =>
    simp only [next]
    split
    · exact List.Subset.refl _
    · unfold didReceive
      split <;> exact List.Subset.refl _
  | proceed k =>
    refine unchanged ?_
    simp only [next, proceed]
    split
    · rfl
    · split
      · rfl
      · rfl
      · unfold checkDone
        dsimp only
        split <;> rfl
      · rfl
  | removeOperation k =>
    simp only [next, removeOperation]
    split <;> exact List.Subset.refl _
  | evict url => exact List.Subset.refl _
  | expire url => exact List.Subset.refl _

/-- A load that begins with an address that has failed is refused at once. -/
theorem completions_setImage (h : s.Sound Serves) {view : View} {url : URL}
    (failed : url ∈ s.failedURLs)
    (loads : (s.sd_setImage view (some url)).imageLoadOperation view = some l) :
    (s.sd_setImage view (some url)).completions l = [.error (.sdWebImage .blackListed)] := by
  obtain ⟨s', t, l', hs', hl', ht, set⟩ := setImage_some s view url
  rw [set] at loads ⊢
  obtain rfl : l' = l := by simpa using loads
  have vacated := (h.vacate view (some url)).current
  rw [← hs'] at vacated
  have noAnswer := (vacated.fresh l' (hl' ▸ Nat.le_refl _)).2
  have remembered : l'.url ∈ s'.failedURLs := by
    rw [hl', hs', failedURLs_vacate]
    exact failed
  have refused : t = ({ s' with created := s'.created + 1 } : ImageLoading View URL Image).complete
      l' (.error (.sdWebImage .blackListed)) := by
    rw [ht, loadImage, if_pos remembered]
  rw [refused]
  simp [ImageLoading.complete, noAnswer]

/-- A view that is given an address after it has failed shows nothing, from then on until it is
given another one, and whatever the server sends in the meantime. -/
theorem blackListed_of_exec (stored : ∀ url i, diskCache url = some i → Serves url i)
    (run : (system Serves).Exec (launch diskCache) es s) (failed : l.url ∈ s.failedURLs)
    {es' : List (Event View URL Image)} (later : (system Serves).Exec s es' t) {v : View}
    (loads : t.imageLoadOperation v = some l) (new : s.imageLoadOperation v ≠ some l) :
    t.completions l = [.error (.sdWebImage .blackListed)] ∧ t.image v = none := by
  obtain ⟨sound, accounts⟩ := accounts_of_exec run (sound_launch stored) (accounts_launch diskCache)
  have kept := later.invariant' (I := fun t => t.Sound Serves ∧ t.Accounts ∧
    l.url ∈ t.failedURLs ∧ (t.imageLoadOperation v = some l →
      s.imageLoadOperation v = some l ∨ t.completions l = [.error (.sdWebImage .blackListed)]))
    ⟨sound, accounts, failed, fun loads => .inl loads⟩ ?_
  · have refused := (kept.2.2.2 loads).resolve_left new
    refine ⟨refused, ?_⟩
    rw [kept.1.current.shown loads, refused]
    rfl
  · rintro s' e t' ⟨sound, accounts, failed, refused⟩ enabled ⟨⟩
    have sound' := sound.next accounts.unanswered enabled
    refine ⟨sound', (accounts.next sound enabled).accounts, subset_failedURLs_next s' e failed,
      fun loads => ?_⟩
    by_cases given : ∃ url, e = .sd_setImage v url
    · obtain ⟨url, rfl⟩ := given
      cases url with
      | none =>
        have vacant := (vacate_current sound.current v none).2
        exact absurd (loads.symm.trans vacant) (Option.some_ne_none _)
      | some url =>
        have here : l.url = url := by
          have wanted := sound'.current.url loads
          exact Option.some.inj (wanted.symm.trans (imageURL_setImage s' v (some url)))
        exact .inr (completions_setImage sound (here ▸ failed) loads)
    · have kept : ∀ url, e ≠ .sd_setImage v url := fun url eq => given ⟨url, eq⟩
      rw [(wants_next s' kept).1] at loads
      refine (refused loads).imp_right fun refused => ?_
      have run : (system Serves).Exec s' [e] (s'.next e) := .cons enabled rfl (.nil _)
      exact answer_of_exec run sound accounts refused

/-- The server answers without data for the image `7`, and another view wants it later. -/
def refusedEvents : List (Event ℕ ℕ ℕ) :=
  [.sd_setImage 0 (some 7), .io true, .main, .didFail 0 (.sdWebImage .badImageData), .main]

def afterRefusal : ImageLoading ℕ ℕ ℕ := refusedEvents.foldl next (launch fun _ => none)

theorem exec_refused : (system (· = ·)).Exec (launch fun _ => none) refusedEvents afterRefusal :=
  .cons rfl rfl <| .cons nofun rfl <| .cons ⟨rfl, nofun⟩ rfl <|
    .cons ⟨_, rfl, rfl, by simp [DownloaderOperation.Over]⟩ rfl <| .cons ⟨rfl, nofun⟩ rfl <| .nil _

theorem blackListed_of_exec_refused :
    (afterRefusal.sd_setImage 1 (some 7)).completions ⟨1, 1, 7⟩ =
        [.error (.sdWebImage .blackListed)] ∧
      (afterRefusal.sd_setImage 1 (some 7)).image 1 = none := by
  have failed : 7 ∈ afterRefusal.failedURLs := by decide
  have none : afterRefusal.imageLoadOperation 1 = none := rfl
  have later : (system (· = ·)).Exec afterRefusal [.sd_setImage 1 (some 7)]
      (afterRefusal.sd_setImage 1 (some 7)) := .cons rfl rfl (.nil _)
  refine blackListed_of_exec nofun exec_refused failed later rfl ?_
  rw [none]
  exact (Option.some_ne_none _).symm

end ImageLoading

end RockRadio
