import RockRadio.SDWebImage.Manager
import Mathlib.Tactic.Common

/-!
# What a view shows

Whatever the queues do in the meantime, a view shows nothing or an image served under the last
address it was given: an operation that still waits for something is either cancelled or the
operation of its view, so its result is for what the view wants now.
-/

namespace RockRadio

variable {View URL Image : Type*}

def MainBlock.operation : MainBlock View URL Image → CombinedOperation View URL
  | .cacheDone l _ => l
  | .loaderDone l _ => l

namespace ImageLoading

variable {s : ImageLoading View URL Image} {Serves : URL → Image → Prop}
variable {l l' : CombinedOperation View URL}

/-! ## What holds of the views -/

/-- The block has something to say to an operation that has not been answered. -/
def Unanswered (s : ImageLoading View URL Image) : Prop :=
  ∀ b ∈ s.mainQueue.head?, s.completions b.operation = []

/-- The image of the latest answer that was one. -/
def outcome (answers : List (Except LoadError Image)) : Option Image :=
  answers.findSome? Except.toOption

@[simp] theorem outcome_nil : outcome ([] : List (Except LoadError Image)) = none := rfl

@[simp] theorem outcome_ok (image : Image) (answers : List (Except LoadError Image)) :
    outcome (.ok image :: answers) = some image := rfl

@[simp] theorem outcome_error (error : LoadError) (answers : List (Except LoadError Image)) :
    outcome (.error error :: answers) = outcome answers := rfl

/-- Every view knows the operation that loads its image, and every other operation that still waits
is cancelled or answered. -/
structure Current (s : ImageLoading View URL Image) : Prop where
  fresh : ∀ l : CombinedOperation View URL, s.created ≤ l.serial →
    s.isCancelled l = false ∧ s.completions l = []
  waits : ∀ l, s.Waits l → l.serial < s.created ∧
    (s.isCancelled l = false → s.completions l = [] → s.imageLoadOperation l.view = some l)
  view : ∀ {v l}, s.imageLoadOperation v = some l → l.view = v
  created : ∀ {v l}, s.imageLoadOperation v = some l → l.serial < s.created
  active : ∀ {v l}, s.imageLoadOperation v = some l → s.isCancelled l = false
  url : ∀ {v l}, s.imageLoadOperation v = some l → s.imageURL v = some l.url
  shown : ∀ {v l}, s.imageLoadOperation v = some l → s.image v = outcome (s.completions l)
  blank : ∀ {v}, s.imageLoadOperation v = none → s.image v = none

/-- What leaves the views alone, and lets nothing new wait. -/
theorem Current.of_waits {t : ImageLoading View URL Image} (h : s.Current)
    (views : t.toImageViews = s.toImageViews) (waits : ∀ l, t.Waits l → s.Waits l) :
    t.Current := by
  obtain ⟨tv, tm⟩ := t
  obtain rfl : tv = s.toImageViews := views
  exact { h with waits := fun l hl => h.waits l (waits l hl) }

/-- Everything is in order: what the manager holds was served where it says, the views know their
operations, and what a view shows was served under the address its operation loads. -/
structure Sound (Serves : URL → Image → Prop) (s : ImageLoading View URL Image) : Prop where
  served : s.Served Serves
  current : s.Current
  pictures : ∀ {v l i}, s.imageLoadOperation v = some l → s.image v = some i → Serves l.url i

theorem Sound.of_waits {t : ImageLoading View URL Image} (h : s.Sound Serves)
    (served : t.Served Serves) (views : t.toImageViews = s.toImageViews)
    (waits : ∀ l, t.Waits l → s.Waits l) : t.Sound Serves := by
  refine ⟨served, h.current.of_waits views waits, ?_⟩
  obtain ⟨tv, tm⟩ := t
  obtain rfl : tv = s.toImageViews := views
  exact h.pictures

/-- What a view shows is served under the address it was given. -/
theorem Sound.picture (sound : s.Sound Serves) {v : View} {image : Image}
    (shown : s.image v = some image) : ∃ url, s.imageURL v = some url ∧ Serves url image := by
  cases hop : s.imageLoadOperation v with
  | none =>
    rw [sound.current.blank hop] at shown
    cases shown
  | some l => exact ⟨l.url, sound.current.url hop, sound.pictures hop shown⟩

/-- Before anything is loaded. The disk cache holds what was stored in earlier sessions. -/
def launch (diskCache : URL → Option Image) : ImageLoading View URL Image := { diskCache }

theorem sound_launch {diskCache : URL → Option Image}
    (stored : ∀ url i, diskCache url = some i → Serves url i) :
    (launch diskCache : ImageLoading View URL Image).Sound Serves where
  served :=
    { memory := nofun
      disk := fun h => stored _ _ h
      store := nofun
      cacheDone := nofun
      loaderDone := nofun
      downloads := nofun
      sharing := nofun
      operations := nofun
      started := nofun }
  current :=
    { fresh := fun _ _ => ⟨rfl, rfl⟩
      waits := fun l h => by cases h <;> contradiction
      view := nofun
      created := nofun
      active := nofun
      url := nofun
      shown := nofun
      blank := fun _ => rfl }
  pictures := nofun

/-! ## What the operations do to the views -/

/-- A view without an operation is given a new one, which may have been answered already. -/
theorem current_load [DecidableEq View] (h : s.Current) {view : View} {url : URL}
    (vacant : s.imageLoadOperation view = none) (given : s.imageURL view = some url)
    {t : ImageLoading View URL Image} (l : CombinedOperation View URL)
    (hl : l = ⟨s.created, view, url⟩)
    {completions : CombinedOperation View URL → List (Except LoadError Image)}
    {image : View → Option Image}
    (views : t.toImageViews =
      { s.toImageViews with created := s.created + 1, completions, image })
    (shown : image view = outcome (completions l))
    (others : ∀ l', l' ≠ l → completions l' = s.completions l')
    (elsewhere : ∀ v, v ≠ view → image v = s.image v)
    (waits : ∀ l', t.Waits l' → l' = l ∨ s.Waits l') :
    Current { t with
      imageLoadOperation := Function.update t.imageLoadOperation view (some l) } := by
  obtain ⟨tv, tm⟩ := t
  obtain rfl := views
  have old {v : View} {l' : CombinedOperation View URL}
      (hl' : Function.update s.imageLoadOperation view (some l) v = some l') :
      v = view ∧ l' = l ∨ v ≠ view ∧ s.imageLoadOperation v = some l' := by
    by_cases here : v = view
    · subst here
      rw [Function.update_self] at hl'
      exact .inl ⟨rfl, (Option.some.inj hl').symm⟩
    · exact .inr ⟨here, by rwa [Function.update_of_ne here] at hl'⟩
  subst hl
  constructor
  · intro l' newer
    have ne : l' ≠ ⟨s.created, view, url⟩ := by
      rintro rfl
      exact absurd newer (Nat.not_succ_le_self _)
    obtain ⟨active, noAnswer⟩ := h.fresh l' (Nat.le_of_succ_le newer)
    exact ⟨active, (others l' ne).trans noAnswer⟩
  · intro l' hl'
    rcases waits l' hl' with rfl | hl'
    · exact ⟨Nat.lt_succ_self _, fun _ _ => Function.update_self _ _ _⟩
    · obtain ⟨older, current⟩ := h.waits l' hl'
      refine ⟨Nat.lt_succ_of_lt older, fun active noAnswer => ?_⟩
      have ne : l' ≠ ⟨s.created, view, url⟩ := by
        rintro rfl
        exact absurd older (Nat.lt_irrefl _)
      have hop := current active ((others l' ne).symm.trans noAnswer)
      have there : l'.view ≠ view := by
        rintro rfl
        exact Option.some_ne_none _ (hop.symm.trans vacant)
      simpa [Function.update_of_ne there] using hop
  · intro v l' hl'
    rcases old hl' with ⟨rfl, rfl⟩ | ⟨_, hl'⟩
    · rfl
    · exact h.view hl'
  · intro v l' hl'
    rcases old hl' with ⟨rfl, rfl⟩ | ⟨_, hl'⟩
    · exact Nat.lt_succ_self _
    · exact Nat.lt_succ_of_lt (h.created hl')
  · intro v l' hl'
    rcases old hl' with ⟨rfl, rfl⟩ | ⟨_, hl'⟩
    · exact (h.fresh _ (Nat.le_refl _)).1
    · exact h.active hl'
  · intro v l' hl'
    rcases old hl' with ⟨rfl, rfl⟩ | ⟨_, hl'⟩
    · exact given
    · exact h.url hl'
  · intro v l' hl'
    rcases old hl' with ⟨rfl, rfl⟩ | ⟨there, hl'⟩
    · exact shown
    · have older : l' ≠ ⟨s.created, view, url⟩ := by
        rintro rfl
        exact absurd (h.created hl') (Nat.lt_irrefl _)
      dsimp only
      rw [elsewhere v there, others _ older]
      exact h.shown hl'
  · intro v none
    have there : v ≠ view := by
      rintro rfl
      simp at none
    dsimp only at none ⊢
    rw [Function.update_of_ne there] at none
    rw [elsewhere v there]
    exact h.blank none

theorem views_queryDisk [DecidableEq URL] (s : ImageLoading View URL Image)
    (l : CombinedOperation View URL) (decodes : Bool) :
    (s.queryDisk l decodes).toImageViews = s.toImageViews := by
  unfold queryDisk
  split <;> rfl

theorem Sound.runIO [DecidableEq URL] (h : s.Sound Serves) (decodes : Bool) :
    (s.runIO decodes).Sound Serves := by
  unfold ImageLoading.runIO
  split
  · exact h
  · rename_i l rest queue
    have popped : ({ s with ioQueue := rest } : ImageLoading View URL Image).Served Serves :=
      h.served.popIO queue
    refine h.of_waits (served_queryDisk popped l decodes) (views_queryDisk _ l decodes) ?_
    intro l' hl'
    rcases waits_queryDisk hl' with rfl | hl'
    · exact .query (queue ▸ List.mem_cons_self)
    · exact hl'.of_popIO queue
  · rename_i url image rest queue
    have serves : ∀ i ∈ some image, Serves url i := by
      rintro i ⟨⟩
      exact h.served.store (queue ▸ List.mem_cons_self)
    refine h.of_waits ((h.served.popIO queue).setDisk serves) rfl ?_
    exact fun _ hl' => ImageManager.Waits.of_popIO (m := s.toImageManager)
      (hl'.congr rfl rfl rfl rfl) queue

theorem views_runIOBlock [DecidableEq URL] (s : ImageLoading View URL Image) (decodes : Bool) :
    (s.runIO decodes).toImageViews = s.toImageViews := by
  unfold ImageLoading.runIO
  split
  · rfl
  · exact views_queryDisk _ _ _
  · rfl

variable [DecidableEq View] [DecidableEq URL]

/-- The completion block of the operation of a view. -/
theorem current_complete (h : s.Current) (current : s.imageLoadOperation l.view = some l)
    (result : Except LoadError Image) : (s.complete l result).Current := by
  have other {v : View} {l' : CombinedOperation View URL}
      (hl' : s.imageLoadOperation v = some l') (ne : v ≠ l.view) : l' ≠ l := by
    rintro rfl
    exact ne (h.view hl').symm
  have fresh : ∀ l' : CombinedOperation View URL, s.created ≤ l'.serial →
      s.isCancelled l' = false ∧
        Function.update s.completions l (result :: s.completions l) l' = [] := by
    intro l' newer
    have ne : l' ≠ l := by
      rintro rfl
      exact absurd (h.created current) (Nat.not_lt.mpr newer)
    rw [Function.update_of_ne ne]
    exact h.fresh l' newer
  have waits : ∀ l', (s.complete l result).Waits l' → l'.serial < s.created ∧
      (s.isCancelled l' = false →
        Function.update s.completions l (result :: s.completions l) l' = [] →
        s.imageLoadOperation l'.view = some l') := by
    intro l' hl'
    rw [Waits, manager_complete] at hl'
    refine ⟨(h.waits l' hl').1, fun active noAnswer => (h.waits l' hl').2 active ?_⟩
    have ne : l' ≠ l := by
      rintro rfl
      simp at noAnswer
    rwa [Function.update_of_ne ne] at noAnswer
  cases result with
  | error error =>
    refine { h with fresh, waits, shown := ?_ }
    intro v l' hl'
    by_cases here : v = l.view
    · subst here
      obtain rfl : l = l' := Option.some.inj (current.symm.trans hl')
      simpa [complete] using h.shown current
    · simpa [complete, other hl' here] using h.shown hl'
  | ok image =>
    refine { h with fresh, waits, shown := ?_, blank := ?_ }
    · intro v l' hl'
      by_cases here : v = l.view
      · subst here
        obtain rfl : l = l' := Option.some.inj (current.symm.trans hl')
        simp [complete]
      · simpa [complete, other hl' here, here] using h.shown hl'
    · intro v none
      have here : v ≠ l.view := by
        rintro rfl
        exact Option.some_ne_none _ (current.symm.trans none)
      simpa [complete, here] using h.blank none

/-- What becomes of the operation a view had before. -/
theorem views_cancel (s : ImageLoading View URL Image) (l : CombinedOperation View URL) :
    ∃ isCancelled : CombinedOperation View URL → Bool,
      (s.cancel l).toImageViews = { s.toImageViews with isCancelled } ∧
      isCancelled l = true ∧ ∀ l', l' ≠ l → isCancelled l' = s.isCancelled l' := by
  unfold cancel
  split
  · rename_i already
    exact ⟨s.isCancelled, rfl, already, fun _ _ => rfl⟩
  · refine ⟨Function.update s.isCancelled l true, ?_, Function.update_self _ _ _,
      fun _ ne => Function.update_of_ne ne _ _⟩
    dsimp only
    split
    · rfl
    · split <;> rfl

/-- The view as it is before it loads something new. -/
def vacate (s : ImageLoading View URL Image) (view : View) (url : Option URL) :
    ImageLoading View URL Image :=
  let s := s.sd_cancelImageLoadOperation view
  { s with
    imageURL := Function.update s.imageURL view url
    image := Function.update s.image view none }

theorem manager_vacate (s : ImageLoading View URL Image) (view : View) (url : Option URL) :
    (s.vacate view url).toImageManager = s.toImageManager ∨
      ∃ l, (s.vacate view url).toImageManager = (s.cancel l).toImageManager := by
  unfold vacate sd_cancelImageLoadOperation
  split
  · exact .inl rfl
  · rename_i l _
    dsimp only
    split
    · exact .inr ⟨l, rfl⟩
    · exact .inl rfl

theorem served_vacate (h : s.Served Serves) (view : View) (url : Option URL) :
    (s.vacate view url).Served Serves := by
  rcases manager_vacate s view url with same | ⟨l, same⟩
  · rw [Served, same]
    exact h
  · rw [Served, same]
    exact served_cancel h l

theorem waits_vacate {view : View} {url : Option URL} (h : (s.vacate view url).Waits l) :
    s.Waits l := by
  rcases manager_vacate s view url with same | ⟨l', same⟩
  · rwa [Waits, same] at h
  · rw [Waits, same] at h
    exact waits_cancel h

theorem imageURL_vacate (s : ImageLoading View URL Image) (view : View) (url : Option URL) :
    (s.vacate view url).imageURL view = url := Function.update_self _ _ _

/-- Afterwards the view has no operation and shows nothing, and the operation it had is cancelled if
it has not been answered. -/
theorem views_vacate (s : ImageLoading View URL Image) (view : View) (url : Option URL) :
    ∃ isCancelled : CombinedOperation View URL → Bool,
      (s.vacate view url).toImageViews = { s.toImageViews with
        isCancelled
        imageLoadOperation := Function.update s.imageLoadOperation view none
        imageURL := Function.update s.imageURL view url
        image := Function.update s.image view none } ∧
      ∀ l, isCancelled l = s.isCancelled l ∧
          (s.imageLoadOperation view = some l → s.completions l ≠ []) ∨
        isCancelled l = true ∧ s.imageLoadOperation view = some l := by
  cases hop : s.imageLoadOperation view with
  | none =>
    refine ⟨s.isCancelled, ?_, fun l => .inl ⟨rfl, nofun⟩⟩
    have same : Function.update s.imageLoadOperation view none = s.imageLoadOperation := by
      rw [← hop, Function.update_eq_self]
    rw [same]
    simp only [vacate, sd_cancelImageLoadOperation, hop]
  | some l =>
    cases answers : s.completions l with
    | cons result rest =>
      refine ⟨s.isCancelled, ?_, fun l' => .inl ⟨rfl, ?_⟩⟩
      · simp [vacate, sd_cancelImageLoadOperation, hop, answers]
      · rintro ⟨⟩
        simp [answers]
    | nil =>
      obtain ⟨isCancelled, views, cancelled, others⟩ := views_cancel s l
      refine ⟨isCancelled, ?_, fun l' => ?_⟩
      · simp [vacate, sd_cancelImageLoadOperation, hop, answers, views]
      · by_cases same : l' = l
        · subst same
          exact .inr ⟨cancelled, rfl⟩
        · exact .inl ⟨others l' same, fun eq => absurd (Option.some.inj eq).symm same⟩

theorem vacate_current (h : s.Current) (view : View) (url : Option URL) :
    (s.vacate view url).Current ∧ (s.vacate view url).imageLoadOperation view = none := by
  obtain ⟨isCancelled, views, cancelled⟩ := views_vacate s view url
  have waits : ∀ l, (s.vacate view url).Waits l → s.Waits l := fun l => waits_vacate
  generalize s.vacate view url = t at views waits
  obtain ⟨tv, tm⟩ := t
  obtain rfl := views
  -- another view's operation is not the one that was cancelled
  have other {v : View} {l : CombinedOperation View URL} (hl : s.imageLoadOperation v = some l)
      (ne : v ≠ view) : isCancelled l = s.isCancelled l := by
    rcases cancelled l with ⟨same, _⟩ | ⟨_, hl'⟩
    · exact same
    · exact absurd ((h.view hl).symm.trans (h.view hl')) ne
  have kept {v : View} {l : CombinedOperation View URL}
      (hl : Function.update s.imageLoadOperation view none v = some l) :
      v ≠ view ∧ s.imageLoadOperation v = some l := by
    by_cases here : v = view
    · subst here
      simp at hl
    · exact ⟨here, by rwa [Function.update_of_ne here] at hl⟩
  refine ⟨?_, Function.update_self _ _ _⟩
  constructor
  · intro l newer
    rcases cancelled l with ⟨same, _⟩ | ⟨_, hl⟩
    · exact ⟨same.trans (h.fresh l newer).1, (h.fresh l newer).2⟩
    · exact absurd (h.created hl) (Nat.not_lt.mpr newer)
  · intro l hl
    obtain ⟨older, current⟩ := h.waits l (waits l hl)
    refine ⟨older, fun active noAnswer => ?_⟩
    rcases cancelled l with ⟨same, answered⟩ | ⟨was, _⟩
    · have hop := current (same.symm.trans active) noAnswer
      have there : l.view ≠ view := by
        rintro rfl
        exact answered hop noAnswer
      simpa [Function.update_of_ne there] using hop
    · exact absurd (was.symm.trans active) nofun
  · exact fun hl => h.view (kept hl).2
  · exact fun hl => h.created (kept hl).2
  · exact fun hl => (other (kept hl).2 (kept hl).1).trans (h.active (kept hl).2)
  · intro v l hl
    rw [← h.url (kept hl).2]
    exact Function.update_of_ne (kept hl).1 _ _
  · intro v l hl
    rw [← h.shown (kept hl).2]
    exact Function.update_of_ne (kept hl).1 _ _
  · intro v none
    by_cases here : v = view
    · subst here
      exact Function.update_self _ _ _
    · simp only [Function.update_of_ne here] at none ⊢
      exact h.blank none

/-- What loading an image into a blank view can do at once: it may answer the new operation. -/
theorem views_loadImage (h : s.Served Serves) (l : CombinedOperation View URL)
    (blank : s.image l.view = none) (noAnswer : s.completions l = []) :
    ∃ completions image,
      (s.loadImage l).toImageViews = { s.toImageViews with completions, image } ∧
      image l.view = outcome (completions l) ∧ (∀ i ∈ image l.view, Serves l.url i) ∧
      (∀ l', l' ≠ l → completions l' = s.completions l') ∧
      ∀ v, v ≠ l.view → image v = s.image v := by
  unfold loadImage callCacheProcess
  split
  · refine ⟨_, s.image, rfl, ?_, ?_, fun _ ne => Function.update_of_ne ne _ _, fun _ _ => rfl⟩
    · simp [blank, noAnswer]
    · simp [blank]
  · split
    · rename_i image hit
      refine ⟨_, _, rfl, ?_, ?_, fun _ ne => Function.update_of_ne ne _ _,
        fun v ne => Function.update_of_ne ne _ _⟩
      · simp
      · simpa using h.memory hit
    · refine ⟨s.completions, s.image, rfl, ?_, ?_, fun _ _ => rfl, fun _ _ => rfl⟩
      · rw [blank, noAnswer, outcome_nil]
      · simp [blank]

/-- What a load leaves, after the view was vacated. -/
theorem setImage_some (s : ImageLoading View URL Image) (view : View) (url : URL) :
    ∃ s' t l, s' = s.vacate view (some url) ∧ l = ⟨s'.created, view, url⟩ ∧
      t = ({ s' with created := s'.created + 1 } : ImageLoading View URL Image).loadImage l ∧
      s.sd_setImage view (some url) = { t with
        imageLoadOperation := Function.update t.imageLoadOperation view (some l) } :=
  ⟨_, _, _, rfl, rfl, rfl, rfl⟩

theorem Sound.complete (h : s.Sound Serves) (current : s.imageLoadOperation l.view = some l)
    {result : Except LoadError Image} (serves : ∀ i, result = .ok i → Serves l.url i) :
    (s.complete l result).Sound Serves := by
  refine ⟨by simpa [Served] using h.served, current_complete h.current current result, ?_⟩
  intro v l' i hl' hi
  cases result with
  | error error => exact h.pictures hl' hi
  | ok image =>
    by_cases here : v = l.view
    · subst here
      obtain rfl : l = l' := Option.some.inj (current.symm.trans hl')
      obtain rfl : image = i := by simpa [ImageLoading.complete] using hi
      exact serves image rfl
    · exact h.pictures hl' (by simpa [ImageLoading.complete, here] using hi)

theorem Sound.vacate (h : s.Sound Serves) (view : View) (url : Option URL) :
    (s.vacate view url).Sound Serves := by
  refine ⟨served_vacate h.served view url, (vacate_current h.current view url).1, ?_⟩
  obtain ⟨isCancelled, views, _⟩ := views_vacate s view url
  generalize s.vacate view url = t at views
  obtain ⟨tv, tm⟩ := t
  obtain rfl := views
  intro v l i hl hi
  by_cases here : v = view
  · subst here
    simp at hl
  · simp only [Function.update_of_ne here] at hl hi
    exact h.pictures hl hi

theorem Sound.setImage (h : s.Sound Serves) (view : View) (url : Option URL) :
    (s.sd_setImage view url).Sound Serves := by
  cases url with
  | none => exact h.vacate view none
  | some url =>
    obtain ⟨s', t, l, hs', hl, ht, set⟩ := setImage_some s view url
    have sound := h.vacate view (some url)
    have vacant := (vacate_current h.current view (some url)).2
    have given := imageURL_vacate s view (some url)
    rw [← hs'] at sound vacant given
    have blank := sound.current.blank vacant
    have noAnswer := (sound.current.fresh l (hl ▸ Nat.le_refl _)).2
    rw [set]
    obtain ⟨completions, image, views, shown, serves, others, elsewhere⟩ :=
      views_loadImage (s := { s' with created := s'.created + 1 }) sound.served l
        (by rw [hl]; exact blank) noAnswer
    rw [← ht] at views
    have waits : ∀ l', t.Waits l' → l' = l ∨ s'.Waits l' := fun l' hl' =>
      waits_loadImage (s := { s' with created := s'.created + 1 }) (ht ▸ hl')
    subst hl
    refine ⟨?_, current_load sound.current vacant given _ rfl views shown others elsewhere waits,
      ?_⟩
    · have served := served_loadImage (s := { s' with created := s'.created + 1 }) sound.served
        ⟨s'.created, view, url⟩
      rw [← ht] at served
      exact served
    · clear ht waits set
      obtain ⟨tv, tm⟩ := t
      obtain rfl := views
      intro v l i hl hi
      by_cases here : v = view
      · subst here
        obtain rfl : _ = l := by simpa using hl
        exact serves i hi
      · simp only [Function.update_of_ne here] at hl hi
        rw [elsewhere v here] at hi
        exact sound.pictures hl hi

theorem Sound.cacheDone (h : s.Sound Serves) (noSharing : s.sharing = none)
    (current : s.isCancelled l = false → s.completions l = [] →
      s.imageLoadOperation l.view = some l) (noAnswer : s.completions l = [])
    (older : l.serial < s.created) {image : Option Image} (serves : ∀ i ∈ image, Serves l.url i) :
    (s.cacheDone l image).Sound Serves := by
  unfold ImageLoading.cacheDone
  split
  · exact h
  · rename_i active
    have hop := current (eq_false_of_ne_true active) noAnswer
    cases image with
    | some image =>
      refine h.complete hop ?_
      rintro i ⟨⟩
      exact serves _ rfl
    | none =>
      have views : (s.downloadImage l).toImageViews = s.toImageViews := by
        unfold downloadImage
        split
        · rfl
        · split
          · rfl
          · split <;> rfl
      refine ⟨served_downloadImage h.served noSharing l, ?_, ?_⟩
      · have waits : ∀ l', (s.downloadImage l).Waits l' → l' = l ∨ s.Waits l' := fun _ =>
          waits_downloadImage
        dsimp only
        generalize s.downloadImage l = t at views waits ⊢
        obtain ⟨tv, tm⟩ := t
        obtain rfl : tv = s.toImageViews := views
        refine { h.current with waits := fun l' hl' => ?_ }
        rcases waits l' hl' with rfl | hl'
        · exact ⟨older, current⟩
        · exact h.current.waits l' hl'
      · dsimp only
        generalize s.downloadImage l = t at views ⊢
        obtain ⟨tv, tm⟩ := t
        obtain rfl : tv = s.toImageViews := views
        exact h.pictures

theorem Sound.loaderDone (h : s.Sound Serves)
    (current : s.isCancelled l = false → s.imageLoadOperation l.view = some l)
    {result : Except LoadError Image} (serves : ∀ i, result = .ok i → Serves l.url i) :
    (s.loaderDone l result).Sound Serves := by
  unfold ImageLoading.loaderDone
  split
  · exact h
  · rename_i active
    have hop := current (eq_false_of_ne_true active)
    cases result with
    | ok image =>
      have stored : (s.storeImage l.url image).Sound Serves :=
        h.of_waits (served_storeImage h.served (serves image rfl)) rfl fun _ => waits_storeImage
      exact stored.complete hop serves
    | error error =>
      have completed := h.complete hop serves
      dsimp only
      split
      · exact completed.of_waits { completed.served with } rfl
          fun _ hl' => hl'.congr rfl rfl rfl rfl
      · exact completed

theorem Sound.runMain (h : s.Sound Serves) (noSharing : s.sharing = none)
    (unanswered : s.Unanswered) : s.runMain.Sound Serves := by
  unfold ImageLoading.runMain
  split
  · exact h
  · rename_i l image rest queue
    have popped : ({ s with mainQueue := rest } : ImageLoading View URL Image).Sound Serves :=
      h.of_waits (h.served.popMain queue) rfl fun _ hl => hl.of_popMain queue
    have first : .cacheDone l image ∈ s.mainQueue := queue ▸ List.mem_cons_self
    obtain ⟨older, current⟩ := h.current.waits l (.cacheDone first)
    have noAnswer : s.completions l = [] := unanswered (.cacheDone l image) (by rw [queue]; rfl)
    refine popped.cacheDone noSharing current noAnswer older ?_
    rintro i ⟨⟩
    exact h.served.cacheDone first
  · rename_i l result rest queue
    have popped : ({ s with mainQueue := rest } : ImageLoading View URL Image).Sound Serves :=
      h.of_waits (h.served.popMain queue) rfl fun _ hl => hl.of_popMain queue
    have first : .loaderDone l result ∈ s.mainQueue := queue ▸ List.mem_cons_self
    obtain ⟨_, current⟩ := h.current.waits l (.loaderDone first)
    have noAnswer : s.completions l = [] := unanswered (.loaderDone l result) (by rw [queue]; rfl)
    refine popped.loaderDone (fun active => current active noAnswer) ?_
    rintro i rfl
    exact h.served.loaderDone first

theorem views_addHandlers (s : ImageLoading View URL Image) :
    s.addHandlers.toImageViews = s.toImageViews := by
  unfold addHandlers
  split
  · rfl
  · dsimp only
    split <;> rfl

theorem views_checkDone (s : ImageLoading View URL Image) (k : ℕ)
    (d : DownloaderOperation View URL Image) (image : Option Image)
    (handled : List (CombinedOperation View URL)) :
    (s.checkDone k d image handled).toImageViews = s.toImageViews := by
  unfold checkDone
  dsimp only
  split <;> rfl

theorem views_proceed (s : ImageLoading View URL Image) (k : ℕ) :
    (s.proceed k).toImageViews = s.toImageViews := by
  unfold proceed
  split
  · rfl
  · split
    · rfl
    · rfl
    · exact views_checkDone _ _ _ _ _
    · rfl

/-! ## What the views want -/

/-- Loading an image for a view does not change what the views want. -/
theorem operations_loadImage (s : ImageLoading View URL Image) (l : CombinedOperation View URL) :
    (s.loadImage l).created = s.created ∧
      (s.loadImage l).imageLoadOperation = s.imageLoadOperation ∧
      (s.loadImage l).imageURL = s.imageURL := by
  unfold loadImage callCacheProcess
  split
  · exact ⟨rfl, rfl, rfl⟩
  · split <;> exact ⟨rfl, rfl, rfl⟩

theorem operations_cacheDone (s : ImageLoading View URL Image) (l : CombinedOperation View URL)
    (image : Option Image) : (s.cacheDone l image).created = s.created ∧
      (s.cacheDone l image).imageLoadOperation = s.imageLoadOperation ∧
      (s.cacheDone l image).imageURL = s.imageURL := by
  unfold ImageLoading.cacheDone
  split
  · exact ⟨rfl, rfl, rfl⟩
  · cases image with
    | some image => exact ⟨rfl, rfl, rfl⟩
    | none =>
      dsimp only [downloadImage]
      split
      · exact ⟨rfl, rfl, rfl⟩
      · split
        · exact ⟨rfl, rfl, rfl⟩
        · split <;> exact ⟨rfl, rfl, rfl⟩

theorem operations_loaderDone (s : ImageLoading View URL Image) (l : CombinedOperation View URL)
    (result : Except LoadError Image) : (s.loaderDone l result).created = s.created ∧
      (s.loaderDone l result).imageLoadOperation = s.imageLoadOperation ∧
      (s.loaderDone l result).imageURL = s.imageURL := by
  unfold ImageLoading.loaderDone
  split
  · exact ⟨rfl, rfl, rfl⟩
  · cases result with
    | ok image => exact ⟨rfl, rfl, rfl⟩
    | error error =>
      dsimp only
      split <;> exact ⟨rfl, rfl, rfl⟩

theorem operations_runMain (s : ImageLoading View URL Image) :
    s.runMain.created = s.created ∧ s.runMain.imageLoadOperation = s.imageLoadOperation ∧
      s.runMain.imageURL = s.imageURL := by
  unfold ImageLoading.runMain
  split
  · exact ⟨rfl, rfl, rfl⟩
  · exact operations_cacheDone _ _ _
  · exact operations_loaderDone _ _ _

/-- A view wants what it was given last. -/
theorem imageURL_setImage (s : ImageLoading View URL Image) (view : View) (url : Option URL) :
    (s.sd_setImage view url).imageURL view = url := by
  cases url with
  | none => exact imageURL_vacate s view none
  | some url =>
    obtain ⟨s', t, l, hs', _, ht, set⟩ := setImage_some s view url
    have loaded := (operations_loadImage { s' with created := s'.created + 1 } l).2.2
    rw [← ht] at loaded
    rw [set]
    dsimp only
    rw [loaded, hs']
    exact imageURL_vacate s view (some url)

/-- A view keeps its address and its operation until it is given another address. -/
theorem wants_next (s : ImageLoading View URL Image) {e : Event View URL Image} {v : View}
    (kept : ∀ url, e ≠ .sd_setImage v url) :
    (s.next e).imageLoadOperation v = s.imageLoadOperation v ∧
      (s.next e).imageURL v = s.imageURL v := by
  have unchanged {t : ImageLoading View URL Image} (views : t.toImageViews = s.toImageViews) :
      t.imageLoadOperation v = s.imageLoadOperation v ∧ t.imageURL v = s.imageURL v :=
    ⟨congrArg (·.imageLoadOperation v) views, congrArg (·.imageURL v) views⟩
  cases e with
  | sd_setImage view url =>
    have other : v ≠ view := by
      rintro rfl
      exact kept url rfl
    have vacated : (s.vacate view url).imageLoadOperation v = s.imageLoadOperation v ∧
        (s.vacate view url).imageURL v = s.imageURL v := by
      obtain ⟨_, views, _⟩ := views_vacate s view url
      rw [views]
      exact ⟨Function.update_of_ne other _ _, Function.update_of_ne other _ _⟩
    cases url with
    | none => exact vacated
    | some url =>
      obtain ⟨s', t, l, hs', _, ht, set⟩ := setImage_some s view url
      obtain ⟨_, operations, urls⟩ := operations_loadImage { s' with created := s'.created + 1 } l
      rw [← hs'] at vacated
      rw [← ht] at operations urls
      simp only [ImageLoading.next, set]
      rw [Function.update_of_ne other, operations, urls]
      exact vacated
  | main =>
    obtain ⟨_, operations, urls⟩ := operations_runMain s
    exact ⟨congrFun operations v, congrFun urls v⟩
  | addHandlers => exact unchanged (views_addHandlers s)
  | io decodes => exact unchanged (views_runIOBlock s decodes)
  | didFail k error =>
    simp only [ImageLoading.next]
    split <;> exact ⟨rfl, rfl⟩
  | didReceive k image =>
    simp only [ImageLoading.next]
    split
    · exact ⟨rfl, rfl⟩
    · unfold didReceive
      split <;> exact ⟨rfl, rfl⟩
  | proceed k => exact unchanged (views_proceed s k)
  | removeOperation k =>
    simp only [ImageLoading.next, removeOperation]
    split <;> exact ⟨rfl, rfl⟩
  | evict url => exact ⟨rfl, rfl⟩
  | expire url => exact ⟨rfl, rfl⟩

/-- Every step keeps everything in order. -/
theorem Sound.next (h : s.Sound Serves) (unanswered : s.Unanswered) {e : Event View URL Image}
    (enabled : s.Enabled Serves e) : (s.next e).Sound Serves := by
  cases e with
  | sd_setImage view url => exact h.setImage view url
  | main => exact h.runMain enabled.1 unanswered
  | addHandlers =>
    exact h.of_waits (served_addHandlers h.served) (views_addHandlers s) fun _ => waits_addHandlers
  | io decodes => exact h.runIO decodes
  | didFail k error =>
    obtain ⟨d, hd, _⟩ := enabled
    simp only [ImageLoading.next, hd]
    exact h.of_waits (served_didFail h.served hd error) rfl fun _ => waits_didFail hd
  | didReceive k image =>
    obtain ⟨d, hd, _, _, serves⟩ := enabled
    simp only [ImageLoading.next, hd]
    refine h.of_waits (served_didReceive h.served hd serves) ?_ fun _ => waits_didReceive hd
    unfold didReceive
    split <;> rfl
  | proceed k =>
    exact h.of_waits (served_proceed h.served k) (views_proceed s k) fun _ => waits_proceed
  | removeOperation k =>
    obtain ⟨_, d, hd, _⟩ := enabled
    have removed := served_removeOperation h.served k
    simp only [ImageLoading.next, removeOperation, hd] at removed ⊢
    exact h.of_waits removed rfl fun _ hl => hl.congr rfl rfl rfl rfl
  | evict url =>
    exact h.of_waits (h.served.setMemory nofun) rfl fun _ hl => hl.congr rfl rfl rfl rfl
  | expire url =>
    exact h.of_waits (h.served.setDisk nofun) rfl fun _ hl => hl.congr rfl rfl rfl rfl

end ImageLoading

end RockRadio
