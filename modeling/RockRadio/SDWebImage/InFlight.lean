import RockRadio.SDWebImage.Views
import Mathlib.Data.List.Count

/-!
# What is on its way

The answer of a load is a block of one of the queues, the main thread that is about to share a
download, or the download. Whatever a queue does, it passes the answer on: the operations it takes
out of one place turn up in another, or they are answered, or nobody wants them any more.
-/

namespace RockRadio

variable {View URL Image : Type*}

/-! ## What is on its way -/

def IOBlock.operation : IOBlock View URL Image → Option (CombinedOperation View URL)
  | .query l => some l
  | .store _ _ => none

/-- The callbacks that the coder queue has taken over. -/
def Stage.handled {Operation : Type*} : Stage Operation Image → List Operation
  | .decoding _ _ handled => handled
  | _ => []

namespace DownloaderOperation

/-- A callback added now will be called. -/
def isListening (d : DownloaderOperation View URL Image) : Bool :=
  match d.stage with
  | .running => !d.isFinished && !d.isCancelled
  | .failing => false
  | .decoding _ _ _ => !d.isFinished

/-- The operation is among the callbacks, or was when they were last looked at. -/
def Remembers (d : DownloaderOperation View URL Image) (l : CombinedOperation View URL) : Prop :=
  l ∈ d.callbackTokens ∨ l ∈ d.stage.pending ∨ l ∈ d.stage.handled

variable {d : DownloaderOperation View URL Image} {l l' : CombinedOperation View URL}

@[simp] theorem isListening_done : d.done.isListening = false := by
  unfold isListening done
  cases d.stage <;> rfl

theorem remembers_done (h : d.done.Remembers l) : d.Remembers l :=
  h.imp_left fun h => absurd h List.not_mem_nil

variable [DecidableEq View] [DecidableEq URL]

/-- How often the download will call the operation back. -/
def owes (d : DownloaderOperation View URL Image) (l : CombinedOperation View URL) : ℕ :=
  d.stage.pending.count l +
    if d.isListening && !d.stage.handled.contains l then d.callbackTokens.count l else 0

theorem owes_eq_zero (h : ¬ d.Remembers l) : d.owes l = 0 := by
  simp only [Remembers, not_or] at h
  simp [owes, List.count_eq_zero.mpr h.1, List.count_eq_zero.mpr h.2.1]

theorem owes_done : d.done.owes l = d.stage.pending.count l := by
  simp only [owes, isListening_done]
  rfl

theorem isFinished_cancel : (d.cancel l).isFinished = d.isFinished := by
  unfold cancel
  split_ifs <;> rfl

theorem remembers_cancel (h : (d.cancel l).Remembers l') : d.Remembers l' := by
  rcases h with h | h
  · exact .inl (mem_of_mem_cancel h)
  · exact .inr (by rwa [stage_cancel] at h)

/-- Only the cancelled operation has anything to lose: the download is given up when nobody else
waits for it. -/
theorem owes_cancel (d : DownloaderOperation View URL Image) (l l' : CombinedOperation View URL) :
    (d.cancel l).owes l' ≤ d.owes l' ∧ (l' ≠ l → (d.cancel l).owes l' = d.owes l') := by
  unfold cancel
  split_ifs with alone finished
  · exact ⟨Nat.le_refl _, fun _ => rfl⟩
  · refine ⟨by simp [owes], fun ne => ?_⟩
    have none : List.count l' d.callbackTokens = 0 := by
      rw [alone, List.count_eq_zero, List.mem_singleton]
      exact ne
    simp [owes, none]
  · have fewer : List.count l' (d.callbackTokens.erase l) ≤ List.count l' d.callbackTokens :=
      List.erase_sublist.count_le l'
    have same : isListening { d with callbackTokens := d.callbackTokens.erase l } =
        d.isListening := rfl
    constructor
    · unfold owes
      rw [same]
      dsimp only
      split <;> omega
    · intro ne
      unfold owes
      rw [same, List.count_erase_of_ne ne]

end DownloaderOperation

namespace ImageManager

variable {m : ImageManager View URL Image} {l l' : CombinedOperation View URL}

/-- The operation has not come to a download yet. -/
inductive Asks (m : ImageManager View URL Image) (l : CombinedOperation View URL) : Prop where
  | query : .query l ∈ m.ioQueue → Asks m l
  | cacheDone {image : Option Image} : .cacheDone l image ∈ m.mainQueue → Asks m l
  | sharing {k : ℕ} : m.sharing = some (l, k) → Asks m l

theorem Asks.congr {m' : ImageManager View URL Image} (h : m'.Asks l)
    (ioQueue : m'.ioQueue = m.ioQueue) (mainQueue : m'.mainQueue = m.mainQueue)
    (sharing : m'.sharing = m.sharing) : m.Asks l := by
  cases h with
  | query h => exact .query (ioQueue ▸ h)
  | cacheDone h => exact .cacheDone (mainQueue ▸ h)
  | sharing h => exact .sharing (sharing ▸ h)

/-- An operation is known to its own download only, and to that only after it came there. -/
structure Tidy (m : ImageManager View URL Image) : Prop where
  asks : ∀ l, m.Asks l → m.loaderOperation l = none
  remembers : ∀ {k d}, m.downloads k = some d → ∀ l, d.Remembers l → m.loaderOperation l = some k
  started : ∀ {l k}, m.loaderOperation l = some k → k < m.started
  finished : ∀ {k d}, m.downloads k = some d → d.isFinished = true → d.stage.pending = []

theorem Tidy.setDownload (h : m.Tidy) {k : ℕ} {d d' : DownloaderOperation View URL Image}
    (old : m.downloads k = some d) (remembers : ∀ l, d'.Remembers l → d.Remembers l)
    (finished : d'.isFinished = true → d'.stage.pending = []) :
    Tidy { m with downloads := Function.update m.downloads k (some d') } where
  asks l asks := h.asks l (asks.congr rfl rfl rfl)
  remembers he l known := by
    rcases update_eq_some he with ⟨rfl, rfl⟩ | he
    · exact h.remembers old l (remembers l known)
    · exact h.remembers he l known
  started := h.started
  finished he := by
    rcases update_eq_some he with ⟨rfl, rfl⟩ | he
    · exact finished
    · exact h.finished he

theorem Tidy.popMain (h : m.Tidy) {b : MainBlock View URL Image}
    {rest : List (MainBlock View URL Image)} (queue : m.mainQueue = b :: rest) :
    Tidy { m with mainQueue := rest } := by
  refine { h with asks := fun l asks => h.asks l ?_ }
  cases asks with
  | query asked => exact .query asked
  | cacheDone asked => exact .cacheDone (queue ▸ List.mem_cons_of_mem _ asked)
  | sharing asked => exact .sharing asked

theorem Tidy.popIO (h : m.Tidy) {b : IOBlock View URL Image} {rest : List (IOBlock View URL Image)}
    (queue : m.ioQueue = b :: rest) : Tidy { m with ioQueue := rest } := by
  refine { h with asks := fun l asks => h.asks l ?_ }
  cases asks with
  | query asked => exact .query (queue ▸ List.mem_cons_of_mem _ asked)
  | cacheDone asked => exact .cacheDone asked
  | sharing asked => exact .sharing asked

variable [DecidableEq View] [DecidableEq URL]

/-- What the download of an operation still owes it. -/
def owed (m : ImageManager View URL Image) (l : CombinedOperation View URL) : ℕ :=
  match (m.loaderOperation l).bind m.downloads with
  | none => 0
  | some d => d.owes l

/-- How often the operation is in a queue or on the main thread. -/
def queued (m : ImageManager View URL Image) (l : CombinedOperation View URL) : ℕ :=
  (m.ioQueue.filterMap IOBlock.operation).count l +
    (m.mainQueue.map MainBlock.operation).count l + (m.sharing.map Prod.fst).toList.count l

/-- How many things are on their way to answer the operation. -/
def inFlight (m : ImageManager View URL Image) (l : CombinedOperation View URL) : ℕ :=
  m.queued l + m.owed l

theorem owed_congr {m' : ImageManager View URL Image}
    (loader : m'.loaderOperation = m.loaderOperation) (downloads : m'.downloads = m.downloads) :
    m'.owed l = m.owed l := by
  unfold owed
  rw [loader, downloads]

/-- What leaves the downloads alone only matters for the queues. -/
theorem inFlight_congr {m' : ImageManager View URL Image}
    (loader : m'.loaderOperation = m.loaderOperation) (downloads : m'.downloads = m.downloads)
    {n : ℕ} (more : m'.queued l = m.queued l + n) : m'.inFlight l = m.inFlight l + n := by
  have owed := owed_congr (l := l) loader downloads
  unfold inFlight
  omega

theorem queued_pos (h : m.Asks l) : 0 < m.queued l := by
  unfold queued
  cases h with
  | query h =>
    have : 0 < (m.ioQueue.filterMap IOBlock.operation).count l :=
      List.count_pos_iff.mpr (List.mem_filterMap.mpr ⟨_, h, rfl⟩)
    omega
  | cacheDone h =>
    have : 0 < (m.mainQueue.map MainBlock.operation).count l :=
      List.count_pos_iff.mpr (List.mem_map.mpr ⟨_, h, rfl⟩)
    omega
  | sharing h =>
    have : 0 < (m.sharing.map Prod.fst).toList.count l := by simp [h]
    omega

theorem inFlight_pos (h : m.Asks l) : 0 < m.inFlight l :=
  Nat.lt_of_lt_of_le (queued_pos h) (Nat.le_add_right _ _)

/-- What a change of one download does to what is on its way. -/
theorem inFlight_setDownload (h : m.Tidy) {k : ℕ} {d d' : DownloaderOperation View URL Image}
    (old : m.downloads k = some d) (remembers : ∀ l, d'.Remembers l → d.Remembers l)
    (l : CombinedOperation View URL) :
    inFlight { m with downloads := Function.update m.downloads k (some d') } l + d.owes l =
      m.inFlight l + d'.owes l := by
  unfold inFlight owed queued
  dsimp only
  by_cases mine : m.loaderOperation l = some k
  · simp only [mine, Option.bind_some, Function.update_self, old]
    omega
  · have unknown : ¬ d.Remembers l := fun known => mine (h.remembers old l known)
    have unknown' : ¬ d'.Remembers l := fun known => unknown (remembers l known)
    have elsewhere : (m.loaderOperation l).bind (Function.update m.downloads k (some d')) =
        (m.loaderOperation l).bind m.downloads := by
      cases hk : m.loaderOperation l with
      | none => rfl
      | some k' =>
        have ne : k' ≠ k := by
          rintro rfl
          exact mine hk
        exact Function.update_of_ne ne _ _
    rw [elsewhere, DownloaderOperation.owes_eq_zero unknown,
      DownloaderOperation.owes_eq_zero unknown']

theorem inFlight_pushMain (m : ImageManager View URL Image) (bs : List (MainBlock View URL Image))
    (l : CombinedOperation View URL) :
    inFlight { m with mainQueue := m.mainQueue ++ bs } l =
      m.inFlight l + (bs.map MainBlock.operation).count l := by
  apply inFlight_congr
  · rfl
  · rfl
  · simp only [queued, List.map_append, List.count_append]
    omega

/-- The operation that comes to a download of its own. -/
theorem Tidy.addDownload (h : m.Tidy) (new : m.loaderOperation l = none) (noAsk : ¬ m.Asks l)
    {URLOperations : URL → Option ℕ} :
    Tidy { m with
      downloads := Function.update m.downloads m.started
        (some { url := l.url, callbackTokens := [l] })
      started := m.started + 1
      URLOperations
      loaderOperation := Function.update m.loaderOperation l (some m.started) } where
  asks l' asks := by
    have before : m.Asks l' := asks.congr rfl rfl rfl
    have other : l' ≠ l := by
      rintro rfl
      exact noAsk before
    exact (Function.update_of_ne other _ _).trans (h.asks l' before)
  remembers he l' known := by
    rcases update_eq_some he with ⟨rfl, rfl⟩ | he
    · obtain rfl : l' = l := by simpa [DownloaderOperation.Remembers, Stage.pending, Stage.handled]
        using known
      exact Function.update_self _ _ _
    · have old := h.remembers he l' known
      have other : l' ≠ l := by
        rintro rfl
        rw [new] at old
        cases old
      exact (Function.update_of_ne other _ _).trans old
  started {l' k} hk := by
    dsimp only at hk
    by_cases same : l' = l
    · subst same
      rw [Function.update_self] at hk
      cases hk
      exact Nat.lt_succ_self _
    · rw [Function.update_of_ne same] at hk
      exact Nat.lt_succ_of_lt (h.started hk)
  finished he isOver := by
    rcases update_eq_some he with ⟨rfl, rfl⟩ | he
    · cases isOver
    · exact h.finished he isOver

theorem inFlight_addDownload (h : m.Tidy) (new : m.loaderOperation l = none)
    (URLOperations : URL → Option ℕ) (l' : CombinedOperation View URL) :
    inFlight { m with
      downloads := Function.update m.downloads m.started
        (some { url := l.url, callbackTokens := [l] })
      started := m.started + 1
      URLOperations
      loaderOperation := Function.update m.loaderOperation l (some m.started) } l' =
      m.inFlight l' + [l].count l' := by
  unfold inFlight owed queued
  dsimp only
  by_cases same : l' = l
  · subst same
    have owes : ({ url := l'.url, callbackTokens := [l'] } :
        DownloaderOperation View URL Image).owes l' = [l'].count l' := by
      simp [DownloaderOperation.owes, DownloaderOperation.isListening, Stage.pending, Stage.handled]
    simp only [Function.update_self, Option.bind_some, new, Option.bind_none, owes, Nat.add_zero]
  · have elsewhere : (m.loaderOperation l').bind (Function.update m.downloads m.started
        (some { url := l.url, callbackTokens := [l] })) =
          (m.loaderOperation l').bind m.downloads := by
      cases hk : m.loaderOperation l' with
      | none => rfl
      | some k => exact Function.update_of_ne (Nat.ne_of_lt (h.started hk)) _ _
    have alone : [l].count l' = 0 := by
      rw [List.count_eq_zero, List.mem_singleton]
      exact same
    rw [Function.update_of_ne same, elsewhere, alone, Nat.add_zero]

/-- The operation that joins a download. -/
theorem Tidy.addHandlers (h : m.Tidy) (new : m.loaderOperation l = none) (noAsk : ¬ m.Asks l)
    {k : ℕ} {d : DownloaderOperation View URL Image} (hd : m.downloads k = some d)
    (older : k < m.started) : Tidy { m with
      downloads := Function.update m.downloads k
        (some { d with callbackTokens := d.callbackTokens ++ [l] })
      loaderOperation := Function.update m.loaderOperation l (some k) } where
  asks l' asks := by
    have before : m.Asks l' := asks.congr rfl rfl rfl
    have other : l' ≠ l := by
      rintro rfl
      exact noAsk before
    exact (Function.update_of_ne other _ _).trans (h.asks l' before)
  remembers {k' e} he l' known := by
    have before (old : m.loaderOperation l' = some k') :
        Function.update m.loaderOperation l (some k) l' = some k' := by
      have other : l' ≠ l := by
        rintro rfl
        rw [new] at old
        cases old
      exact (Function.update_of_ne other _ _).trans old
    rcases update_eq_some he with ⟨rfl, rfl⟩ | he
    · rcases known with known | known
      · rcases List.mem_append.mp known with known | known
        · exact before (h.remembers hd l' (.inl known))
        · obtain rfl := List.mem_singleton.mp known
          exact Function.update_self _ _ _
      · exact before (h.remembers hd l' (.inr known))
    · exact before (h.remembers he l' known)
  started {l' k'} hk := by
    dsimp only at hk
    by_cases same : l' = l
    · subst same
      rw [Function.update_self] at hk
      cases hk
      exact older
    · rw [Function.update_of_ne same] at hk
      exact h.started hk
  finished he isOver := by
    rcases update_eq_some he with ⟨rfl, rfl⟩ | he
    · exact h.finished (d := d) hd isOver
    · exact h.finished he isOver

/-- A download that does not listen any more lets go of who joins it. -/
theorem inFlight_addHandlers (h : m.Tidy) (new : m.loaderOperation l = none) {k : ℕ}
    {d : DownloaderOperation View URL Image} (hd : m.downloads k = some d)
    (l' : CombinedOperation View URL) :
    inFlight { m with
      downloads := Function.update m.downloads k
        (some { d with callbackTokens := d.callbackTokens ++ [l] })
      loaderOperation := Function.update m.loaderOperation l (some k) } l' =
      m.inFlight l' + if d.isListening = true then [l].count l' else 0 := by
  have unknown : ¬ d.Remembers l := fun known =>
    Option.some_ne_none _ ((h.remembers hd l known).symm.trans new)
  have same : DownloaderOperation.isListening { d with callbackTokens := d.callbackTokens ++ [l] } =
      d.isListening := rfl
  unfold inFlight owed queued
  dsimp only
  by_cases mine : l' = l
  · subst mine
    simp only [DownloaderOperation.Remembers, not_or] at unknown
    have forgotten : d.stage.handled.contains l' = false := by simpa using unknown.2.2
    simp only [Function.update_self, Option.bind_some, new, Option.bind_none,
      DownloaderOperation.owes, same, List.count_append, List.count_eq_zero.mpr unknown.1,
      List.count_eq_zero.mpr unknown.2.1, forgotten, Bool.not_false, Bool.and_true, Nat.zero_add,
      Nat.add_zero]
  · have alone : [l].count l' = 0 := by
      rw [List.count_eq_zero, List.mem_singleton]
      exact mine
    rw [Function.update_of_ne mine, alone, ite_self, Nat.add_zero]
    by_cases here : m.loaderOperation l' = some k
    · simp only [here, Option.bind_some, Function.update_self, hd, DownloaderOperation.owes, same,
        List.count_append, alone, Nat.add_zero]
    · have elsewhere : (m.loaderOperation l').bind (Function.update m.downloads k
          (some { d with callbackTokens := d.callbackTokens ++ [l] })) =
          (m.loaderOperation l').bind m.downloads := by
        cases hk : m.loaderOperation l' with
        | none => rfl
        | some k' =>
          have ne : k' ≠ k := by
            rintro rfl
            exact here hk
          exact Function.update_of_ne ne _ _
      rw [elsewhere]

end ImageManager

namespace ImageLoading

variable {s s' t : ImageLoading View URL Image}
variable {l l' : CombinedOperation View URL} {ls ls' : List (CombinedOperation View URL)}

/-! ## What keeps the records in order -/

section Disk

variable [DecidableEq URL]

theorem tidy_storeImage (h : s.Tidy) (url : URL) (image : Image) :
    (s.storeImage url image).Tidy := by
  refine { h with asks := fun l asks => h.asks l ?_ }
  cases asks with
  | query asked => exact .query (by simpa [storeImage] using asked)
  | cacheDone asked => exact .cacheDone asked
  | sharing asked => exact .sharing asked

theorem tidy_queryDisk (h : s.Tidy) (new : s.loaderOperation l = none) (decodes : Bool) :
    (s.queryDisk l decodes).Tidy := by
  unfold queryDisk
  split
  · exact h
  · refine { h with asks := fun l' asks => ?_ }
    cases asks with
    | query asked => exact h.asks l' (.query asked)
    | cacheDone asked =>
      rcases List.mem_append.mp asked with asked | asked
      · exact h.asks l' (.cacheDone asked)
      · simp only [List.mem_singleton, MainBlock.cacheDone.injEq] at asked
        exact asked.1 ▸ new
    | sharing asked => exact h.asks l' (.sharing asked)

theorem tidy_runIOBlock (h : s.Tidy) (decodes : Bool) : (s.runIO decodes).Tidy := by
  unfold runIO
  split
  · exact h
  · rename_i l rest queue
    exact tidy_queryDisk (s := { s with ioQueue := rest }) (h.popIO queue)
      (h.asks l (.query (queue ▸ List.mem_cons_self))) decodes
  · rename_i url image rest queue
    have popped := h.popIO queue
    exact { popped with asks := fun l asks => popped.asks l (asks.congr rfl rfl rfl) }

end Disk

variable [DecidableEq View] [DecidableEq URL]

theorem tidy_cancel (h : s.Tidy) (l : CombinedOperation View URL) : (s.cancel l).Tidy := by
  rcases manager_cancel s l with same | ⟨k, d, hd, changed⟩
  · rwa [same]
  · rw [changed]
    refine h.setDownload hd (fun _ => DownloaderOperation.remembers_cancel) fun isOver => ?_
    rw [DownloaderOperation.stage_cancel]
    exact h.finished hd (DownloaderOperation.isFinished_cancel.symm.trans isOver)

theorem tidy_vacate (h : s.Tidy) (view : View) (url : Option URL) : (s.vacate view url).Tidy := by
  rcases manager_vacate s view url with same | ⟨l, same⟩
  · rwa [same]
  · rw [same]
    exact tidy_cancel h l

theorem tidy_loadImage (h : s.Tidy) (new : s.loaderOperation l = none) : (s.loadImage l).Tidy := by
  unfold loadImage callCacheProcess
  split
  · rwa [manager_complete]
  · split
    · rwa [manager_complete]
    · refine { h with asks := fun l' asks => ?_ }
      cases asks with
      | query asked =>
        rcases List.mem_append.mp asked with asked | asked
        · exact h.asks l' (.query asked)
        · simp only [List.mem_singleton, IOBlock.query.injEq] at asked
          exact asked ▸ new
      | cacheDone asked => exact h.asks l' (.cacheDone asked)
      | sharing asked => exact h.asks l' (.sharing asked)

theorem tidy_downloadImage (h : s.Tidy) (new : s.loaderOperation l = none)
    (noAsk : ¬ s.toImageManager.Asks l) : (s.downloadImage l).Tidy := by
  unfold downloadImage
  split
  · exact h.addDownload new noAsk
  · split
    · exact h.addDownload new noAsk
    · split
      · exact h.addDownload new noAsk
      · refine { h with asks := fun l' asks => ?_ }
        cases asks with
        | query asked => exact h.asks l' (.query asked)
        | cacheDone asked => exact h.asks l' (.cacheDone asked)
        | sharing asked =>
          cases asked
          exact new

theorem tidy_cacheDone (h : s.Tidy) (new : s.loaderOperation l = none)
    (noAsk : ¬ s.toImageManager.Asks l) (image : Option Image) : (s.cacheDone l image).Tidy := by
  unfold cacheDone
  split
  · exact h
  · cases image with
    | some image => simpa using h
    | none => exact tidy_downloadImage h new noAsk

theorem tidy_loaderDone (h : s.Tidy) (l : CombinedOperation View URL)
    (result : Except LoadError Image) : (s.loaderDone l result).Tidy := by
  unfold loaderDone
  split
  · exact h
  · cases result with
    | ok image => simpa using tidy_storeImage h l.url image
    | error error =>
      dsimp only
      split
      · exact { h with asks := fun l asks => h.asks l (asks.congr rfl rfl rfl) }
      · simpa using h

/-! ## What the operations do to what is on its way -/

/-- The answers of an operation, and what is on its way to answer it. -/
def total (s : ImageLoading View URL Image) (l : CombinedOperation View URL) : ℕ :=
  (s.completions l).length + s.inFlight l

theorem total_congr (completions : t.completions = s.completions)
    (loader : t.loaderOperation = s.loaderOperation) (downloads : t.downloads = s.downloads)
    (same : t.queued l = s.queued l) : t.total l = s.total l := by
  unfold total
  rw [completions, ImageManager.inFlight_congr (n := 0) loader downloads same]
  rfl

/-- What is taken out of a queue. -/
theorem total_take (completions : t.completions = s.completions)
    (loader : t.loaderOperation = s.loaderOperation) (downloads : t.downloads = s.downloads)
    {n : ℕ} (taken : s.queued l = t.queued l + n) : t.total l + n = s.total l := by
  unfold total
  rw [completions, ImageManager.inFlight_congr loader.symm downloads.symm taken]
  omega

/-- Something on its way for each of the operations `ls` was taken out of `s`, and this is what
becomes of it. Only what was cancelled is dropped. -/
def Settles (s : ImageLoading View URL Image) (ls : List (CombinedOperation View URL))
    (t : ImageLoading View URL Image) : Prop :=
  ∀ l, t.total l ≤ s.total l + ls.count l ∧
    (t.isCancelled l = false → t.total l = s.total l + ls.count l)

theorem settles_of_total (h : ∀ l, t.total l = s.total l + ls.count l) : Settles s ls t :=
  fun l => ⟨Nat.le_of_eq (h l), fun _ => h l⟩

/-- What leaves the downloads and the answers alone only matters for the queues. -/
theorem settles_of_queued (completions : t.completions = s.completions)
    (loader : t.loaderOperation = s.loaderOperation) (downloads : t.downloads = s.downloads)
    (h : ∀ l, t.queued l = s.queued l + ls.count l) : Settles s ls t :=
  settles_of_total fun l =>
    (total_take completions.symm loader.symm downloads.symm (h l)).symm

theorem Settles.congr (h : Settles s ls t)
    (same : ∀ l, s.total l + ls.count l = s'.total l + ls'.count l) : Settles s' ls' t :=
  fun l => same l ▸ h l

theorem Settles.of_pop (h : Settles s' [l] t)
    (pop : ∀ l', s'.total l' + [l].count l' = s.total l') : Settles s [] t :=
  h.congr pop

theorem settles_drop (cancelled : s.isCancelled l = true) : Settles s [l] s := by
  intro l'
  refine ⟨Nat.le_add_right _ _, fun active => ?_⟩
  have other : l' ≠ l := by
    rintro rfl
    exact absurd (cancelled.symm.trans active) nofun
  have none : [l].count l' = 0 := by
    rw [List.count_eq_zero, List.mem_singleton]
    exact other
  rw [none, Nat.add_zero]

/-- What leaves the views alone only matters for what is on its way. -/
theorem settles_of_inFlight (views : t.toImageViews = s.toImageViews)
    (h : ∀ l, t.inFlight l ≤ s.inFlight l + ls.count l ∧
      (s.isCancelled l = false → t.inFlight l = s.inFlight l + ls.count l)) : Settles s ls t := by
  obtain ⟨tv, tm⟩ := t
  obtain rfl : tv = s.toImageViews := views
  intro l
  obtain ⟨fewer, same⟩ := h l
  dsimp only [total] at fewer same ⊢
  refine ⟨by omega, fun active => ?_⟩
  have := same active
  omega

theorem settles_complete (s : ImageLoading View URL Image) (l : CombinedOperation View URL)
    (result : Except LoadError Image) : Settles s [l] (s.complete l result) := by
  refine settles_of_total fun l' => ?_
  have answers : ((s.complete l result).completions l').length =
      (s.completions l').length + [l].count l' := by
    have completions : (s.complete l result).completions =
        Function.update s.completions l (result :: s.completions l) := by cases result <;> rfl
    rw [completions]
    by_cases same : l' = l
    · subst same
      simp
    · rw [Function.update_of_ne same, List.count_eq_zero.mpr (by simpa using same), Nat.add_zero]
  rw [total, manager_complete, answers, total]
  omega

theorem settles_callCacheProcess (s : ImageLoading View URL Image)
    (l : CombinedOperation View URL) : Settles s [l] (s.callCacheProcess l) := by
  unfold callCacheProcess
  split
  · exact settles_complete s l _
  · refine settles_of_queued rfl rfl rfl fun l' => ?_
    simp only [ImageManager.queued, List.filterMap_append, List.count_append, List.filterMap_cons,
      IOBlock.operation, List.filterMap_nil]
    omega

theorem settles_loadImage (s : ImageLoading View URL Image) (l : CombinedOperation View URL) :
    Settles s [l] (s.loadImage l) := by
  unfold loadImage
  split
  · exact settles_complete s l _
  · exact settles_callCacheProcess s l

theorem settles_cancel (h : s.Tidy) (l : CombinedOperation View URL) :
    Settles s [] (s.cancel l) := by
  obtain ⟨isCancelled, views, cancelled, _⟩ := views_cancel s l
  rcases manager_cancel s l with same | ⟨k, d, hd, changed⟩
  · generalize s.cancel l = t at views same
    obtain ⟨tv, tm⟩ := t
    obtain rfl := views
    obtain rfl : tm = s.toImageManager := same
    exact settles_of_total fun l' => rfl
  · generalize s.cancel l = t at views changed
    obtain ⟨tv, tm⟩ := t
    obtain rfl := views
    obtain rfl := changed
    intro l'
    obtain ⟨fewer, same⟩ := DownloaderOperation.owes_cancel d l l'
    have balance := ImageManager.inFlight_setDownload h hd
      (fun _ => DownloaderOperation.remembers_cancel (d := d) (l := l)) l'
    simp only [total, List.count_nil, Nat.add_zero]
    refine ⟨by omega, fun active => ?_⟩
    have other : l' ≠ l := by
      rintro rfl
      exact absurd (cancelled.symm.trans active) nofun
    have := same other
    omega

theorem settles_vacate (h : s.Tidy) (view : View) (url : Option URL) :
    Settles s [] (s.vacate view url) := by
  unfold vacate sd_cancelImageLoadOperation
  split
  · exact settles_of_total fun l => rfl
  · rename_i l _
    dsimp only
    split
    · exact settles_cancel h l
    · exact settles_of_total fun l => rfl

theorem settles_queryDisk (s : ImageLoading View URL Image) (l : CombinedOperation View URL)
    (decodes : Bool) : Settles s [l] (s.queryDisk l decodes) := by
  unfold queryDisk
  split
  · rename_i cancelled
    exact settles_drop cancelled
  · refine settles_of_queued rfl rfl rfl fun l' => ?_
    simp only [ImageManager.queued, List.map_append, List.count_append, List.map_cons,
      MainBlock.operation, List.map_nil]
    omega

theorem settles_startDownload (h : s.Tidy) (new : s.loaderOperation l = none) :
    Settles s [l] (s.startDownload l) := by
  refine settles_of_inFlight rfl fun l' => ?_
  have balance := ImageManager.inFlight_addDownload h new
    (Function.update s.URLOperations l.url (some s.started)) l'
  exact ⟨Nat.le_of_eq balance, fun _ => balance⟩

theorem settles_downloadImage (h : s.Tidy) (new : s.loaderOperation l = none)
    (noSharing : s.sharing = none) : Settles s [l] (s.downloadImage l) := by
  unfold downloadImage
  split
  · exact settles_startDownload h new
  · rename_i k _
    split
    · exact settles_startDownload h new
    · split
      · exact settles_startDownload h new
      · refine settles_of_queued rfl rfl rfl fun l' => ?_
        simp only [ImageManager.queued, noSharing, Option.map_none, Option.map_some,
          Option.toList_none, Option.toList_some, List.count_nil]
        omega

theorem settles_cacheDone (h : s.Tidy) (new : s.loaderOperation l = none)
    (noSharing : s.sharing = none) (image : Option Image) :
    Settles s [l] (s.cacheDone l image) := by
  unfold cacheDone
  split
  · rename_i cancelled
    exact settles_drop cancelled
  · cases image with
    | some image => exact settles_complete s l _
    | none => exact settles_downloadImage h new noSharing

theorem total_storeImage (s : ImageLoading View URL Image) (url : URL) (image : Image)
    (l : CombinedOperation View URL) : (s.storeImage url image).total l = s.total l := by
  refine total_congr rfl rfl rfl ?_
  simp [ImageManager.queued, storeImage, List.filterMap_cons, IOBlock.operation]

theorem settles_loaderDone (s : ImageLoading View URL Image) (l : CombinedOperation View URL)
    (result : Except LoadError Image) : Settles s [l] (s.loaderDone l result) := by
  unfold loaderDone
  split
  · rename_i cancelled
    exact settles_drop cancelled
  · cases result with
    | ok image =>
      refine (settles_complete _ l _).congr fun l' => ?_
      rw [total_storeImage]
    | error error =>
      dsimp only
      split
      · exact settles_complete s l (.error error)
      · exact settles_complete s l (.error error)

theorem total_popMain {b : MainBlock View URL Image} {rest : List (MainBlock View URL Image)}
    (queue : s.mainQueue = b :: rest) (l : CombinedOperation View URL) :
    total { s with mainQueue := rest } l + [b.operation].count l = s.total l := by
  apply total_take
  · rfl
  · rfl
  · rfl
  · simp only [ImageManager.queued, queue, List.map_cons, List.count_cons, List.count_nil]
    omega

theorem settles_runIOBlock (s : ImageLoading View URL Image) (decodes : Bool) :
    Settles s [] (s.runIO decodes) := by
  unfold runIO
  split
  · exact settles_of_total fun l => rfl
  · rename_i l rest queue
    refine (settles_queryDisk { s with ioQueue := rest } l decodes).of_pop fun l' => ?_
    apply total_take
    · rfl
    · rfl
    · rfl
    · simp only [ImageManager.queued, queue, List.filterMap_cons, IOBlock.operation,
        List.count_cons, List.count_nil]
      omega
  · rename_i url image rest queue
    refine settles_of_queued rfl rfl rfl fun l' => ?_
    simp [ImageManager.queued, queue, List.filterMap_cons, IOBlock.operation]

section Downloads

variable {k : ℕ} {d d' : DownloaderOperation View URL Image}
variable {told : List (CombinedOperation View URL)}

/-- The download goes on as it must, and has told the operations `told` how it ended. -/
structure Tells (d d' : DownloaderOperation View URL Image)
    (told : List (CombinedOperation View URL)) : Prop where
  remembers : ∀ l, d'.Remembers l → d.Remembers l
  finished : d'.isFinished = true → d'.stage.pending = []
  owes : ∀ l, d'.owes l + told.count l = d.owes l

theorem settles_tell (h : s.Tidy) (hd : s.downloads k = some d) (tells : Tells d d' told)
    (result : Except LoadError Image) :
    Settles s [] { s.setDownload k d' with
      mainQueue := s.mainQueue ++ told.map (.loaderDone · result) } := by
  refine settles_of_inFlight rfl fun l => ?_
  have balance := ImageManager.inFlight_setDownload h hd tells.remembers l
  have pushed := ImageManager.inFlight_pushMain
    { s.toImageManager with downloads := Function.update s.downloads k (some d') }
    (told.map (.loaderDone · result)) l
  have operations : (told.map (MainBlock.loaderDone · result)).map MainBlock.operation = told := by
    simp [MainBlock.operation, Function.comp_def]
  rw [operations] at pushed
  have owes := tells.owes l
  have same : ImageManager.inFlight { s.toImageManager with
      downloads := Function.update s.downloads k (some d')
      mainQueue := s.mainQueue ++ told.map (.loaderDone · result) } l = s.inFlight l := by
    refine pushed.trans ?_
    dsimp only at balance ⊢
    omega
  exact ⟨Nat.le_of_eq same, fun _ => same⟩

theorem tidy_tell (h : s.Tidy) (hd : s.downloads k = some d) (tells : Tells d d' told)
    (result : Except LoadError Image) :
    ImageManager.Tidy { s.toImageManager with
      downloads := Function.update s.downloads k (some d')
      mainQueue := s.mainQueue ++ told.map (.loaderDone · result) } := by
  refine { h.setDownload hd tells.remembers tells.finished with asks := fun l asks => h.asks l ?_ }
  cases asks with
  | query h => exact .query h
  | cacheDone h => exact .cacheDone (by simpa using h)
  | sharing h => exact .sharing h

/-- A download that tells nobody anything. -/
theorem settles_silent (h : s.Tidy) (hd : s.downloads k = some d) (tells : Tells d d' []) :
    Settles s [] (s.setDownload k d') := by
  refine settles_of_inFlight rfl fun l => ?_
  have balance := ImageManager.inFlight_setDownload h hd tells.remembers l
  have owes := tells.owes l
  have same : (s.setDownload k d').inFlight l = s.inFlight l := by
    simp only [List.count_nil, Nat.add_zero] at owes
    simp only [setDownload]
    omega
  exact ⟨Nat.le_of_eq same, fun _ => same⟩

theorem owes_running (stage : d.stage = .running) (going : ¬ d.Over)
    (l : CombinedOperation View URL) : d.owes l = d.callbackTokens.count l := by
  simp only [DownloaderOperation.Over, not_or, Bool.not_eq_true] at going
  simp [DownloaderOperation.owes, DownloaderOperation.isListening, stage, going, Stage.pending,
    Stage.handled]

theorem tells_done (owed : ∀ l, d.owes l = 0) (pending : d.stage.pending = []) :
    Tells d d.done [] where
  remembers l := DownloaderOperation.remembers_done
  finished _ := pending
  owes l := by rw [DownloaderOperation.owes_done, pending, owed l]; rfl

theorem tells_didFail (stage : d.stage = .running) (going : ¬ d.Over) :
    Tells d { d with stage := .failing } d.callbackTokens where
  remembers l known := by
    refine .inl ?_
    simpa [DownloaderOperation.Remembers, Stage.pending, Stage.handled] using known
  finished _ := rfl
  owes l := by
    rw [owes_running stage going]
    simp [DownloaderOperation.owes, DownloaderOperation.isListening, Stage.pending]

theorem tells_didReceive (stage : d.stage = .running) (going : ¬ d.Over) (image : Option Image) :
    Tells d { d with stage := .decoding image d.callbackTokens d.callbackTokens } [] where
  remembers l known := by
    refine .inl ?_
    simpa [DownloaderOperation.Remembers, Stage.pending, Stage.handled] using known
  finished isOver := absurd (.inl isOver) going
  owes l := by
    rw [owes_running stage going]
    by_cases known : l ∈ d.callbackTokens
    · simp [DownloaderOperation.owes, Stage.pending, Stage.handled, known]
    · simp [DownloaderOperation.owes, Stage.pending, Stage.handled, List.count_eq_zero.mpr known]

theorem tells_didDecode {image : Option Image} {pending handled : List (CombinedOperation View URL)}
    (stage : d.stage = .decoding image (l :: pending) handled) (going : d.isFinished = false) :
    Tells d { d with stage := .decoding image pending handled } [l] where
  remembers l' known := by
    simp only [DownloaderOperation.Remembers, stage, Stage.pending, Stage.handled] at known ⊢
    exact known.imp_right (.imp_left (List.mem_cons_of_mem _))
  finished isOver := by
    rw [going] at isOver
    cases isOver
  owes l' := by
    have listening : DownloaderOperation.isListening
        { d with stage := .decoding image pending handled } = d.isListening := by
      simp [DownloaderOperation.isListening, stage]
    simp [DownloaderOperation.owes, listening, stage, Stage.pending, Stage.handled, List.count_cons]
    omega

theorem tells_checkDone {image : Option Image} {tokens handled : List (CombinedOperation View URL)}
    (stage : d.stage = .decoding image [] handled) (going : d.isFinished = false)
    (new : tokens = d.callbackTokens.filter (· ∉ handled)) :
    Tells d { d with stage := .decoding image tokens (handled ++ tokens) } [] where
  remembers l known := by
    simp only [new, DownloaderOperation.Remembers, stage, Stage.pending, Stage.handled,
      List.mem_append, List.mem_filter] at known ⊢
    tauto
  finished isOver := by
    rw [going] at isOver
    cases isOver
  owes l := by
    subst new
    by_cases old : l ∈ handled
    · simp [DownloaderOperation.owes, DownloaderOperation.isListening, stage, Stage.pending,
        Stage.handled, old, List.count_eq_zero]
    · by_cases known : l ∈ d.callbackTokens
      · simp [DownloaderOperation.owes, DownloaderOperation.isListening, stage, Stage.pending,
          Stage.handled, old, known, going, List.count_filter]
      · simp [DownloaderOperation.owes, DownloaderOperation.isListening, stage, Stage.pending,
          Stage.handled, old, known, going, List.count_eq_zero]

theorem didReceive_tells (h : s.Tidy) (hd : s.downloads k = some d) (stage : d.stage = .running)
    (going : ¬ d.Over) (image : Option Image) :
    Settles s [] (s.didReceive k d image) ∧ (s.didReceive k d image).Tidy := by
  unfold didReceive
  split
  · rename_i none
    have pending : d.stage.pending = [] := by rw [stage]; rfl
    have tells := tells_done (d := d) (fun l => by rw [owes_running stage going, none]; rfl) pending
    exact ⟨settles_silent h hd tells, h.setDownload hd tells.remembers tells.finished⟩
  · have tells := tells_didReceive stage going image
    exact ⟨settles_silent h hd tells, h.setDownload hd tells.remembers tells.finished⟩

theorem proceed_tells (h : s.Tidy) (hd : s.downloads k = some d) (going : d.isFinished = false) :
    Settles s [] (s.proceed k) ∧ (s.proceed k).Tidy := by
  unfold proceed
  simp only [hd]
  split
  · exact ⟨settles_of_total fun l => rfl, h⟩
  · rename_i stage
    have pending : d.stage.pending = [] := by rw [stage]; rfl
    have owed (l : CombinedOperation View URL) : d.owes l = 0 := by
      simp [DownloaderOperation.owes, DownloaderOperation.isListening, stage, Stage.pending]
    have tells := tells_done owed pending
    exact ⟨settles_silent h hd tells, h.setDownload hd tells.remembers tells.finished⟩
  · rename_i image handled stage
    unfold checkDone
    dsimp only
    split
    · rename_i none
      have pending : d.stage.pending = [] := by rw [stage]; rfl
      have tells := tells_done (d := d) (fun l => by
        have all : l ∈ d.callbackTokens → l ∈ handled := by
          simpa using List.filter_eq_nil_iff.mp none l
        rw [DownloaderOperation.owes, pending, stage]
        by_cases known : l ∈ d.callbackTokens
        · simp [Stage.handled, all known]
        · simp [List.count_eq_zero.mpr known]) pending
      exact ⟨settles_silent h hd tells, h.setDownload hd tells.remembers tells.finished⟩
    · have tells := tells_checkDone stage going rfl
      exact ⟨settles_silent h hd tells, h.setDownload hd tells.remembers tells.finished⟩
  · rename_i image l pending handled stage
    have tells := tells_didDecode stage going
    exact ⟨settles_tell h hd tells _, tidy_tell h hd tells _⟩

end Downloads

end ImageLoading

end RockRadio
