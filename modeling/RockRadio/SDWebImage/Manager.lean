import RockRadio.SDWebImage.Basic
import Mathlib.Tactic.Common

/-!
# What the manager holds

What the manager holds under an address, in its caches, its queues and its downloads, was served
under it; and an operation only waits for something because it was made to.
-/

namespace RockRadio

variable {View URL Image : Type*}

/-! ## Downloads -/

/-- The callbacks that the coder queue has not come to. -/
def Stage.pending {Operation : Type*} : Stage Operation Image → List Operation
  | .decoding _ pending _ => pending
  | _ => []

namespace DownloaderOperation

variable {d : DownloaderOperation View URL Image} {l l' : CombinedOperation View URL}

/-- The download may still call the operation back. -/
def Knows (d : DownloaderOperation View URL Image) (l : CombinedOperation View URL) : Prop :=
  l ∈ d.callbackTokens ∨ l ∈ d.stage.pending

/-- The download only knows operations of its address, and its image is served there. -/
structure Sound (Serves : URL → Image → Prop) (d : DownloaderOperation View URL Image) : Prop where
  knows : ∀ l, d.Knows l → l.url = d.url
  decoding : ∀ {i : Image} {pending handled : List (CombinedOperation View URL)},
    d.stage = .decoding (some i) pending handled → Serves d.url i

theorem knows_of_done (h : d.done.Knows l) : d.Knows l :=
  h.imp (fun h => absurd h List.not_mem_nil) id

theorem sound_done {Serves : URL → Image → Prop} (h : d.Sound Serves) : d.done.Sound Serves where
  knows l known := h.knows l (knows_of_done known)
  decoding := h.decoding

variable [DecidableEq View] [DecidableEq URL]

@[simp] theorem url_cancel : (d.cancel l).url = d.url := by
  unfold cancel
  split_ifs <;> rfl

@[simp] theorem stage_cancel : (d.cancel l).stage = d.stage := by
  unfold cancel
  split_ifs <;> rfl

theorem mem_of_mem_cancel (h : l' ∈ (d.cancel l).callbackTokens) : l' ∈ d.callbackTokens := by
  unfold cancel at h
  split_ifs at h
  · exact h
  · cases h
  · exact List.mem_of_mem_erase h

theorem knows_of_cancel (h : (d.cancel l).Knows l') : d.Knows l' :=
  h.imp mem_of_mem_cancel fun pending => by rwa [stage_cancel] at pending

theorem sound_cancel {Serves : URL → Image → Prop} (h : d.Sound Serves) :
    (d.cancel l).Sound Serves where
  knows l' known := (h.knows l' (knows_of_cancel known)).trans url_cancel.symm
  decoding stage := by
    rw [stage_cancel] at stage
    rw [url_cancel]
    exact h.decoding stage

end DownloaderOperation

/-! ## The manager -/

namespace ImageManager

/-- The operation waits for the disk, for the main queue or for a download. -/
inductive Waits (m : ImageManager View URL Image) (l : CombinedOperation View URL) : Prop where
  | query : .query l ∈ m.ioQueue → Waits m l
  | cacheDone {image : Option Image} : .cacheDone l image ∈ m.mainQueue → Waits m l
  | sharing {k : ℕ} : m.sharing = some (l, k) → Waits m l
  | download {k : ℕ} {d : DownloaderOperation View URL Image} :
      m.downloads k = some d → d.Knows l → Waits m l
  | loaderDone {result : Except LoadError Image} : .loaderDone l result ∈ m.mainQueue → Waits m l

/-- What the manager holds under an address was served under it. -/
structure Served (Serves : URL → Image → Prop) (m : ImageManager View URL Image) : Prop where
  memory : ∀ {url i}, m.memoryCache url = some i → Serves url i
  disk : ∀ {url i}, m.diskCache url = some i → Serves url i
  store : ∀ {url i}, .store url i ∈ m.ioQueue → Serves url i
  cacheDone : ∀ {l i}, .cacheDone l (some i) ∈ m.mainQueue → Serves l.url i
  loaderDone : ∀ {l i}, .loaderDone l (.ok i) ∈ m.mainQueue → Serves l.url i
  downloads : ∀ {k d}, m.downloads k = some d → d.Sound Serves
  sharing : ∀ {l k}, m.sharing = some (l, k) → ∃ d, m.downloads k = some d ∧ d.url = l.url
  operations : ∀ {url k}, m.URLOperations url = some k → ∃ d, m.downloads k = some d ∧ d.url = url
  started : ∀ {k d}, m.downloads k = some d → k < m.started

variable {Serves : URL → Image → Prop} {m : ImageManager View URL Image}

theorem update_eq_some {f : ℕ → Option (DownloaderOperation View URL Image)} {k k' : ℕ}
    {d d' : DownloaderOperation View URL Image}
    (h : Function.update f k (some d) k' = some d') : k' = k ∧ d' = d ∨ f k' = some d' := by
  by_cases same : k' = k
  · subst same
    rw [Function.update_self] at h
    exact .inl ⟨rfl, (Option.some.inj h).symm⟩
  · rw [Function.update_of_ne same] at h
    exact .inr h

/-- What is known of the address of a download stays known. -/
theorem exists_update {f : ℕ → Option (DownloaderOperation View URL Image)} {k k' : ℕ}
    {d d' : DownloaderOperation View URL Image} {url : URL} (old : f k = some d)
    (same : d'.url = d.url) (h : ∃ e, f k' = some e ∧ e.url = url) :
    ∃ e, Function.update f k (some d') k' = some e ∧ e.url = url := by
  obtain ⟨e, he, hurl⟩ := h
  by_cases eq : k' = k
  · subst eq
    rw [he] at old
    cases old
    exact ⟨d', Function.update_self _ _ _, same.trans hurl⟩
  · exact ⟨e, by rwa [Function.update_of_ne eq], hurl⟩

/-- A download may go on with an operation of the same address. -/
theorem Served.setDownload (h : m.Served Serves) {k : ℕ}
    {d d' : DownloaderOperation View URL Image} (old : m.downloads k = some d)
    (url : d'.url = d.url) (sound : d'.Sound Serves) :
    Served Serves { m with downloads := Function.update m.downloads k (some d') } := by
  refine { h with downloads := ?_, sharing := ?_, operations := ?_, started := ?_ }
  · intro k' e he
    rcases update_eq_some he with ⟨rfl, rfl⟩ | he
    · exact sound
    · exact h.downloads he
  · exact fun hl => exists_update old url (h.sharing hl)
  · exact fun hurl => exists_update old url (h.operations hurl)
  · intro k' e he
    rcases update_eq_some he with ⟨rfl, rfl⟩ | he
    · exact h.started old
    · exact h.started he

/-- A new download starts under the address of the operation that needs it. -/
theorem Served.addDownload [DecidableEq URL] (h : m.Served Serves) (noSharing : m.sharing = none)
    (l : CombinedOperation View URL)
    (loaderOperation : CombinedOperation View URL → Option ℕ) :
    Served Serves { m with
      downloads := Function.update m.downloads m.started
        (some { url := l.url, callbackTokens := [l] })
      started := m.started + 1
      URLOperations := Function.update m.URLOperations l.url (some m.started)
      loaderOperation } := by
  refine { h with downloads := ?_, sharing := ?_, operations := ?_, started := ?_ }
  · intro k d hd
    rcases update_eq_some hd with ⟨rfl, rfl⟩ | hd
    · refine ⟨fun l' known => ?_, nofun⟩
      rcases known with known | known
      · rw [List.mem_singleton.mp known]
      · cases known
    · exact h.downloads hd
  · intro l' k hl
    simp [noSharing] at hl
  · intro url k hk
    dsimp only at hk
    by_cases same : url = l.url
    · subst same
      rw [Function.update_self] at hk
      cases hk
      exact ⟨_, Function.update_self _ _ _, rfl⟩
    · rw [Function.update_of_ne same] at hk
      obtain ⟨d, hd, hurl⟩ := h.operations hk
      have older : k ≠ m.started := Nat.ne_of_lt (h.started hd)
      refine ⟨d, ?_, hurl⟩
      dsimp only
      rwa [Function.update_of_ne older]
  · intro k d hd
    rcases update_eq_some hd with ⟨rfl, rfl⟩ | hd
    · exact Nat.lt_succ_self _
    · exact Nat.lt_succ_of_lt (h.started hd)

theorem Served.pushMain (h : m.Served Serves) {bs : List (MainBlock View URL Image)}
    (cacheDone : ∀ l i, .cacheDone l (some i) ∈ bs → Serves l.url i)
    (loaderDone : ∀ l i, .loaderDone l (.ok i) ∈ bs → Serves l.url i) :
    Served Serves { m with mainQueue := m.mainQueue ++ bs } :=
  { h with
    cacheDone := fun hb => (List.mem_append.mp hb).elim h.cacheDone (cacheDone _ _)
    loaderDone := fun hb => (List.mem_append.mp hb).elim h.loaderDone (loaderDone _ _) }

theorem Served.popMain (h : m.Served Serves) {b : MainBlock View URL Image}
    {rest : List (MainBlock View URL Image)} (queue : m.mainQueue = b :: rest) :
    Served Serves { m with mainQueue := rest } :=
  { h with
    cacheDone := fun hb => h.cacheDone (queue ▸ List.mem_cons_of_mem _ hb)
    loaderDone := fun hb => h.loaderDone (queue ▸ List.mem_cons_of_mem _ hb) }

theorem Served.popIO (h : m.Served Serves) {b : IOBlock View URL Image}
    {rest : List (IOBlock View URL Image)} (queue : m.ioQueue = b :: rest) :
    Served Serves { m with ioQueue := rest } :=
  { h with store := fun hb => h.store (queue ▸ List.mem_cons_of_mem _ hb) }

theorem Served.setMemory [DecidableEq URL] (h : m.Served Serves) {url : URL} {image : Option Image}
    (serves : ∀ i ∈ image, Serves url i) :
    Served Serves { m with memoryCache := Function.update m.memoryCache url image } := by
  refine { h with memory := ?_ }
  intro url' i hi
  by_cases same : url' = url
  · subst same
    exact serves i (by simpa using hi)
  · exact h.memory (by simpa [same] using hi)

theorem Served.setDisk [DecidableEq URL] (h : m.Served Serves) {url : URL} {image : Option Image}
    (serves : ∀ i ∈ image, Serves url i) :
    Served Serves { m with diskCache := Function.update m.diskCache url image } := by
  refine { h with disk := ?_ }
  intro url' i hi
  by_cases same : url' = url
  · subst same
    exact serves i (by simpa using hi)
  · exact h.disk (by simpa [same] using hi)

theorem Waits.of_setDownload {l : CombinedOperation View URL} {k : ℕ}
    {d d' : DownloaderOperation View URL Image}
    (h : Waits { m with downloads := Function.update m.downloads k (some d') } l)
    (old : m.downloads k = some d) (knows : ∀ l, d'.Knows l → d.Knows l) : m.Waits l := by
  cases h with
  | query h => exact .query h
  | cacheDone h => exact .cacheDone h
  | sharing h => exact .sharing h
  | download h known =>
    rcases update_eq_some h with ⟨rfl, rfl⟩ | h
    · exact .download old (knows l known)
    · exact .download h known
  | loaderDone h => exact .loaderDone h

/-- Where an operation waits that did not wait before. -/
theorem Waits.mono {m' : ImageManager View URL Image} {l : CombinedOperation View URL}
    {P : CombinedOperation View URL → Prop} (h : m'.Waits l)
    (query : ∀ l, .query l ∈ m'.ioQueue → P l ∨ .query l ∈ m.ioQueue)
    (cacheDone : ∀ l i, .cacheDone l i ∈ m'.mainQueue → P l ∨ .cacheDone l i ∈ m.mainQueue)
    (loaderDone : ∀ l r, .loaderDone l r ∈ m'.mainQueue → P l ∨ .loaderDone l r ∈ m.mainQueue)
    (sharing : m'.sharing = m.sharing) (downloads : m'.downloads = m.downloads) :
    P l ∨ m.Waits l := by
  cases h with
  | query h => exact (query l h).imp_right .query
  | cacheDone h => exact (cacheDone l _ h).imp_right .cacheDone
  | sharing h => exact .inr (.sharing (sharing ▸ h))
  | download h known => exact .inr (.download (downloads ▸ h) known)
  | loaderDone h => exact (loaderDone l _ h).imp_right .loaderDone

/-- The caches and the records of the downloader let nothing wait. -/
theorem Waits.congr {m' : ImageManager View URL Image} {l : CombinedOperation View URL}
    (h : m'.Waits l) (ioQueue : m'.ioQueue = m.ioQueue) (mainQueue : m'.mainQueue = m.mainQueue)
    (sharing : m'.sharing = m.sharing) (downloads : m'.downloads = m.downloads) : m.Waits l := by
  cases h with
  | query h => exact .query (ioQueue ▸ h)
  | cacheDone h => exact .cacheDone (mainQueue ▸ h)
  | sharing h => exact .sharing (sharing ▸ h)
  | download h known => exact .download (downloads ▸ h) known
  | loaderDone h => exact .loaderDone (mainQueue ▸ h)

theorem Waits.of_popMain {l : CombinedOperation View URL} {b : MainBlock View URL Image}
    {rest : List (MainBlock View URL Image)} (h : Waits { m with mainQueue := rest } l)
    (queue : m.mainQueue = b :: rest) : m.Waits l := by
  have mem {b' : MainBlock View URL Image} (hb : b' ∈ rest) : b' ∈ m.mainQueue :=
    queue ▸ List.mem_cons_of_mem _ hb
  cases h with
  | query h => exact .query h
  | cacheDone h => exact .cacheDone (mem h)
  | sharing h => exact .sharing h
  | download h known => exact .download h known
  | loaderDone h => exact .loaderDone (mem h)

theorem Waits.of_popIO {l : CombinedOperation View URL} {b : IOBlock View URL Image}
    {rest : List (IOBlock View URL Image)} (h : Waits { m with ioQueue := rest } l)
    (queue : m.ioQueue = b :: rest) : m.Waits l := by
  cases h with
  | query h => exact .query (queue ▸ List.mem_cons_of_mem _ h)
  | cacheDone h => exact .cacheDone h
  | sharing h => exact .sharing h
  | download h known => exact .download h known
  | loaderDone h => exact .loaderDone h

end ImageManager

/-! ## What the operations do to the manager -/

namespace ImageLoading

variable {s : ImageLoading View URL Image} {Serves : URL → Image → Prop}
variable {l l' : CombinedOperation View URL} {k : ℕ} {d : DownloaderOperation View URL Image}

/-- What is served, and what is waited for. -/
abbrev Served (Serves : URL → Image → Prop) (s : ImageLoading View URL Image) : Prop :=
  s.toImageManager.Served Serves

abbrev Waits (s : ImageLoading View URL Image) (l : CombinedOperation View URL) : Prop :=
  s.toImageManager.Waits l

section Caches

variable [DecidableEq URL]

theorem served_queryDiskImage (h : s.Served Serves) (url : URL) (decodes : Bool) :
    (∀ i ∈ (s.queryDiskImage url decodes).1, Serves url i) ∧
      ImageManager.Served Serves
        { s.toImageManager with memoryCache := (s.queryDiskImage url decodes).2 } := by
  unfold queryDiskImage
  split
  · exact ⟨nofun, h⟩
  · rename_i data hdata
    split
    · rename_i image himage
      refine ⟨?_, h⟩
      rintro i ⟨⟩
      exact h.memory himage
    · have serves : ∀ i ∈ some data, Serves url i := by
        rintro i ⟨⟩
        exact h.disk hdata
      split
      · exact ⟨serves, h.setMemory serves⟩
      · exact ⟨nofun, h⟩

theorem served_queryDisk (h : s.Served Serves) (l : CombinedOperation View URL) (decodes : Bool) :
    (s.queryDisk l decodes).Served Serves := by
  unfold queryDisk
  split
  · exact h
  · obtain ⟨serves, found⟩ := served_queryDiskImage h l.url decodes
    refine found.pushMain ?_ (by simp)
    intro l' i hi
    simp only [List.mem_singleton, MainBlock.cacheDone.injEq] at hi
    obtain ⟨rfl, himage⟩ := hi
    exact serves i himage.symm

theorem waits_queryDisk {decodes : Bool} (h : (s.queryDisk l decodes).Waits l') :
    l' = l ∨ s.Waits l' := by
  unfold queryDisk at h
  split at h
  · exact .inr h
  · dsimp only at h
    refine ImageManager.Waits.mono (m := s.toImageManager) (P := (· = l)) h (fun _ h => .inr h)
      ?_ ?_ rfl rfl
    · intro l' i hi
      rcases List.mem_append.mp hi with hi | hi
      · exact .inr hi
      · simp only [List.mem_singleton, MainBlock.cacheDone.injEq] at hi
        exact .inl hi.1
    · intro l' r hr
      exact .inr (by simpa using hr)

theorem served_storeImage (h : s.Served Serves) {url : URL} {image : Image}
    (serves : Serves url image) : (s.storeImage url image).Served Serves := by
  have stored : ImageManager.Served Serves { s.toImageManager with
      ioQueue := s.ioQueue ++ [.store url image, .store url image] } := by
    refine { h with store := ?_ }
    intro url' i hi
    rcases List.mem_append.mp hi with hi | hi
    · exact h.store hi
    · simp only [List.mem_cons, IOBlock.store.injEq, List.not_mem_nil, or_false, or_self] at hi
      obtain ⟨rfl, rfl⟩ := hi
      exact serves
  have cached : ∀ i ∈ some image, Serves url i := by
    rintro i ⟨⟩
    exact serves
  exact stored.setMemory cached

theorem waits_storeImage {url : URL} {image : Image} (h : (s.storeImage url image).Waits l) :
    s.Waits l := by
  cases h with
  | query h => exact .query (by simpa [storeImage] using h)
  | cacheDone h => exact .cacheDone h
  | sharing h => exact .sharing h
  | download h known => exact .download h known
  | loaderDone h => exact .loaderDone h

theorem served_removeOperation (h : s.Served Serves) (k : ℕ) :
    (s.removeOperation k).Served Serves := by
  unfold removeOperation
  split
  · exact h
  · rename_i d hd
    refine { h with operations := ?_ }
    intro url k' hk
    dsimp only at hk
    by_cases same : url = d.url
    · subst same
      rw [Function.update_self] at hk
      cases hk
    · rw [Function.update_of_ne same] at hk
      exact h.operations hk

end Caches

theorem served_didFail (h : s.Served Serves) (hd : s.downloads k = some d) (error : LoadError) :
    (s.didFail k d error).Served Serves := by
  have failing : (s.setDownload k { d with stage := .failing }).Served Serves :=
    h.setDownload hd rfl
      ⟨fun l known => (h.downloads hd).knows l (known.imp_right nofun), nofun⟩
  exact failing.pushMain (by simp) (by simp)

/-- The callbacks that are told of an error waited for the download. -/
theorem waits_didFail (hd : s.downloads k = some d) {error : LoadError}
    (h : (s.didFail k d error).Waits l) : s.Waits l := by
  have told : l ∈ d.callbackTokens → s.Waits l := fun known => .download hd (.inl known)
  cases h with
  | query h => exact .query h
  | cacheDone h => exact .cacheDone (by simpa [didFail] using h)
  | sharing h => exact .sharing h
  | download h known =>
    rcases ImageManager.update_eq_some h with ⟨rfl, rfl⟩ | h
    · exact told (known.resolve_right nofun)
    · exact .download h known
  | loaderDone h =>
    rcases List.mem_append.mp h with h | h
    · exact .loaderDone h
    · simp only [List.mem_map, MainBlock.loaderDone.injEq] at h
      obtain ⟨l', known, rfl, _⟩ := h
      exact told known

theorem served_didReceive (h : s.Served Serves) (hd : s.downloads k = some d)
    {image : Option Image} (serves : ∀ i ∈ image, Serves d.url i) :
    (s.didReceive k d image).Served Serves := by
  have sound := h.downloads hd
  unfold didReceive
  split
  · exact h.setDownload hd rfl (DownloaderOperation.sound_done sound)
  · refine h.setDownload hd rfl ⟨fun l known => sound.knows l (.inl (known.elim id id)), ?_⟩
    rintro i pending handled ⟨⟩
    exact serves i rfl

theorem waits_didReceive (hd : s.downloads k = some d) {image : Option Image}
    (h : (s.didReceive k d image).Waits l) : s.Waits l := by
  unfold didReceive at h
  split at h
  · exact h.of_setDownload hd fun _ => DownloaderOperation.knows_of_done
  · exact h.of_setDownload hd fun l known => .inl (known.elim id id)

theorem served_didDecode (h : s.Served Serves) (hd : s.downloads k = some d)
    {image : Option Image} {pending handled : List (CombinedOperation View URL)}
    (stage : d.stage = .decoding image (l :: pending) handled) :
    (s.didDecode k d image l pending handled).Served Serves := by
  have sound := h.downloads hd
  have here : l.url = d.url := sound.knows l (.inr (by simp [stage, Stage.pending]))
  have rest : (s.setDownload k { d with stage := .decoding image pending handled }).Served
      Serves := by
    refine h.setDownload hd rfl ⟨?_, ?_⟩
    · intro l' known
      refine sound.knows l' (known.imp_right fun later => ?_)
      rw [stage]
      exact List.mem_cons_of_mem _ later
    · rintro i pending' handled' ⟨⟩
      exact sound.decoding stage
  refine rest.pushMain (by simp) ?_
  intro l' i hi
  simp only [List.mem_singleton, MainBlock.loaderDone.injEq] at hi
  obtain ⟨rfl, hi⟩ := hi
  cases image with
  | none => cases hi
  | some image =>
    cases hi
    rw [here]
    exact sound.decoding stage

theorem waits_didDecode (hd : s.downloads k = some d) {image : Option Image}
    {pending handled : List (CombinedOperation View URL)}
    (stage : d.stage = .decoding image (l :: pending) handled)
    (h : (s.didDecode k d image l pending handled).Waits l') : s.Waits l' := by
  have known : ∀ l' ∈ l :: pending, s.Waits l' := fun l' later =>
    .download hd (.inr (by rw [stage]; exact later))
  cases h with
  | query h => exact .query h
  | cacheDone h => exact .cacheDone (by simpa [didDecode] using h)
  | sharing h => exact .sharing h
  | download h later =>
    rcases ImageManager.update_eq_some h with ⟨rfl, rfl⟩ | h
    · rcases later with later | later
      · exact .download hd (.inl later)
      · exact known l' (List.mem_cons_of_mem _ later)
    · exact .download h later
  | loaderDone h =>
    rcases List.mem_append.mp h with h | h
    · exact .loaderDone h
    · simp only [List.mem_singleton, MainBlock.loaderDone.injEq] at h
      rw [h.1]
      exact known l List.mem_cons_self

variable [DecidableEq View] [DecidableEq URL]

@[simp] theorem manager_complete (s : ImageLoading View URL Image)
    (l : CombinedOperation View URL) (result : Except LoadError Image) :
    (s.complete l result).toImageManager = s.toImageManager := by
  cases result <;> rfl

/-- Cancelling touches one download at most. -/
theorem manager_cancel (s : ImageLoading View URL Image) (l : CombinedOperation View URL) :
    (s.cancel l).toImageManager = s.toImageManager ∨
      ∃ k d, s.downloads k = some d ∧ (s.cancel l).toImageManager =
        { s.toImageManager with
          downloads := Function.update s.downloads k (some (d.cancel l)) } := by
  unfold cancel
  split
  · exact .inl rfl
  · dsimp only
    split
    · exact .inl rfl
    · rename_i k _
      split
      · exact .inl rfl
      · rename_i d hd
        exact .inr ⟨k, d, hd, rfl⟩

theorem served_cancel (h : s.Served Serves) (l : CombinedOperation View URL) :
    (s.cancel l).Served Serves := by
  rcases manager_cancel s l with same | ⟨k, d, hd, cancelled⟩
  · rw [Served, same]
    exact h
  · rw [Served, cancelled]
    exact h.setDownload hd DownloaderOperation.url_cancel
      (DownloaderOperation.sound_cancel (h.downloads hd))

theorem waits_cancel (h : (s.cancel l).Waits l') : s.Waits l' := by
  rcases manager_cancel s l with same | ⟨k, d, hd, cancelled⟩
  · rwa [Waits, same] at h
  · rw [Waits, cancelled] at h
    exact h.of_setDownload hd fun _ => DownloaderOperation.knows_of_cancel

theorem served_callCacheProcess (h : s.Served Serves) (l : CombinedOperation View URL) :
    (s.callCacheProcess l).Served Serves := by
  unfold callCacheProcess
  split
  · rw [Served, manager_complete]
    exact h
  · exact { h with store := fun hb => h.store (by simpa using hb) }

theorem served_loadImage (h : s.Served Serves) (l : CombinedOperation View URL) :
    (s.loadImage l).Served Serves := by
  unfold loadImage
  split
  · rw [Served, manager_complete]
    exact h
  · exact served_callCacheProcess h l

/-- A load asks the disk at most. -/
theorem waits_loadImage (h : (s.loadImage l).Waits l') : l' = l ∨ s.Waits l' := by
  unfold loadImage callCacheProcess at h
  split at h
  · rw [Waits, manager_complete] at h
    exact .inr h
  · split at h
    · rw [Waits, manager_complete] at h
      exact .inr h
    · cases h with
      | query h =>
        rcases List.mem_append.mp h with h | h
        · exact .inr (.query h)
        · simp only [List.mem_singleton, IOBlock.query.injEq] at h
          exact .inl h
      | cacheDone h => exact .inr (.cacheDone h)
      | sharing h => exact .inr (.sharing h)
      | download h known => exact .inr (.download h known)
      | loaderDone h => exact .inr (.loaderDone h)

theorem served_startDownload (h : s.Served Serves) (noSharing : s.sharing = none)
    (l : CombinedOperation View URL) : (s.startDownload l).Served Serves :=
  h.addDownload noSharing l _

theorem waits_startDownload (h : (s.startDownload l).Waits l') : l' = l ∨ s.Waits l' := by
  cases h with
  | query h => exact .inr (.query h)
  | cacheDone h => exact .inr (.cacheDone h)
  | sharing h => exact .inr (.sharing h)
  | download h known =>
    rcases ImageManager.update_eq_some h with ⟨rfl, rfl⟩ | h
    · rcases known with known | known
      · exact .inl (List.mem_singleton.mp known)
      · cases known
    · exact .inr (.download h known)
  | loaderDone h => exact .inr (.loaderDone h)

theorem served_downloadImage (h : s.Served Serves) (noSharing : s.sharing = none)
    (l : CombinedOperation View URL) : (s.downloadImage l).Served Serves := by
  unfold downloadImage
  split
  · exact served_startDownload h noSharing l
  · rename_i k hk
    split
    · exact served_startDownload h noSharing l
    · split
      · exact served_startDownload h noSharing l
      · refine { h with sharing := ?_ }
        rintro l' k' ⟨⟩
        exact h.operations hk

theorem waits_downloadImage (h : (s.downloadImage l).Waits l') : l' = l ∨ s.Waits l' := by
  unfold downloadImage at h
  split at h
  · exact waits_startDownload h
  · split at h
    · exact waits_startDownload h
    · split at h
      · exact waits_startDownload h
      · cases h with
        | query h => exact .inr (.query h)
        | cacheDone h => exact .inr (.cacheDone h)
        | sharing h =>
          cases h
          exact .inl rfl
        | download h known => exact .inr (.download h known)
        | loaderDone h => exact .inr (.loaderDone h)

theorem served_addHandlers (h : s.Served Serves) : s.addHandlers.Served Serves := by
  unfold addHandlers
  split
  · exact h
  · rename_i l k hl
    obtain ⟨d, hd, hurl⟩ := h.sharing hl
    simp only [hd]
    have free : ImageManager.Served Serves { s.toImageManager with
        sharing := none, loaderOperation := Function.update s.loaderOperation l (some k) } :=
      { h with sharing := nofun }
    refine free.setDownload hd rfl { h.downloads hd with knows := ?_ }
    intro l' known
    rcases known with known | known
    · rcases List.mem_append.mp known with known | known
      · exact (h.downloads hd).knows l' (.inl known)
      · rw [List.mem_singleton.mp known, ← hurl]
    · exact (h.downloads hd).knows l' (.inr known)

theorem waits_addHandlers (h : s.addHandlers.Waits l') : s.Waits l' := by
  unfold addHandlers at h
  split at h
  · exact h
  · rename_i l k hl
    dsimp only at h
    split at h
    · cases h with
      | query h => exact .query h
      | cacheDone h => exact .cacheDone h
      | sharing h => cases h
      | download h known => exact .download h known
      | loaderDone h => exact .loaderDone h
    · rename_i d hd
      cases h with
      | query h => exact .query h
      | cacheDone h => exact .cacheDone h
      | sharing h => cases h
      | download h known =>
        rcases ImageManager.update_eq_some h with ⟨rfl, rfl⟩ | h
        · rcases known with known | known
          · rcases List.mem_append.mp known with known | known
            · exact .download hd (.inl known)
            · rw [List.mem_singleton.mp known]
              exact .sharing hl
          · exact .download hd (.inr known)
        · exact .download h known
      | loaderDone h => exact .loaderDone h

theorem served_checkDone (h : s.Served Serves) (hd : s.downloads k = some d)
    {image : Option Image} {handled : List (CombinedOperation View URL)}
    (stage : d.stage = .decoding image [] handled) :
    (s.checkDone k d image handled).Served Serves := by
  have sound := h.downloads hd
  unfold checkDone
  dsimp only
  split
  · exact h.setDownload hd rfl (DownloaderOperation.sound_done sound)
  · refine h.setDownload hd rfl ⟨fun l known => sound.knows l (.inl ?_), ?_⟩
    · exact known.elim id fun later => (List.mem_filter.mp later).1
    · rintro i pending handled' ⟨⟩
      exact sound.decoding stage

theorem waits_checkDone (hd : s.downloads k = some d) {image : Option Image}
    {handled : List (CombinedOperation View URL)}
    (h : (s.checkDone k d image handled).Waits l) : s.Waits l := by
  unfold checkDone at h
  dsimp only at h
  split at h
  · exact h.of_setDownload hd fun _ => DownloaderOperation.knows_of_done
  · refine h.of_setDownload hd fun l known => .inl ?_
    exact known.elim id fun later => (List.mem_filter.mp later).1

theorem served_proceed (h : s.Served Serves) (k : ℕ) : (s.proceed k).Served Serves := by
  unfold proceed
  split
  · exact h
  · rename_i d hd
    split
    · exact h
    · exact h.setDownload hd rfl (DownloaderOperation.sound_done (h.downloads hd))
    · rename_i stage
      exact served_checkDone h hd stage
    · rename_i stage
      exact served_didDecode h hd stage

theorem waits_proceed {k : ℕ} (h : (s.proceed k).Waits l) : s.Waits l := by
  unfold proceed at h
  split at h
  · exact h
  · rename_i d hd
    split at h
    · exact h
    · exact h.of_setDownload hd fun _ => DownloaderOperation.knows_of_done
    · exact waits_checkDone hd h
    · rename_i stage
      exact waits_didDecode hd stage h

end ImageLoading

end RockRadio
