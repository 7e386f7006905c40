import RockRadio.SideMenuController.Menu

/-!
# A session over one collection

In a session the collection stays as it is, both controllers are loaded, and their three queries
for 'social' are answered. The arrays then hold what the order of the answers made of them: each
array is a concatenation of snapshots, and only few of these list every document once.

## Main results

* `step_listed_iff` — what the last answer of a session does to the arrays.
* `listed_iff_side_last` — after all answers, the arrays list every sorted document exactly once
  exactly when the side menu's answer came last and found its array empty, or the collection leaves
  nothing to list twice.
-/

namespace RockRadio.Menu

variable {URL : Type} {os : Platform URL} {c : Collection} {s t : Menu URL} {e : Event URL}

/-- Both controllers are loaded, and all their queries were answered. -/
structure Complete (s : Menu URL) : Prop where
  mainLoaded : s.mainLoaded = true
  sideLoaded : s.sideLoaded = true
  ads : s.adsFetches = 0
  main : s.mainFetches = 0
  side : s.sideFetches = 0

/-- The array has every document with a 'sort' field exactly once, and none twice. -/
structure ListsOnce (c : Collection) (array : List Document) : Prop where
  sorted : ∀ d ∈ c.getDocuments, (d.data.get "sort").isSome = true → array.count d = 1
  nodup : array.Nodup

/-- Once all queries were answered, the app delegate's array and the side menu's list the
documents once. -/
def Listed (c : Collection) (s : Menu URL) : Prop :=
  Complete s → ListsOnce c s.appSocialArray ∧ ListsOnce c s.sideSocialArray

/-- If this answer is the last one, it is the side menu's, whose array is empty, or holds the
collection while no document has a 'sort' field; or there are no documents at all. -/
def SideLast (c : Collection) (s : Menu URL) : Event URL → Prop
  | .mainSocialData _ =>
    s.sideLoaded = true → s.sideFetches = 0 → s.adsFetches = 0 → s.mainFetches = 1 →
      c.getDocuments = []
  | .sideSocialData _ =>
    s.mainLoaded = true → s.adsFetches = 0 → s.mainFetches = 0 →
      s.sideSocialArray = [] ∨ c.orderedBy "sort" = [] ∧ s.sideSocialArray = c.getDocuments
  | _ => True

/-! ## Arrays that list the documents once -/

theorem listsOnce_iff {array : List Document} :
    ListsOnce c array ↔ array.Nodup ∧ ∀ d ∈ c.orderedBy "sort", d ∈ array := by
  constructor
  · intro h
    refine ⟨h.nodup, fun d hd => ?_⟩
    obtain ⟨mem, sorted⟩ := Collection.mem_orderedBy.mp hd
    exact List.count_pos_iff.mp (by rw [h.sorted d mem sorted]; omega)
  · rintro ⟨nodup, all⟩
    refine ⟨fun d mem sorted => ?_, nodup⟩
    exact List.count_eq_one_of_mem nodup (all d (Collection.mem_orderedBy.mpr ⟨mem, sorted⟩))

theorem listsOnce_nil (empty : c.getDocuments = []) : ListsOnce c [] := by
  refine ⟨fun d hd => ?_, List.nodup_nil⟩
  rw [empty] at hd
  cases hd

/-- The collection, written down `n` times. -/
def copies (c : Collection) (n : ℕ) : List Document := (List.replicate n c.getDocuments).flatten

theorem copies_succ (n : ℕ) : copies c (n + 1) = copies c n ++ c.getDocuments := by
  simp [copies, List.replicate_succ', List.flatten_append]

theorem copies_subset {n : ℕ} {d : Document} (h : d ∈ copies c n) : d ∈ c.getDocuments := by
  obtain ⟨documents, hdocuments, hd⟩ := List.mem_flatten.mp h
  rwa [List.eq_of_mem_replicate hdocuments] at hd

theorem eq_nil_of_empty {array : List Document} (empty : c.getDocuments = [])
    (mem : ∀ d ∈ array, d ∈ c.getDocuments) : array = [] := by
  rw [empty] at mem
  exact List.subset_nil.mp mem

theorem copies_eq_nil (empty : c.getDocuments = []) (n : ℕ) : copies c n = [] :=
  eq_nil_of_empty empty fun _ => copies_subset

/-- Two copies list every document twice. -/
theorem not_nodup_copies {n : ℕ} (docs : c.getDocuments ≠ []) : ¬ (copies c (n + 2)).Nodup := by
  intro nodup
  obtain ⟨d, hd⟩ := List.exists_mem_of_ne_nil _ docs
  rw [copies_succ, copies_succ, List.append_assoc] at nodup
  have twice := (List.nodup_append.mp nodup).2.1
  exact (List.nodup_append.mp twice).2.2 d hd d hd rfl

/-- Copies of the collection, followed by the sorted documents, list each of these once exactly
when there are no copies, or one and nothing sorted. -/
theorem listsOnce_copies_append_iff (n : ℕ) :
    ListsOnce c (copies c n ++ c.orderedBy "sort") ↔
      copies c n = [] ∨ c.orderedBy "sort" = [] ∧ copies c n = c.getDocuments := by
  rw [listsOnce_iff]
  constructor
  · rintro ⟨nodup, -⟩
    by_cases docs : c.getDocuments = []
    · exact .inl (copies_eq_nil docs n)
    · match n, nodup with
      | 0, _ => exact .inl rfl
      | 1, nodup =>
        have one : copies c 1 = c.getDocuments := by simp [copies]
        refine .inr ⟨List.eq_nil_iff_forall_not_mem.mpr fun d hd => ?_, one⟩
        have mem : d ∈ copies c 1 := one ▸ (Collection.mem_orderedBy.mp hd).1
        exact (List.nodup_append.mp nodup).2.2 d mem d hd rfl
      | n + 2, nodup => exact absurd (List.nodup_append.mp nodup).1 (not_nodup_copies docs)
  · rintro (none | ⟨none, one⟩)
    · rw [none, List.nil_append]
      exact ⟨Collection.nodup_orderedBy, fun d hd => hd⟩
    · rw [none, List.append_nil, one]
      exact ⟨Collection.nodup_getDocuments, nofun⟩

/-! ## What holds during a session -/

/-- The main view's array has a copy for each answer. Until the side menu's query is answered, the
app delegate has the main view's array, and the side menu has an earlier state of it. -/
structure InSession (c : Collection) (s : Menu URL) : Prop where
  main : ∃ n, s.mainSocialArray = copies c n ∧
    (s.mainLoaded = false → s.adsFetches + s.mainFetches + n = 0) ∧
    (s.mainLoaded = true → s.adsFetches + s.mainFetches + n = 2)
  unloaded : s.sideLoaded = false → s.sideFetches = 0
  once : s.sideFetches ≤ 1
  published : s.sideLoaded = false ∨ s.sideFetches = 1 →
    s.appSocialArray = s.mainSocialArray ∧ ∃ n, s.sideSocialArray = copies c n
  app : ∀ d ∈ s.appSocialArray, d ∈ c.getDocuments
  side : ∀ d ∈ s.sideSocialArray, d ∈ c.getDocuments

theorem inSession_launch : InSession c (launch : Menu URL) where
  main := ⟨0, rfl, fun _ => rfl, nofun⟩
  unloaded _ := rfl
  once := Nat.zero_le 1
  published _ := ⟨rfl, 0, rfl⟩
  app := nofun
  side := nofun

/-- A view that waits for an answer is loaded. -/
theorem InSession.mainLoaded (h : InSession c s) (pending : 0 < s.mainFetches) :
    s.mainLoaded = true := by
  obtain ⟨n, _, before, _⟩ := h.main
  by_contra unloaded
  have := before (eq_false_of_ne_true unloaded)
  omega

theorem InSession.sideLoaded (h : InSession c s) (pending : 0 < s.sideFetches) :
    s.sideLoaded = true := by
  by_contra unloaded
  have := h.unloaded (eq_false_of_ne_true unloaded)
  omega

theorem InSession.step (h : InSession c s) (enabled : Enabled s e) (served : Served c e)
    (step : step os s e = .ok t) : InSession c t := by
  by_cases table : e.OfTable
  · obtain ⟨globals, tableView, rfl⟩ := step_ofTable table step
    exact { h with }
  obtain ⟨n, main, before, after⟩ := h.main
  cases e with
  | mainViewDidLoad =>
    cases step
    have unloaded : s.mainLoaded = false := enabled
    have zero := before unloaded
    exact { h with main := ⟨n, main, nofun, fun _ => by simp only [mainViewDidLoad]; omega⟩ }
  | adsData answer =>
    obtain ⟨documents, rfl⟩ := Option.isSome_iff_exists.mp served
    cases step
    have pending : 0 < s.adsFetches := enabled
    refine { h with main := ⟨n, main, fun unloaded => ?_, fun loaded => ?_⟩ }
    · have := before unloaded
      omega
    · have := after loaded
      simp only [Menu.adsData]
      omega
  | mainSocialData answer =>
    obtain rfl : answer = some c.getDocuments := served
    cases step
    have pending : 0 < s.mainFetches := enabled
    have more : s.mainSocialArray ++ c.getDocuments = copies c (n + 1) := by
      rw [main, copies_succ]
    refine { h with main := ⟨n + 1, more, fun unloaded => ?_, fun loaded => ?_⟩
                    published := fun early => ⟨rfl, (h.published early).2⟩
                    app := fun d (hd : d ∈ s.mainSocialArray ++ _) => copies_subset (more ▸ hd) }
    · have := before unloaded
      omega
    · have := after loaded
      simp only [mainSocialData]
      omega
  | sideViewDidLoad =>
    cases step
    have unloaded : s.sideLoaded = false := enabled
    have none := h.unloaded unloaded
    have same := (h.published (.inl unloaded)).1
    exact { h with unloaded := nofun
                   once := by simp only [sideViewDidLoad]; omega
                   published := fun _ => ⟨same, n, same.trans main⟩
                   side := h.app }
  | viewWillAppear =>
    cases step
    refine { h with published := fun early => ?_, side := h.app }
    have same := (h.published early).1
    exact ⟨same, n, same.trans main⟩
  | sideSocialData answer =>
    obtain rfl : answer = some (c.orderedBy "sort") := served
    cases step
    have pending : 0 < s.sideFetches := enabled
    have loaded : s.sideLoaded ≠ false := by simp [h.sideLoaded pending]
    have grown : ∀ d ∈ s.sideSocialArray ++ c.orderedBy "sort", d ∈ c.getDocuments := by
      intro d hd
      rcases List.mem_append.mp hd with hd | hd
      · exact h.side d hd
      · exact (Collection.mem_orderedBy.mp hd).1
    have once := h.once
    refine { h with unloaded := fun unloaded => absurd unloaded loaded
                    once := by simp only [sideSocialData]; omega
                    published := fun early => ?_, app := grown, side := grown }
    rcases early with unloaded | early
    · exact absurd unloaded loaded
    · simp only [sideSocialData] at early
      omega
  | _ => exact absurd trivial table

/-! ## The last answer -/

/-- After the main view's last answer, both arrays list the documents once only if there are none:
the app delegate's holds two copies. -/
theorem listed_mainSocialData_iff (h : InSession c s) (pending : 0 < s.mainFetches) :
    Listed c (s.mainSocialData (some c.getDocuments)) ↔
      @SideLast URL c s (.mainSocialData (some c.getDocuments)) := by
  obtain ⟨n, main, _, after⟩ := h.main
  constructor
  · intro listed sideLoaded side ads last
    by_contra docs
    have loaded := h.mainLoaded pending
    have one : n = 1 := by have := after loaded; omega
    have complete : Complete (s.mainSocialData (some c.getDocuments)) :=
      ⟨loaded, sideLoaded, ads, by simp only [mainSocialData]; omega, side⟩
    have nodup : (s.mainSocialArray ++ c.getDocuments).Nodup := (listed complete).1.nodup
    rw [main, one, ← copies_succ] at nodup
    exact not_nodup_copies docs nodup
  · intro last complete
    have ads : s.adsFetches = 0 := complete.ads
    have side : s.sideFetches = 0 := complete.side
    have main' : s.mainFetches - 1 = 0 := complete.main
    have empty := last complete.sideLoaded side ads (by omega)
    have app : (s.mainSocialData (some c.getDocuments)).appSocialArray = [] := by
      simp [mainSocialData, main, copies_eq_nil empty, empty]
    have sideArray : (s.mainSocialData (some c.getDocuments)).sideSocialArray = [] :=
      eq_nil_of_empty empty h.side
    constructor
    · rw [app]
      exact listsOnce_nil empty
    · rw [sideArray]
      exact listsOnce_nil empty

/-- After the side menu's answer, both arrays are its old array with the sorted documents added. -/
theorem listed_sideSocialData_iff (h : InSession c s) (pending : 0 < s.sideFetches) :
    Listed c (s.sideSocialData (some (c.orderedBy "sort"))) ↔
      @SideLast URL c s (.sideSocialData (some (c.orderedBy "sort"))) := by
  have one : s.sideFetches = 1 := by have := h.once; omega
  have sideLoaded := h.sideLoaded pending
  obtain ⟨n, side⟩ := (h.published (.inr one)).2
  have once := listsOnce_copies_append_iff (c := c) n
  rw [← side] at once
  constructor
  · intro listed mainLoaded ads main
    exact once.mp (listed ⟨mainLoaded, sideLoaded, ads, main, by
      simp only [sideSocialData]; omega⟩).2
  · intro last complete
    have lists := once.mpr (last complete.mainLoaded complete.ads complete.main)
    exact ⟨lists, lists⟩

/-- Where the arrays are right, an event keeps them right exactly when it is not the wrong last
answer. -/
theorem step_listed_iff (h : InSession c s) (listed : Listed c s) (enabled : Enabled s e)
    (served : Served c e) (step : step os s e = .ok t) : Listed c t ↔ SideLast c s e := by
  by_cases table : e.OfTable
  · obtain ⟨globals, tableView, rfl⟩ := step_ofTable table step
    refine iff_of_true (fun complete => listed { complete with }) ?_
    cases e <;> trivial
  cases e with
  | mainViewDidLoad =>
    cases step
    exact iff_of_true (fun complete => absurd complete.ads (Nat.succ_ne_zero _)) trivial
  | adsData answer =>
    obtain ⟨documents, rfl⟩ := Option.isSome_iff_exists.mp served
    cases step
    exact iff_of_true (fun complete => absurd complete.main (Nat.succ_ne_zero _)) trivial
  | mainSocialData answer =>
    obtain rfl : answer = some c.getDocuments := served
    cases step
    exact listed_mainSocialData_iff h enabled
  | sideViewDidLoad =>
    cases step
    exact iff_of_true (fun complete => absurd complete.side (Nat.succ_ne_zero _)) trivial
  | viewWillAppear =>
    cases step
    refine iff_of_true (fun complete => ?_) trivial
    have lists := (listed { complete with }).1
    exact ⟨lists, lists⟩
  | sideSocialData answer =>
    obtain rfl : answer = some (c.orderedBy "sort") := served
    cases step
    exact listed_sideSocialData_iff h enabled
  | _ => exact absurd trivial table

/-- Along every session, whenever all queries were answered, both arrays list every sorted document
exactly once and none twice, exactly when the side menu's answer is the last one and finds an array
that it completes. -/
theorem listed_iff_side_last (os : Platform URL) (c : Collection) {es : List (Event URL)}
    {s : Menu URL} (run : (session os c).Exec launch es s) :
    (session os c).Always (Listed c) launch es ↔
      (session os c).AllSteps (SideLast c) launch es := by
  refine run.always_iff_allSteps (inSession_launch (c := c)) ?_ ?_ ?_
  · exact fun complete => nomatch complete.mainLoaded
  · intro s e t h enabled step
    exact h.step enabled.1 enabled.2 step
  · intro s e t h listed enabled step
    exact step_listed_iff h listed enabled.1 enabled.2 step

/-- A collection of one document. -/
def single : Collection := ⟨[sample "a" 1], by decide⟩

theorem single_orderedBy : single.orderedBy "sort" = [sample "a" 1] := by decide

/-- The events of a session in which the side menu is loaded first and answered last. -/
def sideFirst : List (Event String) :=
  [.sideViewDidLoad, .mainViewDidLoad, .adsData (some []), .mainSocialData (some [sample "a" 1]),
    .mainSocialData (some [sample "a" 1]), .sideSocialData (some [sample "a" 1])]

theorem listed_iff_side_last_single :
    (session .text single).Always (Listed single) launch sideFirst ↔
      (session .text single).AllSteps (SideLast single) launch sideFirst :=
  listed_iff_side_last .text single
    (.cons ⟨rfl, trivial⟩ rfl <| .cons ⟨rfl, trivial⟩ rfl <| .cons ⟨Nat.zero_lt_one, rfl⟩ rfl <|
      .cons ⟨Nat.zero_lt_two, rfl⟩ rfl <| .cons ⟨Nat.zero_lt_one, rfl⟩ rfl <|
      .cons ⟨Nat.zero_lt_one, congrArg some single_orderedBy.symm⟩ rfl (.nil _))

/-- The side menu, loaded first, appears after both answers to the main view and before its own: the
one document then is in the arrays three times. -/
theorem document_listed_thrice :
    ¬ ∀ (c : Collection) (es : List (Event String)) (s : Menu String),
      (session .text c).Exec launch es s → Listed c s := by
  intro claim
  have listed := claim single [.sideViewDidLoad, .mainViewDidLoad, .adsData (some []),
    .mainSocialData (some [sample "a" 1]), .mainSocialData (some [sample "a" 1]), .viewWillAppear,
    .sideSocialData (some [sample "a" 1])] _
    (.cons ⟨rfl, trivial⟩ rfl <| .cons ⟨rfl, trivial⟩ rfl <| .cons ⟨Nat.zero_lt_one, rfl⟩ rfl <|
      .cons ⟨Nat.zero_lt_two, rfl⟩ rfl <| .cons ⟨Nat.zero_lt_one, rfl⟩ rfl <|
      .cons ⟨rfl, trivial⟩ rfl <|
      .cons ⟨Nat.zero_lt_one, congrArg some single_orderedBy.symm⟩ rfl (.nil _))
  have nodup : [sample "a" 1, sample "a" 1, sample "a" 1].Nodup :=
    (listed ⟨rfl, rfl, rfl, rfl, rfl⟩).1.nodup
  exact absurd nodup (by decide)

end RockRadio.Menu
