import RockRadio.SideMenuController.Menu

/-!
# The table and the array behind it

The table knows the number of rows and the content of the cells from its last layout. The array it
indexes is replaced under it when the menu appears.

## Main results

* `inRange_iff` — the table only asks for rows that the array has, exactly when no appearance of
  the menu brings an array shorter than the table.
* `current_iff` — a tap always acts on the document that the tapped cell shows, exactly when every
  appearance of the menu brings the documents shown at their rows.
-/

namespace RockRadio.Menu

variable {URL : Type} {os : Platform URL} {s t : Menu URL} {e : Event URL}

/-! ## Rows out of range -/

/-- Every row the table may ask for is in the array. -/
def InRange (s : Menu URL) : Prop :=
  ∀ row < s.tableView.rows, row < s.sideSocialArray.length

theorem inRange_iff_le : InRange s ↔ s.tableView.rows ≤ s.sideSocialArray.length := by
  constructor
  · intro h
    by_contra short
    exact absurd (h s.sideSocialArray.length (by omega)) (by omega)
  · intro h row hrow
    omega

/-- The array that the menu picks up when it appears is no shorter than the table. -/
def Covered (s : Menu URL) : Event URL → Prop
  | .viewWillAppear => s.tableView.rows ≤ s.appSocialArray.length
  | _ => True

theorem covered_of_main (main : e.OfMain) : Covered s e := by
  cases e <;> trivial

/-- Until the side menu is loaded, its table is empty. -/
def Blank (s : Menu URL) : Prop :=
  s.sideLoaded = false → s.tableView.rows = 0 ∧ s.tableView.cells = []

theorem step_blank (blank : Blank s) (enabled : Enabled s e) (h : step os s e = .ok t) :
    Blank t := by
  by_cases main : e.OfMain
  · obtain ⟨loaded, _, table⟩ := step_ofMain main h
    rw [Blank, loaded, table]
    exact blank
  cases e with
  | sideViewDidLoad => cases h; exact nofun
  | viewWillAppear => cases h; exact blank
  | sideSocialData answer => cases answer <;> cases h <;> exact blank
  | layoutTable =>
    cases h
    intro unloaded
    have loaded : s.sideLoaded = true := enabled
    simp only [layoutTable] at unloaded
    split at unloaded <;> simp [loaded] at unloaded
  | cellForRowAt row dequeued =>
    obtain ⟨document, _, rfl⟩ := cellForRowAt_ok h
    intro unloaded
    have shown : row < s.tableView.rows := enabled
    have := (blank unloaded).1
    omega
  | didEndDisplaying row =>
    cases h
    intro unloaded
    obtain ⟨noRows, noCells⟩ := blank unloaded
    exact ⟨noRows, by simp [didEndDisplaying, noCells]⟩
  | didSelectRowAt row =>
    obtain rfl := step_didSelectRowAt h
    exact blank
  | _ => exact absurd trivial main

/-- Apart from an appearance of the menu, the array only grows, and a layout counts it anew. -/
theorem step_inRange_iff (blank : Blank s) (inRange : InRange s) (enabled : Enabled s e)
    (h : step os s e = .ok t) : InRange t ↔ Covered s e := by
  rw [inRange_iff_le] at inRange ⊢
  by_cases main : e.OfMain
  · obtain ⟨_, array, table⟩ := step_ofMain main h
    rw [array, table]
    exact iff_of_true inRange (covered_of_main main)
  cases e with
  | viewWillAppear => cases h; exact Iff.rfl
  | sideViewDidLoad =>
    cases h
    have noRows := (blank enabled).1
    exact iff_of_true (by simp [sideViewDidLoad, UITableView.reloadData, noRows]) trivial
  | sideSocialData answer =>
    cases answer with
    | none => cases h; exact iff_of_true inRange trivial
    | some documents =>
      cases h
      refine iff_of_true ?_ trivial
      simp only [sideSocialData, UITableView.reloadData, List.length_append]
      omega
  | layoutTable =>
    cases h
    refine iff_of_true ?_ trivial
    simp only [layoutTable]
    split
    · exact Nat.le_refl _
    · exact inRange
  | cellForRowAt row dequeued =>
    obtain ⟨document, _, rfl⟩ := cellForRowAt_ok h
    exact iff_of_true inRange trivial
  | didEndDisplaying row => cases h; exact iff_of_true inRange trivial
  | didSelectRowAt row =>
    obtain rfl := step_didSelectRowAt h
    exact iff_of_true inRange trivial
  | _ => exact absurd trivial main

/-- Along every run, the table only asks for rows of the array, exactly when the array that the menu
picks up is never shorter than the table. -/
theorem inRange_iff (os : Platform URL) {es : List (Event URL)} {s : Menu URL}
    (run : (system os).Exec launch es s) :
    (system os).Always InRange launch es ↔ (system os).AllSteps Covered launch es :=
  run.always_iff_allSteps (I := Blank) (fun _ => ⟨rfl, rfl⟩)
    (fun _ h => absurd h (Nat.not_lt_zero _)) step_blank step_inRange_iff

/-- A run in which the menu appears again with the array it had. -/
theorem inRange_iff_reappear :
    (system .text).Always InRange launch
        [.sideViewDidLoad, .sideSocialData (some [sample "a" 0]), .layoutTable, .viewWillAppear] ↔
      (system .text).AllSteps Covered launch
        [.sideViewDidLoad, .sideSocialData (some [sample "a" 0]), .layoutTable, .viewWillAppear] :=
  inRange_iff .text (EventSystem.replay_sound rfl)

/-- A document is deleted between the answer to the side menu and the one to the main view: when
the menu appears again, the table still has its row. -/
theorem row_beyond_array :
    ¬ ∀ (es : List (Event String)) (s : Menu String),
      (system .text).Exec launch es s → InRange s := by
  intro claim
  have inRange : 0 < 0 :=
    claim [.mainViewDidLoad, .sideViewDidLoad, .sideSocialData (some [sample "a" 0]), .layoutTable,
      .mainSocialData (some []), .viewWillAppear] _ (EventSystem.replay_sound rfl) 0 Nat.zero_lt_one
  omega

/-! ## Rows that changed -/

/-- Every cell on screen shows the document that a tap on it acts on. -/
def Current (s : Menu URL) : Prop :=
  ∀ c ∈ s.tableView.cells, s.sideSocialArray[c.row]? = some c.document

/-- The array that the menu picks up when it appears has the documents on screen at their rows. -/
def Unmoved (s : Menu URL) : Event URL → Prop
  | .viewWillAppear => ∀ c ∈ s.tableView.cells, s.appSocialArray[c.row]? = some c.document
  | _ => True

theorem unmoved_of_main (main : e.OfMain) : Unmoved s e := by
  cases e <;> trivial

/-- Apart from an appearance of the menu, the array keeps the rows it has. -/
theorem step_current_iff (blank : Blank s) (current : Current s) (enabled : Enabled s e)
    (h : step os s e = .ok t) : Current t ↔ Unmoved s e := by
  by_cases main : e.OfMain
  · obtain ⟨_, array, table⟩ := step_ofMain main h
    rw [Current, array, table]
    exact iff_of_true current (unmoved_of_main main)
  cases e with
  | viewWillAppear => cases h; exact Iff.rfl
  | sideViewDidLoad =>
    cases h
    refine iff_of_true ?_ trivial
    intro c hc
    rw [show (sideViewDidLoad s).tableView.cells = [] from (blank enabled).2] at hc
    cases hc
  | sideSocialData answer =>
    cases answer with
    | none => cases h; exact iff_of_true current trivial
    | some documents =>
      cases h
      refine iff_of_true ?_ trivial
      intro c hc
      have before := current c hc
      have inside := (List.getElem?_eq_some_iff.mp before).1
      rw [← before]
      exact List.getElem?_append_left inside
  | layoutTable =>
    cases h
    refine iff_of_true ?_ trivial
    simp only [layoutTable]
    split
    · intro c hc
      cases hc
    · exact current
  | cellForRowAt row dequeued =>
    obtain ⟨document, hd, rfl⟩ := cellForRowAt_ok h
    refine iff_of_true ?_ trivial
    intro c hc
    rcases List.mem_cons.mp hc with rfl | hc
    · exact hd
    · exact current c (List.mem_of_mem_filter hc)
  | didEndDisplaying row =>
    cases h
    exact iff_of_true (fun c hc => current c (List.mem_of_mem_filter hc)) trivial
  | didSelectRowAt row =>
    obtain rfl := step_didSelectRowAt h
    exact iff_of_true current trivial
  | _ => exact absurd trivial main

/-- Along every run, a tap acts on the document that its cell shows, exactly when every appearance
of the menu leaves the documents on screen at their rows. -/
theorem current_iff (os : Platform URL) {es : List (Event URL)} {s : Menu URL}
    (run : (system os).Exec launch es s) :
    (system os).Always Current launch es ↔ (system os).AllSteps Unmoved launch es :=
  run.always_iff_allSteps (I := Blank) (fun _ => ⟨rfl, rfl⟩) nofun step_blank step_current_iff

theorem current_iff_reappear :
    (system .text).Always Current launch
        [.sideViewDidLoad, .sideSocialData (some [sample "a" 0]), .layoutTable,
          .cellForRowAt 0 {}, .viewWillAppear] ↔
      (system .text).AllSteps Unmoved launch
        [.sideViewDidLoad, .sideSocialData (some [sample "a" 0]), .layoutTable,
          .cellForRowAt 0 {}, .viewWillAppear] :=
  current_iff .text (EventSystem.replay_sound rfl)

/-- Two documents whose order by 'sort' is not the order of their ids. -/
def swapped : Collection := ⟨[sample "a" 2, sample "b" 1], by decide⟩

theorem swapped_orderedBy : swapped.orderedBy "sort" = [sample "b" 1, sample "a" 2] := by decide

/-- The menu shows its rows in the order of 'sort'; the answer to the main view puts them in the
order of the ids, and the menu picks that up when it appears again. -/
theorem row_moved :
    ¬ ∀ (c : Collection) (es : List (Event String)) (s : Menu String),
      (session .text c).Exec launch es s → Current s := by
  intro claim
  have current := claim swapped [.mainViewDidLoad, .sideViewDidLoad,
    .sideSocialData (some [sample "b" 1, sample "a" 2]), .layoutTable, .cellForRowAt 0 {},
    .mainSocialData (some [sample "a" 2, sample "b" 1]), .viewWillAppear] _
    (.cons ⟨rfl, trivial⟩ rfl <| .cons ⟨rfl, trivial⟩ rfl <|
      .cons ⟨Nat.zero_lt_one, congrArg some swapped_orderedBy.symm⟩ rfl <|
      .cons ⟨rfl, trivial⟩ rfl <| .cons ⟨Nat.zero_lt_two, trivial⟩ rfl <|
      .cons ⟨Nat.zero_lt_one, rfl⟩ rfl <| .cons ⟨rfl, trivial⟩ rfl (.nil _))
  have tapped : some (sample "a" 2) = some (sample "b" 1) :=
    current _ (List.mem_singleton.mpr rfl)
  exact absurd tapped (by decide)

end RockRadio.Menu
