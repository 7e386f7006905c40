import RockRadio.App.System
import RockRadio.SideMenuController.Table

/-!
# Where the app traps

Documents are untyped, and the code reads them with conditional casts almost everywhere. What is
left are the subscripts of the table's methods and the forced unwraps on the way from a document to
the screen.

## Main results

* `step_error_iff` — which events trap, and how.
* `unwraps_iff_loadable` — no forced unwrap meets `nil`, in any sequence of events, exactly when
  every row that is tapped and presents a web view names an address.
* `exec_iff_loadable` — as long as the menu does not appear, this is also exactly when the events
  are all carried out.
-/

namespace RockRadio

/-- A tap on this row hands a web view a text that is no address. -/
def Document.Broken {URL : Type} (os : Platform URL) (d : Document) : Prop :=
  ∃ urlString, d.data.webPage = some urlString ∧ os.url urlString = none

theorem Menu.cellForRowAt_error_iff {URL : Type} {os : Platform URL} {s : Menu URL} {row : ℕ}
    {dequeued : SideMenuTableViewCell URL} {trap : Trap} :
    s.cellForRowAt os row dequeued = .error trap ↔
      s.sideSocialArray.length ≤ row ∧ trap = .indexOutOfRange := by
  rw [← subscript_error_iff, cellForRowAt, bind_pure_error_iff]

theorem Menu.selectRow_error_iff {URL : Type} {os : Platform URL} {s : Menu URL} {row : ℕ}
    {trap : Trap} :
    s.selectRow os row = .error trap ↔
      s.sideSocialArray.length ≤ row ∧ trap = .indexOutOfRange ∨
        (∃ d, s.sideSocialArray[row]? = some d ∧ d.Broken os) ∧ trap = .unexpectedNil := by
  simp only [selectRow]
  by_cases inside : row < s.sideSocialArray.length
  · rw [subscript_of_lt inside, List.getElem?_eq_getElem inside]
    refine didSelectRowAt_error_iff.trans ?_
    simp [inside, Document.Broken]
  · have outside : s.sideSocialArray.length ≤ row := by omega
    have none : s.sideSocialArray[row]? = none := List.getElem?_eq_none outside
    simp only [subscript, none]
    simp [outside, eq_comm, bind, Except.bind]

namespace App

variable {URL Image : Type} {os : Platform URL} {s : App URL Image} {e : Event URL Image}
  {trap : Trap}

/-- The row that the table's event is about, if it is an event of a row. -/
def Event.row : Event URL Image → Option ℕ
  | .menu (.cellForRowAt row _) | .menu (.didSelectRowAt row) => some row
  | _ => none

/-- A row that is tapped and presents a web view has an address for it. -/
def Loadable (os : Platform URL) (s : App URL Image) : Event URL Image → Prop
  | .menu (.didSelectRowAt row) => ∀ d ∈ s.menu.sideSocialArray[row]?, ¬ d.Broken os
  | _ => True

/-- The table asks for a row of the array. -/
def Inside (s : App URL Image) (e : Event URL Image) : Prop :=
  ∀ row ∈ e.row, row < s.menu.sideSocialArray.length

theorem inside_of_row {row : ℕ} (h : e.row = some row) :
    Inside s e ↔ row < s.menu.sideSocialArray.length := by
  simp [Inside, h]

theorem inside_of_noRow (h : e.row = none) : Inside s e := by
  simp [Inside, h]

/-- Only the events of rows trap: outside the array, or on a row that is broken. -/
theorem step_error_iff :
    step os s e = .error trap ↔
      ¬ Inside s e ∧ trap = .indexOutOfRange ∨ ¬ Loadable os s e ∧ trap = .unexpectedNil := by
  have never (fine : step os s e ≠ .error trap) (noRow : e.row = none)
      (loadable : Loadable os s e) : step os s e = .error trap ↔
        ¬ Inside s e ∧ trap = .indexOutOfRange ∨ ¬ Loadable os s e ∧ trap = .unexpectedNil :=
    iff_of_false fine (by simp [inside_of_noRow noRow, loadable])
  cases e with
  | menu e =>
    cases e with
    | cellForRowAt row dequeued =>
      rw [step, bind_pure_error_iff, Menu.step, Menu.cellForRowAt_error_iff, inside_of_row rfl]
      simp [Loadable]
    | didSelectRowAt row =>
      rw [step, bind_pure_error_iff, Menu.step, bind_pure_error_iff, Menu.selectRow_error_iff,
        inside_of_row rfl]
      simp [Loadable]
    | _ => exact never nofun rfl trivial
  | player e => exact never nofun rfl trivial
  | adTimer serial =>
    obtain ⟨ads, tick⟩ := s.ads.tick_ok os serial
    apply never _ rfl trivial
    rw [step, tick]
    exact nofun
  | openAdButtonTapped => exact never nofun rfl trivial
  | linkButtonTapped k =>
    obtain ⟨action, tapped⟩ := linkButtonTapped_ok os s.menu.globals k
    apply never _ rfl trivial
    rw [step, tapped]
    exact nofun

/-- Events are carried out to the end exactly when they can happen, stay inside the array and tap no
broken row. -/
theorem exec_iff_inside {es : List (Event URL Image)} : (∃ t, (system os).Exec s es t) ↔
    (system os).AllSteps (fun s e => Enabled s e ∧ Inside s e ∧ Loadable os s e) s es := by
  rw [EventSystem.exists_exec_iff]
  refine EventSystem.allSteps_congr (fun s e => and_congr_right fun _ => ?_) s es
  constructor
  · rintro ⟨t, ok⟩
    have noTrap (trap : Trap) : step os s e ≠ .error trap := by
      rw [show step os s e = .ok t from ok]
      exact nofun
    constructor
    · by_contra outside
      exact noTrap _ (step_error_iff.mpr (.inl ⟨outside, rfl⟩))
    · by_contra broken
      exact noTrap _ (step_error_iff.mpr (.inr ⟨broken, rfl⟩))
  · rintro ⟨inside, loadable⟩
    cases h : step os s e with
    | ok t => exact ⟨t, h⟩
    | error trap =>
      rcases step_error_iff.mp h with ⟨outside, _⟩ | ⟨broken, _⟩
      · exact absurd inside outside
      · exact absurd loadable broken

/-- In every sequence of events over any documents, no forced unwrap meets `nil` exactly when every
row that is tapped and presents a web view has an address for it. -/
theorem unwraps_iff_loadable (os : Platform URL) (clean : String → String) (image : Image)
    (es : List (Event URL Image)) :
    (system os).AllSteps (fun s e => step os s e ≠ .error .unexpectedNil) (launch clean image) es ↔
      (system os).AllSteps (Loadable os) (launch clean image) es := by
  refine EventSystem.allSteps_congr (fun s e => ?_) _ es
  rw [Ne, step_error_iff]
  simp

/-! ## Without an appearance of the menu -/

/-- The table may ask for the rows of the array only. -/
def Indexed (s : App URL Image) : Prop :=
  s.menu.Blank ∧ s.menu.InRange

theorem Indexed.inside (h : Indexed s) (enabled : Enabled s e) : Inside s e := by
  intro row hrow
  have asked : row < s.menu.tableView.rows := by
    cases e with
    | menu e => cases e <;> cases hrow <;> exact enabled
    | _ => cases hrow
  exact h.2 row asked

theorem Indexed.step {t : App URL Image} (h : Indexed s) (enabled : Enabled s e)
    (stays : e ≠ .menu .viewWillAppear) (step : App.step os s e = .ok t) : Indexed t := by
  cases e with
  | menu e =>
    have stepped := (step_menu step).1
    have covered : Menu.Covered s.menu e := by
      cases e with
      | viewWillAppear => exact absurd rfl stays
      | _ => trivial
    exact ⟨Menu.step_blank h.1 enabled stepped,
      (Menu.step_inRange_iff h.1 h.2 enabled stepped).mpr covered⟩
  | player e =>
    cases step
    exact h
  | _ =>
    rw [Indexed, (step_other step nofun nofun).1]
    exact h

/-- As long as the menu does not appear and take over a shorter array, events over any documents are
all carried out exactly when they can happen and every row that is tapped and presents a web view
has an address for it. -/
theorem exec_iff_loadable (os : Platform URL) (clean : String → String) (image : Image)
    {es : List (Event URL Image)} (stays : .menu .viewWillAppear ∉ es) :
    (∃ t, (system os).Exec (launch clean image) es t) ↔
      (system os).AllSteps (fun s e => Enabled s e ∧ Loadable os s e) (launch clean image) es := by
  rw [exec_iff_inside]
  constructor
  · exact .mono fun s e ⟨enabled, _, loadable⟩ => ⟨enabled, loadable⟩
  · intro loadable
    have others : ∀ e ∈ es, e ≠ .menu .viewWillAppear := by
      rintro e he rfl
      exact stays he
    have indexed := (loadable.and (EventSystem.allSteps_of_forall_mem _ others)).invariant
      (I := Indexed) ⟨fun _ => ⟨rfl, rfl⟩, fun _ h => absurd h (Nat.not_lt_zero _)⟩
      fun h ok step => h.step ok.1.1 ok.2 step
    exact indexed.mono fun s e ⟨h, ⟨enabled, loadable⟩, _⟩ =>
      ⟨enabled, h.inside enabled, loadable⟩

/-! ## A row that traps -/

/-- The row of a document without an address: a web page with an empty text. -/
def blankPage : Document :=
  ⟨"a", [("sort", .number 1), ("isRadio", .boolean false), ("name", .string "Page"),
    ("catagory", .string "url"), ("stream", .string "")]⟩

/-- A tap on that row unwraps `nil`. -/
theorem blank_page_traps :
    ¬ ∀ es : List (Event String Unit),
      (system .text).AllSteps (system .text).enabled (launch id ()) es →
        (system .text).AllSteps (fun s e => step .text s e ≠ .error .unexpectedNil)
          (launch id ()) es := by
  intro claim
  have run : (system .text).Exec (launch id () : App String Unit)
      [.menu .sideViewDidLoad, .menu (.sideSocialData (some [blankPage])), .menu .layoutTable] _ :=
    .cons rfl rfl <| .cons Nat.zero_lt_one rfl <| .cons rfl rfl (.nil _)
  have fine := claim _ (run.offered (e := Event.menu (Menu.Event.didSelectRowAt 0)) Nat.zero_lt_one)
  obtain ⟨unwrapped, _⟩ := ((fine.2 _ rfl).2 _ rfl).2 _ rfl
  exact unwrapped rfl

end App

end RockRadio
