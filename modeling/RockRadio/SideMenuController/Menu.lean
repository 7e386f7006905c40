import RockRadio.Library.EventSystem
import RockRadio.SideMenuController.Rows

/-!
# The side menu and the arrays behind it

Three arrays hold the 'social' documents: one in the app delegate, one in `MainViewController` and
one in `SideMenuController`. Each of the two controllers appends the documents it fetches to its
own array and publishes that array by assigning it to the app delegate's; the side menu copies it
back when it is loaded and whenever it appears. The table reads the side menu's array row by row,
at times of its own choosing.

The events are those of these two controllers, of the queries they issued, and of the table. They
run one at a time on the main queue.
-/

namespace RockRadio

variable {URL : Type}

/-- A cell on screen, with its row and the document it was rendered from. -/
structure ShownCell (URL : Type) where
  row : ℕ
  document : Document
  cell : SideMenuTableViewCell URL

/-- The table asks for cells of rows below the last answer of `numberOfRowsInSection`, and asks
for that number again only after `reloadData`. -/
structure UITableView (URL : Type) where
  rows : ℕ := 0
  needsReload : Bool := false
  cells : List (ShownCell URL) := []

/-- `reloadData`; the table turns to it at its next layout. -/
def UITableView.reloadData (table : UITableView URL) : UITableView URL :=
  { table with needsReload := true }

structure Menu (URL : Type) where
  globals : Globals := {}
  /-- `AppDelegate.socialArray` -/
  appSocialArray : List Document := []
  /-- `MainViewController.socialArray` -/
  mainSocialArray : List Document := []
  /-- `SideMenuController.socialArray` -/
  sideSocialArray : List Document := []
  tableView : UITableView URL := {}
  mainLoaded : Bool := false
  sideLoaded : Bool := false
  /-- The queries for 'ads' that were not answered yet. -/
  adsFetches : ℕ := 0
  /-- The queries for 'social' that `MainViewController` is waiting for. -/
  mainFetches : ℕ := 0
  /-- The queries for 'social' that `SideMenuController` is waiting for. -/
  sideFetches : ℕ := 0

namespace Menu

/-- An answer to a query: the documents of the snapshot, or an error. -/
abbrev Answer := Option (List Document)

variable (os : Platform URL) (s : Menu URL)

/-- The two queries that `MainViewController.viewDidLoad` issues. -/
def mainViewDidLoad : Menu URL :=
  { s with mainLoaded := true, adsFetches := s.adsFetches + 1, mainFetches := s.mainFetches + 1 }

/-- The handler in `adsData`, which issues another query for 'social'. -/
def adsData : Answer → Menu URL
  | none => { s with adsFetches := s.adsFetches - 1 }
  | some _ => { s with adsFetches := s.adsFetches - 1, mainFetches := s.mainFetches + 1 }

/-- The handler in `MainViewController.socialData`. -/
def mainSocialData : Answer → Menu URL
  | none => { s with mainFetches := s.mainFetches - 1 }
  | some documents =>
    { s with
      globals := documents.foldl (fun g d => g.readSocial d.data) s.globals
      mainSocialArray := s.mainSocialArray ++ documents
      appSocialArray := s.mainSocialArray ++ documents
      mainFetches := s.mainFetches - 1 }

/-- `SideMenuController.viewDidLoad` -/
def sideViewDidLoad : Menu URL :=
  { s with
    sideLoaded := true, sideSocialArray := s.appSocialArray, sideFetches := s.sideFetches + 1
    tableView := s.tableView.reloadData }

def viewWillAppear : Menu URL := { s with sideSocialArray := s.appSocialArray }

/-- The handler in `SideMenuController.socialData`. -/
def sideSocialData : Answer → Menu URL
  | none => { s with sideFetches := s.sideFetches - 1 }
  | some documents =>
    { s with
      globals := documents.foldl (fun g d => g.readRadio d.data) s.globals
      sideSocialArray := s.sideSocialArray ++ documents
      appSocialArray := s.sideSocialArray ++ documents
      sideFetches := s.sideFetches - 1
      tableView := s.tableView.reloadData }

def numberOfRowsInSection : ℕ := s.sideSocialArray.length

/-- A layout of the table after `reloadData`: all cells go, and the rows are counted again. -/
def layoutTable : Menu URL :=
  if s.tableView.needsReload then { s with tableView.rows := s.numberOfRowsInSection
                                           tableView.needsReload := false, tableView.cells := [] }
  else s

/-- The cell of the row, rendered from its document, takes the place of any other cell there. -/
def showCell (row : ℕ) (document : Document) (dequeued : SideMenuTableViewCell URL) : Menu URL :=
  let cell := ⟨row, document, dequeued.render os document.data⟩
  { s with
    globals := s.globals.readRadio document.data
    tableView.cells := cell :: s.tableView.cells.filter (·.row ≠ row) }

/-- `cellForRowAt`, with the cell that the table had for reuse or a new one. -/
def cellForRowAt (row : ℕ) (dequeued : SideMenuTableViewCell URL) : Except Trap (Menu URL) := do
  let document ← subscript s.sideSocialArray row
  return s.showCell os row document dequeued

/-- A row scrolls out of sight. -/
def didEndDisplaying (row : ℕ) : Menu URL :=
  { s with tableView.cells := s.tableView.cells.filter (·.row ≠ row) }

/-- `didSelectRowAt`: the action asked for; nothing else changes. -/
def selectRow (row : ℕ) : Except Trap (Option (Action URL)) := do
  let document ← subscript s.sideSocialArray row
  didSelectRowAt os document.data

inductive Event (URL : Type) where
  | mainViewDidLoad
  | adsData (answer : Answer)
  | mainSocialData (answer : Answer)
  | sideViewDidLoad
  | viewWillAppear
  | sideSocialData (answer : Answer)
  | layoutTable
  | cellForRowAt (row : ℕ) (dequeued : SideMenuTableViewCell URL)
  | didEndDisplaying (row : ℕ)
  | didSelectRowAt (row : ℕ)

/-- A controller is loaded once, and before it appears; a query is answered once; the table asks
for rows it knows of. -/
def Enabled : Event URL → Prop
  | .mainViewDidLoad => s.mainLoaded = false
  | .adsData _ => 0 < s.adsFetches
  | .mainSocialData _ => 0 < s.mainFetches
  | .sideViewDidLoad => s.sideLoaded = false
  | .viewWillAppear => s.sideLoaded = true
  | .sideSocialData _ => 0 < s.sideFetches
  | .layoutTable => s.sideLoaded = true
  | .cellForRowAt row _ => row < s.tableView.rows
  | .didEndDisplaying _ => True
  | .didSelectRowAt row => row < s.tableView.rows

instance (e : Event URL) : Decidable (Enabled s e) := by
  cases e <;> unfold Enabled <;> infer_instance

def step : Event URL → Except Trap (Menu URL)
  | .mainViewDidLoad => .ok s.mainViewDidLoad
  | .adsData answer => .ok (s.adsData answer)
  | .mainSocialData answer => .ok (s.mainSocialData answer)
  | .sideViewDidLoad => .ok s.sideViewDidLoad
  | .viewWillAppear => .ok s.viewWillAppear
  | .sideSocialData answer => .ok (s.sideSocialData answer)
  | .layoutTable => .ok s.layoutTable
  | .cellForRowAt row dequeued => s.cellForRowAt os row dequeued
  | .didEndDisplaying row => .ok (s.didEndDisplaying row)
  | .didSelectRowAt row => do
    let _ ← s.selectRow os row
    return s

def system : EventSystem (Menu URL) (Event URL) Trap where
  enabled := Enabled
  step := step os

instance (e : Event URL) : Decidable ((system os).enabled s e) :=
  inferInstanceAs (Decidable (Enabled s e))

/-- The menu before anything is loaded. -/
def launch : Menu URL := {}

/-- Documents for concrete runs. -/
def sample (id : String) (sort : ℚ) : Document := ⟨id, [("sort", .number sort)]⟩

def sampleStation (id stream : String) : Document :=
  ⟨id, [("isRadio", .boolean true), ("stream", .string stream)]⟩

/-! ## Sessions -/

/-- The queries are answered from one collection, each in its own order, and none fails. -/
def Served (c : Collection) : Event URL → Prop
  | .adsData answer => answer.isSome = true
  | .mainSocialData answer => answer = some c.getDocuments
  | .sideSocialData answer => answer = some (c.orderedBy "sort")
  | _ => True

instance (c : Collection) (e : Event URL) : Decidable (Served c e) := by
  cases e <;> unfold Served <;> infer_instance

/-- The menu while the collection does not change. -/
def session (c : Collection) : EventSystem (Menu URL) (Event URL) Trap :=
  (system os).restrict (Served c)

variable {os} {s} {t : Menu URL} {row : ℕ}

theorem cellForRowAt_ok {dequeued : SideMenuTableViewCell URL}
    (h : s.cellForRowAt os row dequeued = .ok t) :
    ∃ document, s.sideSocialArray[row]? = some document ∧
      t = s.showCell os row document dequeued := by
  obtain ⟨document, hd, rendered⟩ := bind_eq_ok_iff.mp h
  cases rendered
  exact ⟨document, subscript_eq_ok_iff.mp hd, rfl⟩

theorem cellForRowAt_of_getElem? {document : Document}
    (h : s.sideSocialArray[row]? = some document) (dequeued : SideMenuTableViewCell URL) :
    s.cellForRowAt os row dequeued = .ok (s.showCell os row document dequeued) :=
  bind_eq_ok_iff.mpr ⟨document, subscript_eq_ok_iff.mpr h, rfl⟩

theorem step_didSelectRowAt (h : step os s (.didSelectRowAt row) = .ok t) : t = s := by
  obtain ⟨action, _, selected⟩ := bind_eq_ok_iff.mp h
  cases selected
  rfl

/-- A view that is loaded stays loaded. -/
theorem mainLoaded_step {e : Event URL} (h : step os s e = .ok t)
    (unloaded : t.mainLoaded = false) : s.mainLoaded = false := by
  cases e with
  | mainViewDidLoad => cases h; cases unloaded
  | adsData answer => cases answer <;> cases h <;> exact unloaded
  | mainSocialData answer => cases answer <;> cases h <;> exact unloaded
  | sideSocialData answer => cases answer <;> cases h <;> exact unloaded
  | layoutTable =>
    cases h
    simp only [layoutTable] at unloaded
    split at unloaded <;> exact unloaded
  | cellForRowAt row dequeued =>
    obtain ⟨document, _, rfl⟩ := cellForRowAt_ok h
    exact unloaded
  | didSelectRowAt row => exact step_didSelectRowAt h ▸ unloaded
  | _ => cases h; exact unloaded

/-- An event of the main view alone. -/
def Event.OfMain : Event URL → Prop
  | .mainViewDidLoad | .adsData _ | .mainSocialData _ => True
  | _ => False

/-- What the main view does is nothing to the side menu: neither to its array nor to its table. -/
theorem step_ofMain {e : Event URL} (main : e.OfMain) (h : step os s e = .ok t) :
    t.sideLoaded = s.sideLoaded ∧ t.sideSocialArray = s.sideSocialArray ∧
      t.tableView = s.tableView := by
  cases e with
  | mainViewDidLoad => cases h; exact ⟨rfl, rfl, rfl⟩
  | adsData answer => cases answer <;> cases h <;> exact ⟨rfl, rfl, rfl⟩
  | mainSocialData answer => cases answer <;> cases h <;> exact ⟨rfl, rfl, rfl⟩
  | _ => exact main.elim

/-- An event of the table alone. -/
def Event.OfTable : Event URL → Prop
  | .layoutTable | .cellForRowAt .. | .didEndDisplaying _ | .didSelectRowAt _ => True
  | _ => False

/-- Such an event changes the table and, where a row is rendered, the configuration. -/
theorem step_ofTable {e : Event URL} (table : e.OfTable) (h : step os s e = .ok t) :
    ∃ globals tableView, t = { s with globals, tableView } := by
  cases e with
  | layoutTable =>
    cases h
    simp only [Menu.layoutTable]
    split <;> exact ⟨_, _, rfl⟩
  | cellForRowAt row dequeued =>
    obtain ⟨document, _, rfl⟩ := cellForRowAt_ok h
    exact ⟨_, _, rfl⟩
  | didEndDisplaying row => cases h; exact ⟨_, _, rfl⟩
  | didSelectRowAt row => exact ⟨_, _, step_didSelectRowAt h⟩
  | _ => exact table.elim

end Menu

end RockRadio
