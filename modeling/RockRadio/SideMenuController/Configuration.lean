import RockRadio.SideMenuController.Session

/-!
# The configuration after a session

The globals are written by the answers to both controllers' queries and by the rows the table
renders, the last writer winning. The addresses behind the seven names only come from the main
view's answers, which all list the same documents; the stream also comes from differently ordered
answers and from single rows.

## Main results

* `globals_unique_iff` — all sessions over a collection end with the same configuration exactly
  when the documents of the collection announce at most one stream.
-/

namespace RockRadio.Menu

variable {URL : Type} {os : Platform URL} {c : Collection} {s t : Menu URL} {e : Event URL}

/-- All documents that announce a stream announce the same one. -/
def OneStream (c : Collection) : Prop :=
  ∀ d ∈ c.getDocuments, ∀ d' ∈ c.getDocuments, ∀ url url',
    d.data.radioStream = some url → d'.data.radioStream = some url' → url = url'

/-- What an answer to the main view makes of the configuration the app starts with. -/
def settled (c : Collection) : Globals :=
  c.getDocuments.foldl (fun g d => g.readSocial d.data) {}

theorem radioURL_settled : (settled c).radioURL =
    Register.lastWrite (fun d : Document => d.data.radioStream) ({} : Globals).radioURL
      c.getDocuments :=
  radioURL_foldl _ Globals.radioURL_readSocial _ _

theorem get_settled (k : Link) : (settled c).get k =
    Register.lastWrite (fun d : Document => d.data.linkStream k) (({} : Globals).get k)
      c.getDocuments :=
  get_foldl_readSocial _ _ k

/-- With a single stream, every document that announces one announces the settled one. -/
theorem OneStream.eq_settled (one : OneStream c) {d : Document} (hd : d ∈ c.getDocuments)
    {url : String} (hurl : d.data.radioStream = some url) : url = (settled c).radioURL := by
  rw [radioURL_settled]
  refine (Register.lastWrite_eq_of_forall _ _ (fun d' hd' url' hurl' => ?_) ⟨d, hd, hurl⟩).symm
  exact one d' hd' d hd url' url hurl' hurl

/-- Reading any documents of the collection leaves the stream as it was, or settles it. -/
theorem OneStream.lastWrite (one : OneStream c) {documents : List Document}
    (mem : ∀ d ∈ documents, d ∈ c.getDocuments) (url : String) :
    Register.lastWrite (fun d : Document => d.data.radioStream) url documents = url ∨
      Register.lastWrite (fun d : Document => d.data.radioStream) url documents =
        (settled c).radioURL := by
  rw [Register.lastWrite_eq_written]
  cases h : Register.written (fun d : Document => d.data.radioStream) documents with
  | none => exact .inl rfl
  | some url' =>
    obtain ⟨d, hd, hurl⟩ := Register.written_mem _ h
    exact .inr (one.eq_settled (mem d hd) hurl)

/-- The main view got no answer yet. -/
def Unanswered (s : Menu URL) : Prop :=
  s.mainLoaded = true → s.adsFetches + s.mainFetches = 2

/-- Everything is settled, unless the main view got no answer; then the named addresses are those
the app starts with, and so is the stream if it is not settled. -/
structure Settling (c : Collection) (s : Menu URL) : Prop where
  links : (∀ k, s.globals.get k = (settled c).get k) ∨
    Unanswered s ∧ ∀ k, s.globals.get k = ({} : Globals).get k
  stream : s.globals.radioURL = (settled c).radioURL ∨
    Unanswered s ∧ s.globals.radioURL = ({} : Globals).radioURL

theorem settling_launch : Settling c (launch : Menu URL) :=
  ⟨.inr ⟨nofun, fun _ => rfl⟩, .inr ⟨nofun, rfl⟩⟩

/-- An event that keeps the named addresses, and the stream or settles it. -/
theorem Settling.mono (h : Settling c s) (waiting : Unanswered s → Unanswered t)
    (links : ∀ k, t.globals.get k = s.globals.get k)
    (stream : t.globals.radioURL = s.globals.radioURL ∨
      t.globals.radioURL = (settled c).radioURL) : Settling c t := by
  constructor
  · rcases h.links with done | ⟨unanswered, initial⟩
    · exact .inl fun k => (links k).trans (done k)
    · exact .inr ⟨waiting unanswered, fun k => (links k).trans (initial k)⟩
  · rcases stream with same | done
    · rw [same]
      exact h.stream.imp_right fun ⟨unanswered, initial⟩ => ⟨waiting unanswered, initial⟩
    · exact .inl done

/-- An answer to the main view settles everything. -/
theorem Settling.mainSocialData (h : Settling c s) :
    (s.mainSocialData (some c.getDocuments)).globals = settled c := by
  apply Globals.ext_get
  · refine (radioURL_foldl _ Globals.radioURL_readSocial s.globals c.getDocuments).trans ?_
    rw [radioURL_settled]
    rcases h.stream with done | ⟨_, initial⟩
    · rw [done, radioURL_settled, Register.lastWrite_lastWrite]
    · rw [initial]
  · intro k
    refine (get_foldl_readSocial s.globals c.getDocuments k).trans ?_
    rw [get_settled]
    rcases h.links with done | ⟨_, initial⟩
    · rw [done k, get_settled, Register.lastWrite_lastWrite]
    · rw [initial k]

/-- With a single stream, every event of a session leaves things settled. -/
theorem Settling.step (one : OneStream c) (inSession : InSession c s) (h : Settling c s)
    (enabled : Enabled s e) (served : Served c e) (step : step os s e = .ok t) :
    Settling c t := by
  cases e with
  | mainViewDidLoad =>
    cases step
    obtain ⟨n, _, before, _⟩ := inSession.main
    have zero := before enabled
    exact h.mono (fun _ _ => by simp only [mainViewDidLoad]; omega) (fun _ => rfl) (.inl rfl)
  | adsData answer =>
    obtain ⟨documents, rfl⟩ := Option.isSome_iff_exists.mp served
    cases step
    have pending : 0 < s.adsFetches := enabled
    refine h.mono ?_ (fun _ => rfl) (.inl rfl)
    intro unanswered loaded
    have := unanswered loaded
    simp only [Menu.adsData]
    omega
  | mainSocialData answer =>
    obtain rfl : answer = some c.getDocuments := served
    cases step
    exact ⟨.inl fun k => by rw [h.mainSocialData], .inl (by rw [h.mainSocialData])⟩
  | sideSocialData answer =>
    obtain rfl : answer = some (c.orderedBy "sort") := served
    cases step
    refine h.mono id (fun k => get_foldl_readRadio s.globals _ k) ?_
    have stream := radioURL_foldl _ Globals.radioURL_readRadio s.globals (c.orderedBy "sort")
    simp only [sideSocialData, stream]
    exact one.lastWrite (fun d hd => (Collection.mem_orderedBy.mp hd).1) _
  | cellForRowAt row dequeued =>
    obtain ⟨document, hd, rfl⟩ := cellForRowAt_ok step
    refine h.mono id (fun k => Globals.get_readRadio s.globals _ k) ?_
    simp only [showCell, Globals.radioURL_readRadio]
    cases hurl : document.data.radioStream with
    | none => exact .inl rfl
    | some url =>
      have mem := inSession.side document (List.mem_of_getElem? hd)
      exact .inr (one.eq_settled mem hurl)
  | layoutTable =>
    cases step
    simp only [layoutTable]
    split <;> exact h.mono id (fun _ => rfl) (.inl rfl)
  | didSelectRowAt row =>
    obtain rfl := step_didSelectRowAt step
    exact h
  | _ => cases step; exact h.mono id (fun _ => rfl) (.inl rfl)

/-- With a single stream, every session ends with the settled configuration. -/
theorem globals_of_complete (one : OneStream c) {es : List (Event URL)}
    (run : (session os c).Exec launch es s) (complete : Complete s) : s.globals = settled c := by
  have kept : InSession c s ∧ Settling c s := by
    refine run.invariant' (I := fun s => InSession c s ∧ Settling c s)
      ⟨inSession_launch, settling_launch⟩ ?_
    rintro s e t ⟨inSession, settling⟩ enabled step
    exact ⟨inSession.step enabled.1 enabled.2 step,
      settling.step one inSession enabled.1 enabled.2 step⟩
  have answered : ¬ Unanswered s := by
    intro unanswered
    have := unanswered complete.mainLoaded
    have := complete.ads
    have := complete.main
    omega
  apply Globals.ext_get
  · exact kept.2.stream.resolve_right fun h => answered h.1
  · intro k
    exact kept.2.links.resolve_right (fun h => answered h.1) k

/-- A session can be completed with the whole collection on top of the table: the side menu appears
after the first answer to the main view. -/
theorem exists_session_with_rows (os : Platform URL) (c : Collection) :
    ∃ (es : List (Event URL)) (s : Menu URL),
      (session os c).Exec launch es s ∧ Complete s ∧
        s.sideSocialArray = c.getDocuments ++ c.orderedBy "sort" ∧
        s.tableView.rows = s.sideSocialArray.length :=
  ⟨[.sideViewDidLoad, .mainViewDidLoad, .mainSocialData (some c.getDocuments), .viewWillAppear,
      .adsData (some []), .mainSocialData (some c.getDocuments),
      .sideSocialData (some (c.orderedBy "sort")), .layoutTable], _,
    .cons ⟨rfl, trivial⟩ rfl <| .cons ⟨rfl, trivial⟩ rfl <| .cons ⟨Nat.zero_lt_one, rfl⟩ rfl <|
      .cons ⟨rfl, trivial⟩ rfl <| .cons ⟨Nat.zero_lt_one, rfl⟩ rfl <|
      .cons ⟨Nat.zero_lt_one, rfl⟩ rfl <| .cons ⟨Nat.zero_lt_one, rfl⟩ rfl <|
      .cons ⟨rfl, trivial⟩ rfl (.nil _),
    ⟨rfl, rfl, rfl, rfl, rfl⟩, rfl, rfl⟩

/-- Any document of the collection that announces a stream can be the one whose row is rendered
last. -/
theorem exists_session_ending_with (os : Platform URL) {d : Document} (hd : d ∈ c.getDocuments)
    {url : String} (hurl : d.data.radioStream = some url) :
    ∃ (es : List (Event URL)) (s : Menu URL),
      (session os c).Exec launch es s ∧ Complete s ∧ s.globals.radioURL = url := by
  obtain ⟨es, s, run, complete, array, rows⟩ := exists_session_with_rows os c
  obtain ⟨row, inside, hrow⟩ := List.getElem_of_mem hd
  have shown : s.sideSocialArray[row]? = some d := by
    rw [array, List.getElem?_append_left inside, List.getElem?_eq_getElem inside, hrow]
  have within : row < s.tableView.rows := by
    rw [rows, array, List.length_append]
    omega
  have enabled : (session os c).enabled s (.cellForRowAt row {}) := ⟨within, trivial⟩
  have step : (session os c).step s (.cellForRowAt row {}) = .ok (s.showCell os row d {}) :=
    cellForRowAt_of_getElem? shown {}
  refine ⟨_, s.showCell os row d {}, run.snoc enabled step, { complete with }, ?_⟩
  simp [showCell, hurl]

/-- All complete sessions over a collection end with the same configuration exactly when its
documents announce at most one stream. -/
theorem globals_unique_iff (os : Platform URL) (c : Collection) :
    (∀ (es es' : List (Event URL)) (s s' : Menu URL),
      (session os c).Exec launch es s → Complete s →
      (session os c).Exec launch es' s' → Complete s' → s.globals = s'.globals) ↔
        OneStream c := by
  constructor
  · intro unique d hd d' hd' url url' hurl hurl'
    obtain ⟨es, s, run, complete, rfl⟩ := exists_session_ending_with os hd hurl
    obtain ⟨es', s', run', complete', rfl⟩ := exists_session_ending_with os hd' hurl'
    rw [unique es es' s s' run complete run' complete']
  · intro one es es' s s' run complete run' complete'
    rw [globals_of_complete one run complete, globals_of_complete one run' complete']

/-- Two stations in the collection. -/
def rivals : Collection := ⟨[sampleStation "a" "x", sampleStation "b" "y"], by decide⟩

/-- Which of the two streams is configured depends on the row rendered last. -/
theorem rivals_configured_differently :
    ¬ ∀ (c : Collection) (es es' : List (Event String)) (s s' : Menu String),
      (session .text c).Exec launch es s → Complete s →
      (session .text c).Exec launch es' s' → Complete s' → s.globals = s'.globals := by
  intro claim
  obtain ⟨es, s, run, complete, x⟩ := exists_session_ending_with (c := rivals) .text
    (d := sampleStation "a" "x") (by decide) rfl
  obtain ⟨es', s', run', complete', y⟩ := exists_session_ending_with (c := rivals) .text
    (d := sampleStation "b" "y") (by decide) rfl
  rw [claim rivals es es' s s' run complete run' complete', y] at x
  exact absurd x (by decide)

end RockRadio.Menu
