import RockRadio.SideMenuController.Rows

/-!
# The cell and the tap

The cell of a row and the tap on it decode the same untyped document, each with casts of its own,
and the cell is one that other documents may have been shown in before. Which text a row gets is
`Fields.title`; which address the category of a row makes of its stream is `address`.

## Main results

* `classified_iff_matched` — the title and the tap fit each other, and no row with a usable stream
  is dead, exactly when the document has what both decodings look for.
* `render_unique_iff` — what a cell shows does not depend on what it showed before exactly when the
  document sets the title and the image.
-/

namespace RockRadio

variable {URL : Type} (os : Platform URL)

/-! ## The title of a row -/

/-- Where the text of a row comes from. -/
inductive Title where
  | nowPlaying
  | name (name : String)
  deriving DecidableEq

def Title.text : Title → String
  | .nowPlaying => "Now Playing"
  | .name text => text

/-- The title that a document gives its row, if it gives one. -/
def Fields.title (data : Fields) : Option Title :=
  match data.bool "isRadio" with
  | some true => (data.string "stream").map fun _ => .nowPlaying
  | some false | none => (data.string "name").map .name

/-- The image that a document asks for, if it asks for one. -/
def Fields.image (data : Fields) : Option (Option URL) :=
  match data.bool "isRadio" with
  | some _ => (data.string "image").map os.url
  | none => none

/-- Rendering assigns the title and the image of the document, and keeps what there is where the
document has none. -/
theorem SideMenuTableViewCell.render_eq (data : Fields) (cell : SideMenuTableViewCell URL) :
    cell.render os data =
      ⟨(data.title.map Title.text).getD cell.titleLabel, (data.image os).or cell.socialImage⟩ := by
  unfold render Fields.title Fields.image
  cases data.bool "isRadio" with
  | none =>
    simp only [setName]
    cases data.string "name" <;> rfl
  | some isRadio =>
    cases isRadio with
    | true =>
      simp only [setImage]
      cases data.string "stream" <;> cases data.string "image" <;> rfl
    | false =>
      simp only [setImage, setName]
      cases data.string "name" <;> cases data.string "image" <;> rfl

/-! ## The stream of a row -/

/-- The address that a category makes of a stream, where the device accepts it. A row without a
category has the stream itself for an address. -/
def address (catagory : Option String) (stream : String) : Option URL :=
  match catagory with
  | some "call" => openable os (os.url ("tel://" ++ stream))
  | some "whatsapp" =>
    (addingPercentEncoding urlQueryAllowed ("https://api.whatsapp.com/send?phone=" ++ stream)).bind
      fun urlString => openable os (os.url urlString)
  | some "email" => (createEmailUrl os stream "" "").toOption.join
  | _ => os.url stream

/-- A row has a stream of which its category makes an address. -/
def Fields.Usable (data : Fields) (stream : String) : Prop :=
  data.string "stream" = some stream ∧ (address os (data.string "catagory") stream).isSome = true

/-- The action is about the stream: it shows or opens the address, or composes a mail to it. -/
inductive ActsOn (catagory : Option String) (stream : String) : Action URL → Prop where
  | present {url : URL} : address os catagory stream = some url →
      ActsOn catagory stream (.present (some url))
  | openURL {url : URL} : address os catagory stream = some url →
      ActsOn catagory stream (.openURL url)
  | composeMail : catagory = some "email" → ActsOn catagory stream (.composeMail stream "" "")

/-- The two methods classify the document alike. A row titled by its name acts on its stream if it
is usable, a row titled 'Now Playing' hides the menu, and a usable stream makes no dead row. -/
structure Fields.Classified (data : Fields) : Prop where
  name : ∀ name stream, data.title = some (.name name) → data.Usable os stream →
    ∃ action, didSelectRowAt os data = .ok (some action) ∧
      ActsOn os (data.string "catagory") stream action
  nowPlaying : data.title = some .nowPlaying → didSelectRowAt os data = .ok (some .hideLeftView)
  alive : ∀ stream, data.Usable os stream → didSelectRowAt os data ≠ .ok none

/-- What both methods look for in a document with this stream: whether it is the radio and, if it
is not, the category of a named row; a row without a name opens the stream itself. -/
def Fields.Matched (data : Fields) (stream : String) : Prop :=
  (data.bool "isRadio").isSome = true ∧
    (data.bool "isRadio" = some false →
      if (data.string "name").isSome then (data.string "catagory").isSome = true
      else (os.url stream).isSome = true)

variable {os}

theorem dialNumber_eq (stream : String) :
    dialNumber os stream = (address os (some "call") stream).map .openURL := rfl

theorem openWhatsApp_eq (stream : String) :
    openWhatsApp os stream = (address os (some "whatsapp") stream).map .openURL := rfl

/-- Any other category has the stream itself for an address. -/
theorem address_of_other {catagory stream : String} (notCall : catagory ≠ "call")
    (notWhatsApp : catagory ≠ "whatsapp") (notEmail : catagory ≠ "email") :
    address os (some catagory) stream = os.url stream := by
  unfold address
  split
  · exact absurd (Option.some.inj ‹_›) notCall
  · exact absurd (Option.some.inj ‹_›) notWhatsApp
  · exact absurd (Option.some.inj ‹_›) notEmail
  · rfl

theorem presentWebView_of_url {urlString : String} {url : URL} (h : os.url urlString = some url) :
    presentWebView os urlString = .ok (some (.present (some url))) := by
  simp only [presentWebView, WebViewController.viewDidLoad, h]
  rfl

/-- Mail is composed in the app, or handed to the address that was created. -/
theorem emailUS_acts {stream : String} {url : URL}
    (h : address os (some "email") stream = some url) :
    ∃ action, emailUS os stream = .ok (some action) ∧ ActsOn os (some "email") stream action := by
  by_cases mail : os.canSendMail = true
  · exact ⟨_, by simp only [emailUS, mail, if_true], .composeMail rfl⟩
  · refine ⟨.openURL url, ?_, .openURL h⟩
    obtain ⟨emailUrl, created⟩ := createEmailUrl_ok os stream "" ""
    simp only [address, created, Except.toOption, Option.join_some] at h
    simp only [emailUS, mail, created, h]
    rfl

/-- A category acts on the address it makes of the stream. -/
theorem switchCatagory_acts {catagory stream : String} {url : URL}
    (h : address os (some catagory) stream = some url) :
    ∃ action, switchCatagory os catagory stream = .ok (some action) ∧
      ActsOn os (some catagory) stream action := by
  unfold switchCatagory
  split
  · exact ⟨.openURL url, by rw [dialNumber_eq, h]; rfl, .openURL h⟩
  · exact ⟨.openURL url, by rw [openWhatsApp_eq, h]; rfl, .openURL h⟩
  · exact emailUS_acts h
  · rename_i notCall notWhatsApp notEmail
    have page := (address_of_other notCall notWhatsApp notEmail).symm.trans h
    exact ⟨.present (some url), presentWebView_of_url page, .present h⟩

/-- A row with a usable stream answers a tap exactly when it has what the tap looks for. -/
theorem alive_iff_matched {data : Fields} {stream : String} (usable : data.Usable os stream) :
    didSelectRowAt os data ≠ .ok none ↔ data.Matched os stream := by
  obtain ⟨hStream, hAddress⟩ := usable
  simp only [didSelectRowAt, Fields.Matched, hStream]
  cases data.bool "isRadio" with
  | none => simp
  | some isRadio =>
    cases isRadio with
    | true => simp
    | false =>
      cases data.string "name" with
      | none => cases hUrl : os.url stream <;> simp [openScheme, hUrl]
      | some name =>
        cases hCatagory : data.string "catagory" with
        | none => simp
        | some catagory =>
          rw [hCatagory] at hAddress
          obtain ⟨url, hUrl⟩ := Option.isSome_iff_exists.mp hAddress
          obtain ⟨action, acts, _⟩ := switchCatagory_acts hUrl
          simp [acts]

/-- A row titled by its name acts on a usable stream once it has what the tap looks for. -/
theorem didSelectRowAt_acts {data : Fields} {name stream : String}
    (hTitle : data.title = some (.name name)) (usable : data.Usable os stream)
    (matched : data.Matched os stream) :
    ∃ action, didSelectRowAt os data = .ok (some action) ∧
      ActsOn os (data.string "catagory") stream action := by
  obtain ⟨hStream, hAddress⟩ := usable
  obtain ⟨isBool, hCatagory⟩ := matched
  obtain ⟨isRadio, hRadio⟩ := Option.isSome_iff_exists.mp isBool
  cases isRadio with
  | true => simp [Fields.title, hRadio] at hTitle
  | false =>
    simp only [Fields.title, hRadio, Option.map_eq_some_iff] at hTitle
    obtain ⟨_, hName, _⟩ := hTitle
    simp only [hRadio, hName, Option.isSome_some, if_true, forall_const] at hCatagory
    obtain ⟨catagory, hCatagory⟩ := Option.isSome_iff_exists.mp hCatagory
    rw [hCatagory] at hAddress ⊢
    obtain ⟨url, hUrl⟩ := Option.isSome_iff_exists.mp hAddress
    simp only [didSelectRowAt, hRadio, hName, hCatagory, hStream]
    exact switchCatagory_acts hUrl

/-- Only the radio is titled 'Now Playing'. -/
theorem didSelectRowAt_nowPlaying {data : Fields} (hTitle : data.title = some .nowPlaying) :
    didSelectRowAt os data = .ok (some .hideLeftView) := by
  unfold Fields.title at hTitle
  unfold didSelectRowAt
  cases hRadio : data.bool "isRadio" with
  | none => simp [hRadio] at hTitle
  | some isRadio =>
    cases isRadio with
    | true => rfl
    | false => simp [hRadio] at hTitle

/-- For every document, the title and the tap classify it alike exactly when any usable stream it
has comes with what both look for. -/
theorem classified_iff_matched (os : Platform URL) (data : Fields) :
    data.Classified os ↔ ∀ stream, data.Usable os stream → data.Matched os stream := by
  constructor
  · rintro ⟨_, _, alive⟩ stream usable
    exact (alive_iff_matched usable).mp (alive stream usable)
  · intro matched
    refine ⟨?_, didSelectRowAt_nowPlaying, ?_⟩
    · intro name stream hTitle usable
      exact didSelectRowAt_acts hTitle usable (matched stream usable)
    · intro stream usable
      exact (alive_iff_matched usable).mpr (matched stream usable)

/-- A page that does not say whether it is the radio has its name for a title and ignores taps. -/
theorem unclassified_page :
    ¬ ∀ data : Fields, data.Classified .text := by
  intro claim
  have page := claim
    [("name", .string "Page"), ("catagory", .string "url"), ("stream", .string "a")]
  exact page.alive "a" ⟨rfl, rfl⟩ rfl

/-! ## Cells that are used again -/

/-- A cell of the table between two calls of `cellForRowAt`: as the nib has it, or as any documents
left it. -/
inductive Reused (os : Platform URL) : SideMenuTableViewCell URL → Prop where
  | nib : Reused os {}
  | render {cell : SideMenuTableViewCell URL} (data : Fields) :
      Reused os cell → Reused os (cell.render os data)

/-- Rendering the document assigns both the title and the image. -/
def Fields.Overwrites (data : Fields) : Prop :=
  data.title.isSome = true ∧ (data.bool "isRadio").isSome = true ∧
    (data.string "image").isSome = true

theorem image_isSome_iff (os : Platform URL) (data : Fields) : (data.image os).isSome = true ↔
    (data.bool "isRadio").isSome = true ∧ (data.string "image").isSome = true := by
  unfold Fields.image
  cases data.bool "isRadio" <;> simp

/-- What a document leaves in a cell depends on nothing else exactly when it assigns both the title
and the image. -/
theorem render_unique_iff (os : Platform URL) (data : Fields) :
    (∀ cell cell', Reused os cell → Reused os cell' →
      cell.render os data = cell'.render os data) ↔ data.Overwrites := by
  rw [Fields.Overwrites, ← image_isSome_iff os]
  simp only [SideMenuTableViewCell.render_eq]
  constructor
  · intro same
    -- a cell fresh from the nib, and one that showed another row
    let row : Fields := [("isRadio", .boolean false), ("name", .string ""), ("image", .string "")]
    have left : ({} : SideMenuTableViewCell URL).render os row = ⟨"", some (os.url "")⟩ := rfl
    have shown := same {} _ .nib (.render row .nib)
    rw [left, SideMenuTableViewCell.mk.injEq] at shown
    constructor
    · cases hTitle : data.title with
      | none => simp [hTitle] at shown
      | some title => rfl
    · cases hImage : data.image os with
      | none => simp [hImage] at shown
      | some image => rfl
  · rintro ⟨hTitle, hImage⟩ cell cell' _ _
    obtain ⟨title, hTitle⟩ := Option.isSome_iff_exists.mp hTitle
    obtain ⟨image, hImage⟩ := Option.isSome_iff_exists.mp hImage
    simp [hTitle, hImage]

/-- A row without an image shows the one of the row that had the cell before. -/
theorem stale_image :
    ¬ ∀ (data : Fields) (cell cell' : SideMenuTableViewCell String), Reused .text cell →
      Reused .text cell' → cell.render .text data = cell'.render .text data := by
  intro claim
  have same := claim [("isRadio", .boolean false), ("name", .string "Page")] _ _ .nib
    (.render [("isRadio", .boolean false), ("image", .string "a")] .nib)
  cases congrArg SideMenuTableViewCell.socialImage same

end RockRadio
