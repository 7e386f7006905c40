import RockRadio.AppConstants
import RockRadio.Platform

/-!
# The rows of the side menu

What a document puts into the cell of its row, and what a tap on the row does. Both decode the
untyped document with casts, nested in different ways. A tap may present a `WebViewController`,
which unwraps the address it is given.

## Main results

* `didSelectRowAt_error_iff` — a tap traps exactly when the row presents a web view on a text that
  is no address.
-/

namespace RockRadio

variable {URL : Type}

/-! ## The cell of a row -/

/-- A cell keeps its label and its image until they are assigned. The nib's label has a text. -/
structure SideMenuTableViewCell (URL : Type) where
  titleLabel : String := "Now Playing"
  /-- The argument of the last `sd_setImage`. -/
  socialImage : Option (Option URL) := none
  deriving DecidableEq

namespace SideMenuTableViewCell

variable (os : Platform URL) (data : Fields) (cell : SideMenuTableViewCell URL)

/-- `if let name = data["name"] as? String { cell.titleLabel.text = name }` -/
def setName : SideMenuTableViewCell URL :=
  match data.string "name" with
  | some name => { cell with titleLabel := name }
  | none => cell

/-- `if let imageURL = data["image"] as? String { cell.socialImage.sd_setImage(…) }` -/
def setImage : SideMenuTableViewCell URL :=
  match data.string "image" with
  | some imageURL => { cell with socialImage := some (os.url imageURL) }
  | none => cell

/-- What `cellForRowAt` makes of the cell it dequeued. -/
def render : SideMenuTableViewCell URL :=
  match data.bool "isRadio" with
  | some true =>
    let cell :=
      match data.string "stream" with
      | some _ => { cell with titleLabel := "Now Playing" }
      | none => cell
    cell.setImage os data
  | some false => (cell.setName data).setImage os data
  | none => cell.setName data

end SideMenuTableViewCell

/-! ## What a tap does -/

/-- What the app asks of the system in answer to a tap. -/
inductive Action (URL : Type) where
  | hideLeftView
  /-- a web view, on the page it loads -/
  | present (page : Option URL)
  | openURL (url : URL)
  | composeMail (recipient subject messageBody : String)
  deriving DecidableEq

structure WebViewController where
  isAbout : Bool := false
  urlString : String := ""

/-- The page to load; the text about the station needs none. -/
def WebViewController.viewDidLoad (os : Platform URL) (controller : WebViewController) :
    Except Trap (Option URL) :=
  if controller.isAbout then .ok none
  else do
    let url ← unwrap (os.url controller.urlString)
    return some url

variable (os : Platform URL)

/-- Presenting a view controller loads its view. -/
def presentWebView (urlString : String) : Except Trap (Option (Action URL)) := do
  let page ← { urlString : WebViewController }.viewDidLoad os
  return some (.present page)

/-- `if let url = URL(string: scheme) { UIApplication.shared.open(url) }` -/
def openScheme (scheme : String) : Option (Action URL) := (os.url scheme).map .openURL

/-- `if let url = url, UIApplication.shared.canOpenURL(url)` -/
def openable (url : Option URL) : Option URL := url.filter os.canOpenURL

def dialNumber (number : String) : Option (Action URL) :=
  (openable os (os.url ("tel://" ++ number))).map .openURL

def openWhatsApp (whatsApp : String) : Option (Action URL) := do
  let urlString ←
    addingPercentEncoding urlQueryAllowed ("https://api.whatsapp.com/send?phone=" ++ whatsApp)
  (openable os (os.url urlString)).map .openURL

def createEmailUrl (recipient subject body : String) : Except Trap (Option URL) := do
  let subjectEncoded ← unwrap (addingPercentEncoding urlHostAllowed subject)
  let bodyEncoded ← unwrap (addingPercentEncoding urlHostAllowed body)
  let gmailUrl := os.url
    ("googlegmail://co?to=" ++ recipient ++ "&subject=" ++ subjectEncoded ++ "&body=" ++
      bodyEncoded)
  let outlookUrl := os.url
    ("ms-outlook://compose?to=" ++ recipient ++ "&subject=" ++ subjectEncoded)
  let yahooMail := os.url
    ("ymail://mail/compose?to=" ++ recipient ++ "&subject=" ++ subjectEncoded ++ "&body=" ++
      bodyEncoded)
  let sparkUrl := os.url
    ("readdle-spark://compose?recipient=" ++ recipient ++ "&subject=" ++ subjectEncoded ++
      "&body=" ++ bodyEncoded)
  let defaultUrl := os.url
    ("mailto:" ++ recipient ++ "?subject=" ++ subjectEncoded ++ "&body=" ++ bodyEncoded)
  return (openable os gmailUrl).or <| (openable os outlookUrl).or <|
    (openable os yahooMail).or <| (openable os sparkUrl).or defaultUrl

def emailUS (email : String) : Except Trap (Option (Action URL)) :=
  if os.canSendMail then .ok (some (.composeMail email "" ""))
  else do
    let emailUrl ← createEmailUrl os email "" ""
    return emailUrl.map .openURL

/-- The `switch` of `didSelectRowAt`, for a row with a stream. Categories without a case of their
own are treated like "url". -/
def switchCatagory (catagory stream : String) : Except Trap (Option (Action URL)) :=
  match catagory with
  | "call" => .ok (dialNumber os stream)
  | "whatsapp" => .ok (openWhatsApp os stream)
  | "email" => emailUS os stream
  | _ => presentWebView os stream

/-- `didSelectRowAt`, for the document behind the row -/
def didSelectRowAt (data : Fields) : Except Trap (Option (Action URL)) :=
  match data.bool "isRadio" with
  | none => .ok none
  | some true => .ok (some .hideLeftView)
  | some false =>
    match data.string "name" with
    | none => .ok ((data.string "stream").bind (openScheme os))
    | some _ =>
      match data.string "catagory", data.string "stream" with
      | some catagory, some stream => switchCatagory os catagory stream
      | _, _ => .ok none

/-- The buttons under the rows: mail, or the address behind a name. -/
def linkButtonTapped (g : Globals) : Link → Except Trap (Option (Action URL))
  | .email => emailUS os g.email
  | k => .ok (openScheme os (g.get k))

/-! ## When a tap traps -/

/-- The text that a tap on the row hands to a web view. -/
def Fields.webPage (data : Fields) : Option String :=
  match data.bool "isRadio", data.string "name", data.string "catagory" with
  | some false, some _, some catagory =>
    if catagory ∈ ["call", "whatsapp", "email"] then none else data.string "stream"
  | _, _, _ => none

/-- A Swift string can always be percent encoded. -/
theorem createEmailUrl_ok (recipient subject body : String) :
    ∃ url, createEmailUrl os recipient subject body = .ok url := ⟨_, rfl⟩

theorem emailUS_ok (email : String) : ∃ action, emailUS os email = .ok action := by
  simp only [emailUS]
  split
  · exact ⟨_, rfl⟩
  · obtain ⟨url, hurl⟩ := createEmailUrl_ok os email "" ""
    exact ⟨url.map .openURL, by rw [hurl]; rfl⟩

theorem linkButtonTapped_ok (g : Globals) (k : Link) :
    ∃ action, linkButtonTapped os g k = .ok action := by
  cases k with
  | email => exact emailUS_ok os g.email
  | _ => exact ⟨_, rfl⟩

variable {os}

theorem presentWebView_error_iff {urlString : String} {trap : Trap} :
    presentWebView os urlString = .error trap ↔
      os.url urlString = none ∧ trap = .unexpectedNil := by
  simp only [presentWebView, WebViewController.viewDidLoad]
  cases os.url urlString with
  | none => exact ⟨fun h => ⟨rfl, by cases h; rfl⟩, fun ⟨_, h⟩ => h ▸ rfl⟩
  | some url => exact ⟨nofun, nofun⟩

theorem switchCatagory_error_iff {catagory stream : String} {trap : Trap} :
    switchCatagory os catagory stream = .error trap ↔
      catagory ∉ ["call", "whatsapp", "email"] ∧ os.url stream = none ∧ trap = .unexpectedNil := by
  unfold switchCatagory
  split
  · simp
  · simp
  · obtain ⟨action, haction⟩ := emailUS_ok os stream
    simp [haction]
  · rename_i notCall notWhatsApp notEmail
    have other : catagory ∉ ["call", "whatsapp", "email"] := by
      simp only [List.mem_cons, List.not_mem_nil, or_false]
      rintro (call | whatsApp | email)
      · exact notCall call
      · exact notWhatsApp whatsApp
      · exact notEmail email
    rw [presentWebView_error_iff, and_iff_right other]

/-- A row traps exactly when it hands a web view a text that is no address: every other way through
the casts checks what it uses. -/
theorem didSelectRowAt_error_iff {data : Fields} {trap : Trap} :
    didSelectRowAt os data = .error trap ↔
      (∃ urlString, data.webPage = some urlString ∧ os.url urlString = none) ∧
        trap = .unexpectedNil := by
  simp only [didSelectRowAt, Fields.webPage]
  cases data.bool "isRadio" with
  | none => simp
  | some isRadio =>
    cases isRadio with
    | true => simp
    | false =>
      cases data.string "name" with
      | none => simp
      | some name =>
        cases data.string "catagory" with
        | none => simp
        | some catagory =>
          cases data.string "stream" with
          | none => simp
          | some stream =>
            by_cases other : catagory ∈ ["call", "whatsapp", "email"] <;>
              simp [switchCatagory_error_iff, other]

end RockRadio
