import RockRadio.Firestore
import RockRadio.Library.LastWrite

/-!
# The global configuration

The addresses the app works with are global variables. The 'social' documents overwrite them: a
document marked as the radio names the stream to play, and the documents with one of seven fixed
names give the address behind that name. Every loop over a snapshot writes them document by
document, so each global is a register whose last writer wins.
-/

namespace RockRadio

/-- The globals of `AppConstants.swift` that the code reads or overwrites. -/
structure Globals where
  facebookUrl : String := "https://www.facebook.com/g24radioLondon/"
  twitterUrl : String := "https://twitter.com/g24radio/status/1479012476234739718?s=21"
  websiteUrl : String := "https://www.g24radio.com/"
  instaUrl : String := "https://www.instagram.com/p/CS8qm5VotHs/?utm_medium=copy_link"
  email : String := "info@tbnreggaeradio.com"
  contact_us : String := "http://www.brightsightradio.com/contact/"
  schedule : String :=
    "https://irp.cdn-website.com/700797eb/files/uploaded/CDR%20Schedule%2028%20June%202021.pdf"
  radioURL : String := "https://cp11.serverse.com/tunein/fwincknq.pls"
  deriving DecidableEq, Repr

def appName : String := "PB Live Radio"

/-- The documents that `MainViewController.socialData` recognises by their name. -/
inductive Link where
  | instagram | facebook | twitter | website | email | schedule | contactUs
  deriving DecidableEq, Repr

/-- The name to look for. -/
def Link.name : Link → String
  | .instagram => "Instagram"
  | .facebook => "Facebook"
  | .twitter => "Twitter"
  | .website => "Website"
  | .email => "Email"
  | .schedule => "Schedule"
  | .contactUs => "Contact Us"

/-- The order in which the loop body tests the names. -/
def Link.all : List Link :=
  [.instagram, .facebook, .twitter, .website, .email, .schedule, .contactUs]

namespace Globals

def get (g : Globals) : Link → String
  | .instagram => g.instaUrl
  | .facebook => g.facebookUrl
  | .twitter => g.twitterUrl
  | .website => g.websiteUrl
  | .email => g.email
  | .schedule => g.schedule
  | .contactUs => g.contact_us

def set (g : Globals) (url : String) : Link → Globals
  | .instagram => { g with instaUrl := url }
  | .facebook => { g with facebookUrl := url }
  | .twitter => { g with twitterUrl := url }
  | .website => { g with websiteUrl := url }
  | .email => { g with email := url }
  | .schedule => { g with schedule := url }
  | .contactUs => { g with contact_us := url }

@[simp] theorem get_set (g : Globals) (url : String) (k l : Link) :
    (g.set url k).get l = if k = l then url else g.get l := by
  cases k <;> cases l <;> rfl

@[simp] theorem radioURL_set (g : Globals) (url : String) (k : Link) :
    (g.set url k).radioURL = g.radioURL := by
  cases k <;> rfl

/-- Two configurations with the same addresses and the same stream are the same. -/
theorem ext_get {g h : Globals} (radio : g.radioURL = h.radioURL)
    (links : ∀ k, g.get k = h.get k) : g = h := by
  obtain ⟨⟩ := g
  obtain ⟨⟩ := h
  have := fun k => links k
  simp only [Globals.mk.injEq]
  exact ⟨this .facebook, this .twitter, this .website, this .instagram, this .email,
    this .contactUs, this .schedule, radio⟩

end Globals

/-- The stream a document marked `isRadio` announces. -/
def Fields.radioStream (data : Fields) : Option String := do
  let isRadio ← data.bool "isRadio"
  if isRadio then data.string "stream" else none

/-- The stream of a document with the given name. -/
def Fields.linkStream (data : Fields) (k : Link) : Option String := do
  let name ← data.string "name"
  if name = k.name then data.string "stream" else none

namespace Globals

/-- `if let isRadio … { radioURL = url }`, as in both `socialData` loops and in the row renderer. -/
def readRadio (g : Globals) (data : Fields) : Globals :=
  match data.radioStream with
  | some url => { g with radioURL := url }
  | none => g

/-- `if name == … { if let url = data["stream"] as? String { … = url } }` for one of the names. -/
def readLink (data : Fields) (g : Globals) (k : Link) : Globals :=
  match data.linkStream k with
  | some url => g.set url k
  | none => g

/-- What the body of the loop in `MainViewController.socialData` does to the globals. -/
def readSocial (g : Globals) (data : Fields) : Globals :=
  Link.all.foldl (readLink data) (g.readRadio data)

@[simp] theorem radioURL_readRadio (g : Globals) (data : Fields) :
    (g.readRadio data).radioURL = data.radioStream.getD g.radioURL := by
  unfold readRadio; cases data.radioStream <;> rfl

@[simp] theorem get_readRadio (g : Globals) (data : Fields) (k : Link) :
    (g.readRadio data).get k = g.get k := by
  unfold readRadio; cases data.radioStream <;> cases k <;> rfl

@[simp] theorem radioURL_readLink (g : Globals) (data : Fields) (k : Link) :
    (readLink data g k).radioURL = g.radioURL := by
  unfold readLink; cases data.linkStream k <;> simp

@[simp] theorem get_readLink (g : Globals) (data : Fields) (k l : Link) :
    (readLink data g k).get l = if k = l then (data.linkStream l).getD (g.get l) else g.get l := by
  unfold readLink
  by_cases same : k = l
  · subst same
    cases data.linkStream k <;> simp
  · cases data.linkStream k <;> simp [same]

@[simp] theorem radioURL_readSocial (g : Globals) (data : Fields) :
    (g.readSocial data).radioURL = data.radioStream.getD g.radioURL := by
  simp [readSocial, Link.all]

@[simp] theorem get_readSocial (g : Globals) (data : Fields) (k : Link) :
    (g.readSocial data).get k = (data.linkStream k).getD (g.get k) := by
  cases k <;> simp [readSocial, Link.all]

end Globals

/-- A loop over a snapshot leaves the last stream announced in `radioURL`. -/
theorem radioURL_foldl (read : Globals → Fields → Globals)
    (reads : ∀ g data, (read g data).radioURL = data.radioStream.getD g.radioURL)
    (g : Globals) (docs : List Document) :
    (docs.foldl (fun g d => read g d.data) g).radioURL =
      Register.lastWrite (fun d : Document => d.data.radioStream) g.radioURL docs := by
  induction docs generalizing g with
  | nil => rfl
  | cons d docs ih => rw [List.foldl_cons, ih, reads, Register.lastWrite_cons]

/-- The loop of `MainViewController.socialData` leaves the last address given under each name. -/
theorem get_foldl_readSocial (g : Globals) (docs : List Document) (k : Link) :
    (docs.foldl (fun g d => g.readSocial d.data) g).get k =
      Register.lastWrite (fun d : Document => d.data.linkStream k) (g.get k) docs := by
  induction docs generalizing g with
  | nil => rfl
  | cons d docs ih => rw [List.foldl_cons, ih, Globals.get_readSocial, Register.lastWrite_cons]

/-- A loop that only reads the radio leaves the named addresses alone. -/
theorem get_foldl_readRadio (g : Globals) (docs : List Document) (k : Link) :
    (docs.foldl (fun g d => g.readRadio d.data) g).get k = g.get k := by
  induction docs generalizing g with
  | nil => rfl
  | cons d docs ih => rw [List.foldl_cons, ih, Globals.get_readRadio]

end RockRadio
