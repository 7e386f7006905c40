import RockRadio.Library.EventSystem
import Mathlib.Data.Int.Notation
import Mathlib.Logic.Function.Basic

/-!
# Loading images into views

`sd_setImage(with:)` as the app calls it: on the main thread, without options or a placeholder. It
cancels what the view was loading before and asks the memory cache, then the disk cache on a queue
of its own, then the network, where the views that want the same address share a download. What
these find out comes back in blocks of the main queue, by which time the view may want something
else.

An address is the key of its image in both caches.

## Main definitions

* `ImageLoading` — the manager, its caches, the downloader and the views.
* `ImageLoading.Event`, `ImageLoading.next` — what can happen, on any of the queues.
* `ImageLoading.system` — the loader in an environment whose servers serve certain images.
-/

namespace RockRadio

/-! ## Errors -/

inductive SDWebImageErrorCode where
  | invalidURL | badImageData | cacheNotModified | blackListed
  | invalidDownloadOperation | invalidDownloadStatusCode | cancelled
  | invalidDownloadResponse | invalidDownloadContentType
  deriving DecidableEq, Repr

inductive NSURLErrorCode where
  | notConnectedToInternet | cancelled | timedOut | internationalRoamingOff | dataNotAllowed
  | cannotFindHost | cannotConnectToHost | networkConnectionLost
  | other (code : ℤ)
  deriving DecidableEq, Repr

/-- An error, by its domain. -/
inductive LoadError where
  | sdWebImage (code : SDWebImageErrorCode)
  | url (code : NSURLErrorCode)
  | other
  deriving DecidableEq, Repr

def LoadError.shouldBlockFailedURL : LoadError → Bool
  | .sdWebImage code => code = .invalidURL || code = .badImageData
  | .url (.other _) => true
  | .url _ => false
  | .other => false

/-! ## The state -/

/-- `SDWebImageCombinedOperation`, with what its completion block has captured. Two operations are
the same object when they have the same serial number. -/
structure CombinedOperation (View URL : Type*) where
  serial : ℕ
  view : View
  url : URL
  deriving DecidableEq

/-- How far a download is. -/
inductive Stage (Operation Image : Type*) where
  | running
  /-- the callbacks have been told of an error -/
  | failing
  /-- the data is decoded for each callback; `handled` are those the coder queue knows of -/
  | decoding (image : Option Image) (pending handled : List Operation)

/-- `SDWebImageDownloaderOperation`; a token is the operation that waits for it. -/
structure DownloaderOperation (View URL Image : Type*) where
  url : URL
  callbackTokens : List (CombinedOperation View URL)
  stage : Stage (CombinedOperation View URL) Image := .running
  isFinished : Bool := false
  isCancelled : Bool := false

/-- The blocks of the serial queue of the disk cache. -/
inductive IOBlock (View URL Image : Type*) where
  | query (l : CombinedOperation View URL)
  | store (url : URL) (image : Image)

/-- The blocks of the main queue. -/
inductive MainBlock (View URL Image : Type*) where
  | cacheDone (l : CombinedOperation View URL) (image : Option Image)
  | loaderDone (l : CombinedOperation View URL) (result : Except LoadError Image)

/-- The manager with its cache and its downloader. -/
structure ImageManager (View URL Image : Type*) where
  failedURLs : List URL := []
  memoryCache : URL → Option Image := fun _ => none
  diskCache : URL → Option Image := fun _ => none
  ioQueue : List (IOBlock View URL Image) := []
  mainQueue : List (MainBlock View URL Image) := []
  loaderOperation : CombinedOperation View URL → Option ℕ := fun _ => none
  /-- The number of downloads started. -/
  started : ℕ := 0
  downloads : ℕ → Option (DownloaderOperation View URL Image) := fun _ => none
  URLOperations : URL → Option ℕ := fun _ => none
  /-- The main thread has found a download to share and is about to add its handlers. -/
  sharing : Option (CombinedOperation View URL × ℕ) := none

/-- The views, and what has become of the operations made for them. -/
structure ImageViews (View URL Image : Type*) where
  /-- The number of operations created; the next one gets it for its serial number. -/
  created : ℕ := 0
  isCancelled : CombinedOperation View URL → Bool := fun _ => false
  /-- What the completion block of an operation was called with while the operation was not
  cancelled, the latest first. -/
  completions : CombinedOperation View URL → List (Except LoadError Image) := fun _ => []
  /-- `sd_imageURL` -/
  imageURL : View → Option URL := fun _ => none
  /-- The latest operation of the view. It is in the view's `sd_operationDictionary` until it
  completes. -/
  imageLoadOperation : View → Option (CombinedOperation View URL) := fun _ => none
  /-- What the view shows. -/
  image : View → Option Image := fun _ => none

structure ImageLoading (View URL Image : Type*) extends
  ImageViews View URL Image, ImageManager View URL Image

variable {View URL Image : Type*}

/-- No more callbacks can be added to the download. -/
def DownloaderOperation.Over (d : DownloaderOperation View URL Image) : Prop :=
  d.isFinished = true ∨ d.isCancelled = true

instance (d : DownloaderOperation View URL Image) : Decidable d.Over :=
  inferInstanceAs (Decidable (_ ∨ _))

def DownloaderOperation.done (d : DownloaderOperation View URL Image) :
    DownloaderOperation View URL Image :=
  { d with isFinished := true, callbackTokens := [] }

/-- `cancel:` with the token of the operation -/
def DownloaderOperation.cancel [DecidableEq View] [DecidableEq URL]
    (d : DownloaderOperation View URL Image) (l : CombinedOperation View URL) :
    DownloaderOperation View URL Image :=
  if d.callbackTokens = [l] then
    if d.isFinished then d else { d with isCancelled := true, callbackTokens := [] }
  else { d with callbackTokens := d.callbackTokens.erase l }

namespace ImageLoading

variable [DecidableEq View] [DecidableEq URL] (s : ImageLoading View URL Image)

def setDownload (k : ℕ) (d : DownloaderOperation View URL Image) : ImageLoading View URL Image :=
  { s with downloads := Function.update s.downloads k (some d) }

/-! ## What the operations do -/

/-- `-[SDWebImageCombinedOperation cancel]`. The blocks it calls at once find the operation
cancelled and have no effect on the view. -/
def cancel (l : CombinedOperation View URL) : ImageLoading View URL Image :=
  if s.isCancelled l then s
  else
    let s := { s with isCancelled := Function.update s.isCancelled l true }
    match s.loaderOperation l with
    | none => s
    | some k =>
      match s.downloads k with
      | none => s
      | some d => s.setDownload k (d.cancel l)

/-- The dictionary refers to the operation weakly, and nobody else keeps one that has completed. -/
def sd_cancelImageLoadOperation (view : View) : ImageLoading View URL Image :=
  match s.imageLoadOperation view with
  | none => s
  | some l =>
    let s := if (s.completions l).isEmpty then s.cancel l else s
    { s with imageLoadOperation := Function.update s.imageLoadOperation view none }

/-- The completion block of `sd_internalSetImageWithURL`: without an image the view is left
alone. -/
def complete (l : CombinedOperation View URL) (result : Except LoadError Image) :
    ImageLoading View URL Image :=
  let s := { s with
    completions := Function.update s.completions l (result :: s.completions l) }
  match result with
  | .ok image => { s with image := Function.update s.image l.view (some image) }
  | .error _ => s

/-- `queryCacheOperationForKey`, as far as it runs on the main thread -/
def callCacheProcess (l : CombinedOperation View URL) : ImageLoading View URL Image :=
  match s.memoryCache l.url with
  | some image => s.complete l (.ok image)
  | none => { s with ioQueue := s.ioQueue ++ [.query l] }

def loadImage (l : CombinedOperation View URL) : ImageLoading View URL Image :=
  if l.url ∈ s.failedURLs then s.complete l (.error (.sdWebImage .blackListed))
  else s.callCacheProcess l

/-- `sd_internalSetImageWithURL` -/
def sd_setImage (view : View) (url : Option URL) : ImageLoading View URL Image :=
  let s := s.sd_cancelImageLoadOperation view
  let s := { s with
    imageURL := Function.update s.imageURL view url
    image := Function.update s.image view none }
  match url with
  | none => s
  | some url =>
    let l : CombinedOperation View URL := ⟨s.created, view, url⟩
    let s := { s with created := s.created + 1 }.loadImage l
    { s with imageLoadOperation := Function.update s.imageLoadOperation view (some l) }

/-- What the block finds on the disk, and the memory cache after that. Decoding may fail. -/
def queryDiskImage (url : URL) (decodes : Bool) : Option Image × (URL → Option Image) :=
  match s.diskCache url with
  | none => (none, s.memoryCache)
  | some data =>
    match s.memoryCache url with
    | some image => (some image, s.memoryCache)
    | none =>
      if decodes then (some data, Function.update s.memoryCache url (some data))
      else (none, s.memoryCache)

def queryDisk (l : CombinedOperation View URL) (decodes : Bool) : ImageLoading View URL Image :=
  if s.isCancelled l then s
  else
    let found := s.queryDiskImage l.url decodes
    { s with memoryCache := found.2, mainQueue := s.mainQueue ++ [.cacheDone l found.1] }

def runIO (decodes : Bool) : ImageLoading View URL Image :=
  match s.ioQueue with
  | [] => s
  | .query l :: rest => { s with ioQueue := rest }.queryDisk l decodes
  | .store url image :: rest =>
    { s with ioQueue := rest, diskCache := Function.update s.diskCache url (some image) }

def startDownload (l : CombinedOperation View URL) : ImageLoading View URL Image :=
  { s.setDownload s.started { url := l.url, callbackTokens := [l] } with
    started := s.started + 1
    URLOperations := Function.update s.URLOperations l.url (some s.started)
    loaderOperation := Function.update s.loaderOperation l (some s.started) }

/-- `downloadImageWithURL`. Where it finds a download to share it lets go of the lock on it before
it takes it again to add its handlers. -/
def downloadImage (l : CombinedOperation View URL) : ImageLoading View URL Image :=
  match s.URLOperations l.url with
  | none => s.startDownload l
  | some k =>
    match s.downloads k with
    | none => s.startDownload l
    | some d => if d.Over then s.startDownload l else { s with sharing := some (l, k) }

def addHandlers : ImageLoading View URL Image :=
  match s.sharing with
  | none => s
  | some (l, k) =>
    let s := { s with
      sharing := none, loaderOperation := Function.update s.loaderOperation l (some k) }
    match s.downloads k with
    | none => s
    | some d => s.setDownload k { d with callbackTokens := d.callbackTokens ++ [l] }

/-- The block of a query of the disk cache, and `callDownloadProcess` -/
def cacheDone (l : CombinedOperation View URL) (image : Option Image) :
    ImageLoading View URL Image :=
  if s.isCancelled l then s
  else
    match image with
    | some image => s.complete l (.ok image)
    | none => s.downloadImage l

/-- `storeImage`, for the original image and for the one to show -/
def storeImage (url : URL) (image : Image) : ImageLoading View URL Image :=
  { s with
    ioQueue := s.ioQueue ++ [.store url image, .store url image]
    memoryCache := Function.update s.memoryCache url (some image) }

/-- The block of a download. -/
def loaderDone (l : CombinedOperation View URL) (result : Except LoadError Image) :
    ImageLoading View URL Image :=
  if s.isCancelled l then s
  else
    match result with
    | .ok image => (s.storeImage l.url image).complete l (.ok image)
    | .error error =>
      let s := s.complete l (.error error)
      if error.shouldBlockFailedURL then { s with failedURLs := l.url :: s.failedURLs } else s

def runMain : ImageLoading View URL Image :=
  match s.mainQueue with
  | [] => s
  | .cacheDone l image :: rest => { s with mainQueue := rest }.cacheDone l image
  | .loaderDone l result :: rest => { s with mainQueue := rest }.loaderDone l result

/-! ## What happens on the queues of a download -/

/-- `didCompleteWithError`, with an error or without data: the callbacks are told, then the
operation is done. -/
def didFail (k : ℕ) (d : DownloaderOperation View URL Image) (error : LoadError) :
    ImageLoading View URL Image :=
  { s.setDownload k { d with stage := .failing } with
    mainQueue := s.mainQueue ++ d.callbackTokens.map (.loaderDone · (.error error)) }

/-- `didCompleteWithError` with data, which decodes to an image or does not -/
def didReceive (k : ℕ) (d : DownloaderOperation View URL Image) (image : Option Image) :
    ImageLoading View URL Image :=
  if d.callbackTokens = [] then s.setDownload k d.done
  else s.setDownload k { d with stage := .decoding image d.callbackTokens d.callbackTokens }

/-- The coder queue has decoded the image for one callback. -/
def didDecode (k : ℕ) (d : DownloaderOperation View URL Image) (image : Option Image)
    (l : CombinedOperation View URL) (pending handled : List (CombinedOperation View URL)) :
    ImageLoading View URL Image :=
  let result : Except LoadError Image :=
    match image with
    | some image => .ok image
    | none => .error (.sdWebImage .badImageData)
  { s.setDownload k { d with stage := .decoding image pending handled } with
    mainQueue := s.mainQueue ++ [.loaderDone l result] }

/-- Callbacks added in the meantime are served too. -/
def checkDone (k : ℕ) (d : DownloaderOperation View URL Image) (image : Option Image)
    (handled : List (CombinedOperation View URL)) : ImageLoading View URL Image :=
  let tokens := d.callbackTokens.filter (· ∉ handled)
  if tokens = [] then s.setDownload k d.done
  else s.setDownload k { d with stage := .decoding image tokens (handled ++ tokens) }

/-! ## The system -/

inductive Event (View URL Image : Type*) where
  | sd_setImage (view : View) (url : Option URL)
  /-- the main queue runs its first block -/
  | main
  /-- the main thread goes on, within a block -/
  | addHandlers
  | io (decodes : Bool)
  | didFail (k : ℕ) (error : LoadError)
  | didReceive (k : ℕ) (image : Option Image)
  /-- the queue on which a download came to its end goes on -/
  | proceed (k : ℕ)
  /-- the completion block of a download -/
  | removeOperation (k : ℕ)
  | evict (url : URL)
  | expire (url : URL)

/-- What a download does after its end, until it is done. -/
def proceed (k : ℕ) : ImageLoading View URL Image :=
  match s.downloads k with
  | none => s
  | some d =>
    match d.stage with
    | .running => s
    | .failing => s.setDownload k d.done
    | .decoding image [] handled => s.checkDone k d image handled
    | .decoding image (l :: pending) handled => s.didDecode k d image l pending handled

def removeOperation (k : ℕ) : ImageLoading View URL Image :=
  match s.downloads k with
  | none => s
  | some d => { s with URLOperations := Function.update s.URLOperations d.url none }

def next : Event View URL Image → ImageLoading View URL Image
  | .sd_setImage view url => s.sd_setImage view url
  | .main => s.runMain
  | .addHandlers => s.addHandlers
  | .io decodes => s.runIO decodes
  | .didFail k error =>
    match s.downloads k with
    | none => s
    | some d => s.didFail k d error
  | .didReceive k image =>
    match s.downloads k with
    | none => s
    | some d => s.didReceive k d image
  | .proceed k => s.proceed k
  | .removeOperation k => s.removeOperation k
  | .evict url => { s with memoryCache := Function.update s.memoryCache url none }
  | .expire url => { s with diskCache := Function.update s.diskCache url none }

/-- What the environment may do. A server only sends what it serves under the address; a download
that is over sends nothing, and its lock is free while no handlers are being added. -/
def Enabled (Serves : URL → Image → Prop) : Event View URL Image → Prop
  | .sd_setImage _ _ => s.sharing = none
  | .main => s.sharing = none ∧ s.mainQueue ≠ []
  | .addHandlers => s.sharing ≠ none
  | .io _ => s.ioQueue ≠ []
  | .didFail k _ => ∃ d, s.downloads k = some d ∧ d.stage = .running ∧ ¬ d.Over
  | .didReceive k image => ∃ d, s.downloads k = some d ∧ d.stage = .running ∧ ¬ d.Over ∧
      ∀ i ∈ image, Serves d.url i
  | .proceed k => ∃ d, s.downloads k = some d ∧ d.stage ≠ .running ∧ d.isFinished = false
  | .removeOperation k => s.sharing = none ∧ ∃ d, s.downloads k = some d ∧ d.Over
  | .evict _ | .expire _ => True

/-- The loader and the views, with servers that serve these images. -/
def system (Serves : URL → Image → Prop) :
    EventSystem (ImageLoading View URL Image) (Event View URL Image) Empty where
  enabled s := s.Enabled Serves
  step s e := .ok (s.next e)

end ImageLoading

end RockRadio
