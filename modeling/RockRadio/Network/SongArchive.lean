import RockRadio.Network.Song
import Mathlib.Logic.Function.Basic

/-!
# Archives of the responses

`NSCoding` for the classes of the responses. A coder keeps the objects and the Booleans encoded for
one object under their keys; an object among them has a coder of its own. Decoding casts what it
finds under a key to the type of the field, and a cast that fails gives `nil`.

## Main results

* `SongBaseClass.restored` — decoding what was encoded gives the object back.
-/

namespace RockRadio

/-! ## Coders -/

/-- What was encoded for one object, by key. -/
structure NSCoder (Object : Type) where
  objects : String → Option Object := fun _ => none
  bools : String → Bool := fun _ => false

namespace NSCoder

variable {Object : Type} (coder : NSCoder Object)

/-- `encode(_ object: Any?, forKey:)` -/
def encodeObject (object : Option Object) (key : String) : NSCoder Object :=
  { coder with objects := Function.update coder.objects key object }

/-- `encode(_ value: Bool, forKey:)` -/
def encodeBool (value : Bool) (key : String) : NSCoder Object :=
  { coder with bools := Function.update coder.bools key value }

def decodeObject (key : String) : Option Object := coder.objects key

def decodeBool (key : String) : Bool := coder.bools key

@[simp] theorem decodeObject_encodeObject (object : Option Object) (key key' : String) :
    (coder.encodeObject object key).decodeObject key' =
      if key' = key then object else coder.decodeObject key' :=
  Function.update_apply _ _ _ _

@[simp] theorem decodeBool_encodeBool (value : Bool) (key key' : String) :
    (coder.encodeBool value key).decodeBool key' =
      if key' = key then value else coder.decodeBool key' :=
  Function.update_apply _ _ _ _

@[simp] theorem decodeObject_encodeBool (value : Bool) (key key' : String) :
    (coder.encodeBool value key).decodeObject key' = coder.decodeObject key' := rfl

@[simp] theorem decodeBool_encodeObject (object : Option Object) (key key' : String) :
    (coder.encodeObject object key).decodeBool key' = coder.decodeBool key' := rfl

end NSCoder

inductive SongClass where
  | baseClass | broadcast | scheduled (slot : Slot) | show_ | endpoints
  deriving DecidableEq

/-- An object in an archive: those of Foundation by their value, any other by its class and what it
encoded. -/
inductive Archived where
  | string (s : String)
  | number (i : Int64)
  | object (className : SongClass) (contents : NSCoder Archived)

namespace Archived

/-- `as? String` -/
def asString : Archived → Option String
  | .string s => some s
  | _ => none

/-- `as? Int` -/
def asInt : Archived → Option Int64
  | .number i => some i
  | _ => none

/-- A string that may be missing is cast back, and so is its absence. -/
@[simp] theorem string_bind (s : Option String) :
    (s.map Archived.string).bind (·.asString) = s := by
  cases s <;> rfl

@[simp] theorem number_bind (i : Option Int64) :
    (i.map Archived.number).bind (·.asInt) = i := by
  cases i <;> rfl

end Archived

/-- The protocol `NSCoding`, and the class to find again in an archive. -/
class NSCoding (α : Type) where
  className : SongClass
  encode : α → NSCoder Archived → NSCoder Archived
  initCoder : NSCoder Archived → α

section
variable {α : Type} [NSCoding α]

/-- An object under a key is encoded with a coder of its own. -/
def archived (x : α) : Archived := .object (NSCoding.className α) (NSCoding.encode x {})

/-- `as? α` on an object under a key -/
def unarchive : Archived → Option α
  | .object className contents =>
    if className = NSCoding.className α then some (NSCoding.initCoder contents) else none
  | _ => none

end

/-- Decoding gives back what was encoded, whatever the coder held before. -/
class LawfulNSCoding (α : Type) [NSCoding α] : Prop where
  initCoder_encode (x : α) (coder : NSCoder Archived) :
    NSCoding.initCoder (NSCoding.encode x coder) = x

@[simp] theorem unarchive_archived {α : Type} [NSCoding α] [LawfulNSCoding α] (x : Option α) :
    (x.map archived).bind unarchive = x := by
  cases x with
  | none => rfl
  | some x => simp [archived, unarchive, LawfulNSCoding.initCoder_encode]

/-! ## The classes -/

def SongEndpoints.encode (self : SongEndpoints) (aCoder : NSCoder Archived) : NSCoder Archived :=
  let aCoder := aCoder.encodeObject (self.station.map .string) "station"
  let aCoder := aCoder.encodeObject (self.genres.map .string) "genres"
  let aCoder := aCoder.encodeObject (self.broadcast.map .string) "broadcast"
  let aCoder := aCoder.encodeObject (self.shows.map .string) "shows"
  let aCoder := aCoder.encodeObject (self.languages.map .string) "languages"
  let aCoder := aCoder.encodeObject (self.schedule.map .string) "schedule"
  aCoder

def SongEndpoints.initCoder (aDecoder : NSCoder Archived) : SongEndpoints where
  station := (aDecoder.decodeObject "station").bind (·.asString)
  genres := (aDecoder.decodeObject "genres").bind (·.asString)
  broadcast := (aDecoder.decodeObject "broadcast").bind (·.asString)
  shows := (aDecoder.decodeObject "shows").bind (·.asString)
  languages := (aDecoder.decodeObject "languages").bind (·.asString)
  schedule := (aDecoder.decodeObject "schedule").bind (·.asString)

instance : NSCoding SongEndpoints := ⟨.endpoints, SongEndpoints.encode, SongEndpoints.initCoder⟩

def SongShow.encode (self : SongShow) (aCoder : NSCoder Archived) : NSCoder Archived :=
  let aCoder := aCoder.encodeObject (self.feed.map .string) "feed"
  let aCoder := aCoder.encodeObject (self.website.map .string) "website"
  let aCoder := aCoder.encodeObject (self.name.map .string) "name"
  let aCoder := aCoder.encodeObject (self.latest.map .string) "latest"
  let aCoder := aCoder.encodeObject (self.internalIdentifier.map .number) "id"
  let aCoder := aCoder.encodeObject (self.route.map .string) "route"
  let aCoder := aCoder.encodeObject (self.avatarUrl.map .string) "avatar_url"
  let aCoder := aCoder.encodeObject (self.imageUrl.map .string) "image_url"
  let aCoder := aCoder.encodeObject (self.url.map .string) "url"
  let aCoder := aCoder.encodeObject (self.slug.map .string) "slug"
  aCoder

def SongShow.initCoder (aDecoder : NSCoder Archived) : SongShow where
  feed := (aDecoder.decodeObject "feed").bind (·.asString)
  website := (aDecoder.decodeObject "website").bind (·.asString)
  name := (aDecoder.decodeObject "name").bind (·.asString)
  latest := (aDecoder.decodeObject "latest").bind (·.asString)
  internalIdentifier := (aDecoder.decodeObject "id").bind (·.asInt)
  route := (aDecoder.decodeObject "route").bind (·.asString)
  avatarUrl := (aDecoder.decodeObject "avatar_url").bind (·.asString)
  imageUrl := (aDecoder.decodeObject "image_url").bind (·.asString)
  url := (aDecoder.decodeObject "url").bind (·.asString)
  slug := (aDecoder.decodeObject "slug").bind (·.asString)

instance : NSCoding SongShow := ⟨.show_, SongShow.encode, SongShow.initCoder⟩

def ScheduledShow.encode {slot : Slot} (self : ScheduledShow slot)
    (aCoder : NSCoder Archived) : NSCoder Archived :=
  let aCoder := aCoder.encodeBool self.split "split"
  let aCoder := aCoder.encodeObject (self.date.map .string) "date"
  let aCoder := aCoder.encodeObject (self.day.map .string) "day"
  let aCoder := aCoder.encodeBool self.encore "encore"
  let aCoder := aCoder.encodeObject (self.start.map .string) "start"
  let aCoder := aCoder.encodeObject (self.end_.map .string) "end"
  let aCoder := aCoder.encodeBool self.override "override"
  let aCoder := aCoder.encodeObject (self.show_.map archived) "show"
  aCoder

def ScheduledShow.initCoder {slot : Slot} (aDecoder : NSCoder Archived) : ScheduledShow slot where
  split := aDecoder.decodeBool "split"
  date := (aDecoder.decodeObject "date").bind (·.asString)
  day := (aDecoder.decodeObject "day").bind (·.asString)
  encore := aDecoder.decodeBool "encore"
  start := (aDecoder.decodeObject "start").bind (·.asString)
  end_ := (aDecoder.decodeObject "end").bind (·.asString)
  override := aDecoder.decodeBool "override"
  show_ := (aDecoder.decodeObject "show").bind unarchive

instance {slot : Slot} : NSCoding (ScheduledShow slot) :=
  ⟨.scheduled slot, ScheduledShow.encode, ScheduledShow.initCoder⟩

def SongBroadcast.encode (self : SongBroadcast) (aCoder : NSCoder Archived) : NSCoder Archived :=
  let aCoder := aCoder.encodeObject (self.currentShow.map archived) "current_show"
  let aCoder := aCoder.encodeBool self.currentPlaylist "current_playlist"
  let aCoder := aCoder.encodeObject (self.nextShow.map archived) "next_show"
  aCoder

def SongBroadcast.initCoder (aDecoder : NSCoder Archived) : SongBroadcast where
  currentShow := (aDecoder.decodeObject "current_show").bind unarchive
  currentPlaylist := aDecoder.decodeBool "current_playlist"
  nextShow := (aDecoder.decodeObject "next_show").bind unarchive

instance : NSCoding SongBroadcast := ⟨.broadcast, SongBroadcast.encode, SongBroadcast.initCoder⟩

def SongBaseClass.encode (self : SongBaseClass) (aCoder : NSCoder Archived) : NSCoder Archived :=
  let aCoder := aCoder.encodeObject (self.timezone.map .string) "timezone"
  let aCoder := aCoder.encodeObject (self.dateTime.map .string) "date_time"
  let aCoder := aCoder.encodeObject (self.broadcast.map archived) "broadcast"
  let aCoder := aCoder.encodeBool self.success "success"
  let aCoder := aCoder.encodeObject (self.scheduleUrl.map .string) "schedule_url"
  let aCoder := aCoder.encodeObject (self.endpoints.map archived) "endpoints"
  let aCoder := aCoder.encodeObject (self.timestamp.map .string) "timestamp"
  let aCoder := aCoder.encodeObject (self.streamUrl.map .string) "stream_url"
  let aCoder := aCoder.encodeObject (self.stationUrl.map .string) "station_url"
  let aCoder := aCoder.encodeObject (self.language.map .string) "language"
  let aCoder := aCoder.encodeObject (self.updated.map .string) "updated"
  aCoder

def SongBaseClass.initCoder (aDecoder : NSCoder Archived) : SongBaseClass where
  timezone := (aDecoder.decodeObject "timezone").bind (·.asString)
  dateTime := (aDecoder.decodeObject "date_time").bind (·.asString)
  broadcast := (aDecoder.decodeObject "broadcast").bind unarchive
  success := aDecoder.decodeBool "success"
  scheduleUrl := (aDecoder.decodeObject "schedule_url").bind (·.asString)
  endpoints := (aDecoder.decodeObject "endpoints").bind unarchive
  timestamp := (aDecoder.decodeObject "timestamp").bind (·.asString)
  streamUrl := (aDecoder.decodeObject "stream_url").bind (·.asString)
  stationUrl := (aDecoder.decodeObject "station_url").bind (·.asString)
  language := (aDecoder.decodeObject "language").bind (·.asString)
  updated := (aDecoder.decodeObject "updated").bind (·.asString)

instance : NSCoding SongBaseClass := ⟨.baseClass, SongBaseClass.encode, SongBaseClass.initCoder⟩

/-! ## Decoding what was encoded -/

theorem SongEndpoints.initCoder_encode (x : SongEndpoints) (coder : NSCoder Archived) :
    initCoder (x.encode coder) = x := by
  simp [encode, initCoder]

instance : LawfulNSCoding SongEndpoints := ⟨SongEndpoints.initCoder_encode⟩

theorem SongShow.initCoder_encode (x : SongShow) (coder : NSCoder Archived) :
    initCoder (x.encode coder) = x := by
  simp [encode, initCoder]

instance : LawfulNSCoding SongShow := ⟨SongShow.initCoder_encode⟩

theorem ScheduledShow.initCoder_encode {slot : Slot} (x : ScheduledShow slot)
    (coder : NSCoder Archived) : initCoder (x.encode coder) = x := by
  simp [encode, initCoder]

instance {slot : Slot} : LawfulNSCoding (ScheduledShow slot) := ⟨ScheduledShow.initCoder_encode⟩

theorem SongBroadcast.initCoder_encode (x : SongBroadcast) (coder : NSCoder Archived) :
    initCoder (x.encode coder) = x := by
  simp [encode, initCoder]

instance : LawfulNSCoding SongBroadcast := ⟨SongBroadcast.initCoder_encode⟩

/-- Any object graph comes back from its archive equal in every field at every level: what was set
is set to the same, and what was `nil` is still `nil`. -/
theorem SongBaseClass.restored (x : SongBaseClass) (coder : NSCoder Archived) :
    initCoder (x.encode coder) = x := by
  simp [encode, initCoder]

end RockRadio
