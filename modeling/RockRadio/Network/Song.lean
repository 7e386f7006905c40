import RockRadio.Network.SwiftyJSON

/-!
# The responses about the current broadcast

Six classes hold what the station's service answers, nested four levels deep. Each reads its fields
from a JSON value by its own keys, and writes those that are set into a dictionary. The classes for
the current and the next show are the same but for their names.

## Main results

* `SongBaseClass.init_dictionaryRepresentation` — what was read from any JSON value is read again
  from the dictionary written of it.
-/

namespace RockRadio

open Dictionary

variable {NSNumber : Type}

structure SongShow where
  feed : Option String := none
  website : Option String := none
  name : Option String := none
  latest : Option String := none
  internalIdentifier : Option Int64 := none
  route : Option String := none
  avatarUrl : Option String := none
  imageUrl : Option String := none
  url : Option String := none
  slug : Option String := none
  deriving DecidableEq

structure SongEndpoints where
  station : Option String := none
  genres : Option String := none
  broadcast : Option String := none
  shows : Option String := none
  languages : Option String := none
  schedule : Option String := none
  deriving DecidableEq

/-- Which of the shows of a broadcast. -/
inductive Slot where
  | current | next
  deriving DecidableEq

structure ScheduledShow (slot : Slot) where
  split : Bool := false
  date : Option String := none
  day : Option String := none
  encore : Bool := false
  start : Option String := none
  end_ : Option String := none
  override : Bool := false
  show_ : Option SongShow := none
  deriving DecidableEq

abbrev SongCurrentShow := ScheduledShow .current
abbrev SongNextShow := ScheduledShow .next

structure SongBroadcast where
  currentShow : Option SongCurrentShow := none
  currentPlaylist : Bool := false
  nextShow : Option SongNextShow := none
  deriving DecidableEq

structure SongBaseClass where
  timezone : Option String := none
  dateTime : Option String := none
  broadcast : Option SongBroadcast := none
  success : Bool := false
  scheduleUrl : Option String := none
  endpoints : Option SongEndpoints := none
  timestamp : Option String := none
  streamUrl : Option String := none
  stationUrl : Option String := none
  language : Option String := none
  updated : Option String := none
  deriving DecidableEq

/-! ## Reading: `init(json:)` -/

variable (json : JSON NSNumber)

def SongEndpoints.init : SongEndpoints where
  station := (json.subscript "station").string?
  genres := (json.subscript "genres").string?
  broadcast := (json.subscript "broadcast").string?
  shows := (json.subscript "shows").string?
  languages := (json.subscript "languages").string?
  schedule := (json.subscript "schedule").string?

variable [Foundation NSNumber]

def SongShow.init : SongShow where
  feed := (json.subscript "feed").string?
  website := (json.subscript "website").string?
  name := (json.subscript "name").string?
  latest := (json.subscript "latest").string?
  internalIdentifier := (json.subscript "id").int?
  route := (json.subscript "route").string?
  avatarUrl := (json.subscript "avatar_url").string?
  imageUrl := (json.subscript "image_url").string?
  url := (json.subscript "url").string?
  slug := (json.subscript "slug").string?

def ScheduledShow.init {slot : Slot} : ScheduledShow slot where
  split := (json.subscript "split").boolValue
  date := (json.subscript "date").string?
  day := (json.subscript "day").string?
  encore := (json.subscript "encore").boolValue
  start := (json.subscript "start").string?
  end_ := (json.subscript "end").string?
  override := (json.subscript "override").boolValue
  show_ := some (SongShow.init (json.subscript "show"))

def SongBroadcast.init : SongBroadcast where
  currentShow := some (ScheduledShow.init (json.subscript "current_show"))
  currentPlaylist := (json.subscript "current_playlist").boolValue
  nextShow := some (ScheduledShow.init (json.subscript "next_show"))

def SongBaseClass.init : SongBaseClass where
  timezone := (json.subscript "timezone").string?
  dateTime := (json.subscript "date_time").string?
  broadcast := some (SongBroadcast.init (json.subscript "broadcast"))
  success := (json.subscript "success").boolValue
  scheduleUrl := (json.subscript "schedule_url").string?
  endpoints := some (SongEndpoints.init (json.subscript "endpoints"))
  timestamp := (json.subscript "timestamp").string?
  streamUrl := (json.subscript "stream_url").string?
  stationUrl := (json.subscript "station_url").string?
  language := (json.subscript "language").string?
  updated := (json.subscript "updated").string?

/-! ## Writing: `dictionaryRepresentation` -/

omit [Foundation NSNumber] in
def SongEndpoints.dictionaryRepresentation (self : SongEndpoints) : List (String × JSON NSNumber) :=
  let dictionary := []
  let dictionary := updateIfSome dictionary (self.station.map .string) "station"
  let dictionary := updateIfSome dictionary (self.genres.map .string) "genres"
  let dictionary := updateIfSome dictionary (self.broadcast.map .string) "broadcast"
  let dictionary := updateIfSome dictionary (self.shows.map .string) "shows"
  let dictionary := updateIfSome dictionary (self.languages.map .string) "languages"
  let dictionary := updateIfSome dictionary (self.schedule.map .string) "schedule"
  dictionary

def SongShow.dictionaryRepresentation (self : SongShow) : List (String × JSON NSNumber) :=
  let dictionary := []
  let dictionary := updateIfSome dictionary (self.feed.map .string) "feed"
  let dictionary := updateIfSome dictionary (self.website.map .string) "website"
  let dictionary := updateIfSome dictionary (self.name.map .string) "name"
  let dictionary := updateIfSome dictionary (self.latest.map .string) "latest"
  let dictionary := updateIfSome dictionary
    (self.internalIdentifier.map fun i => .number (Foundation.number i)) "id"
  let dictionary := updateIfSome dictionary (self.route.map .string) "route"
  let dictionary := updateIfSome dictionary (self.avatarUrl.map .string) "avatar_url"
  let dictionary := updateIfSome dictionary (self.imageUrl.map .string) "image_url"
  let dictionary := updateIfSome dictionary (self.url.map .string) "url"
  let dictionary := updateIfSome dictionary (self.slug.map .string) "slug"
  dictionary

def ScheduledShow.dictionaryRepresentation {slot : Slot} (self : ScheduledShow slot) :
    List (String × JSON NSNumber) :=
  let dictionary := []
  let dictionary := updateValue dictionary (.bool self.split) "split"
  let dictionary := updateIfSome dictionary (self.date.map .string) "date"
  let dictionary := updateIfSome dictionary (self.day.map .string) "day"
  let dictionary := updateValue dictionary (.bool self.encore) "encore"
  let dictionary := updateIfSome dictionary (self.start.map .string) "start"
  let dictionary := updateIfSome dictionary (self.end_.map .string) "end"
  let dictionary := updateValue dictionary (.bool self.override) "override"
  let dictionary := updateIfSome dictionary
    (self.show_.map fun x => .dictionary x.dictionaryRepresentation) "show"
  dictionary

def SongBroadcast.dictionaryRepresentation (self : SongBroadcast) : List (String × JSON NSNumber) :=
  let dictionary := []
  let dictionary := updateIfSome dictionary
    (self.currentShow.map fun x => .dictionary x.dictionaryRepresentation) "current_show"
  let dictionary := updateValue dictionary (.bool self.currentPlaylist) "current_playlist"
  let dictionary := updateIfSome dictionary
    (self.nextShow.map fun x => .dictionary x.dictionaryRepresentation) "next_show"
  dictionary

def SongBaseClass.dictionaryRepresentation (self : SongBaseClass) : List (String × JSON NSNumber) :=
  let dictionary := []
  let dictionary := updateIfSome dictionary (self.timezone.map .string) "timezone"
  let dictionary := updateIfSome dictionary (self.dateTime.map .string) "date_time"
  let dictionary := updateIfSome dictionary
    (self.broadcast.map fun x => .dictionary x.dictionaryRepresentation) "broadcast"
  let dictionary := updateValue dictionary (.bool self.success) "success"
  let dictionary := updateIfSome dictionary (self.scheduleUrl.map .string) "schedule_url"
  let dictionary := updateIfSome dictionary
    (self.endpoints.map fun x => .dictionary x.dictionaryRepresentation) "endpoints"
  let dictionary := updateIfSome dictionary (self.timestamp.map .string) "timestamp"
  let dictionary := updateIfSome dictionary (self.streamUrl.map .string) "stream_url"
  let dictionary := updateIfSome dictionary (self.stationUrl.map .string) "station_url"
  let dictionary := updateIfSome dictionary (self.language.map .string) "language"
  let dictionary := updateIfSome dictionary (self.updated.map .string) "updated"
  dictionary

/-! ## Reading what was written -/

variable (NSNumber)

theorem SongShow.init_of_dictionary (x : SongShow) :
    SongShow.init (.dictionary x.dictionaryRepresentation : JSON NSNumber) = x := by
  simp [SongShow.init, SongShow.dictionaryRepresentation, lookup_updateIfSome]

omit [Foundation NSNumber] in
theorem SongEndpoints.init_of_dictionary (x : SongEndpoints) :
    SongEndpoints.init (.dictionary x.dictionaryRepresentation : JSON NSNumber) = x := by
  simp [SongEndpoints.init, SongEndpoints.dictionaryRepresentation, lookup_updateIfSome]

/-- A show that has none written in it would read one without contents. -/
theorem ScheduledShow.init_of_dictionary {slot : Slot} {x : ScheduledShow slot} {show_ : SongShow}
    (set : x.show_ = some show_) :
    ScheduledShow.init (.dictionary x.dictionaryRepresentation : JSON NSNumber) = x := by
  obtain ⟨split, date, day, encore, start, end_, override, _⟩ := x
  obtain rfl : _ = some show_ := set
  simp [ScheduledShow.init, ScheduledShow.dictionaryRepresentation, lookup_updateIfSome,
    lookup_updateValue, SongShow.init_of_dictionary]

/-- The shows of a broadcast are read, and have their own shows read. -/
theorem SongBroadcast.init_of_dictionary {x : SongBroadcast} {currentShow : SongCurrentShow}
    {nextShow : SongNextShow} {show_ show' : SongShow}
    (setCurrent : x.currentShow = some currentShow) (current : currentShow.show_ = some show_)
    (setNext : x.nextShow = some nextShow) (next : nextShow.show_ = some show') :
    SongBroadcast.init (.dictionary x.dictionaryRepresentation : JSON NSNumber) = x := by
  obtain ⟨_, currentPlaylist, _⟩ := x
  obtain rfl : _ = some currentShow := setCurrent
  obtain rfl : _ = some nextShow := setNext
  simp [SongBroadcast.init, SongBroadcast.dictionaryRepresentation, lookup_updateIfSome,
    lookup_updateValue, ScheduledShow.init_of_dictionary NSNumber current,
    ScheduledShow.init_of_dictionary NSNumber next]

/-- Reading sets every nested object, so what was read from any JSON value is read again from the
dictionary written of it, in every field at every level, and written as the same dictionary. -/
theorem SongBaseClass.init_dictionaryRepresentation (json : JSON NSNumber) :
    let x := SongBaseClass.init json
    let again := SongBaseClass.init (.dictionary x.dictionaryRepresentation : JSON NSNumber)
    again = x ∧ (again.dictionaryRepresentation : List (String × JSON NSNumber)) =
      x.dictionaryRepresentation := by
  intro x again
  have broadcast := SongBroadcast.init_of_dictionary NSNumber
    (x := SongBroadcast.init (json.subscript "broadcast")) rfl rfl rfl rfl
  have same : again = x := by
    simp only [again, SongBaseClass.init, SongBaseClass.dictionaryRepresentation]
    simp [x, SongBaseClass.init, lookup_updateIfSome, lookup_updateValue, broadcast,
      SongEndpoints.init_of_dictionary]
  exact ⟨same, by rw [same]⟩

/-- A Boolean is coerced once, when it is read first. -/
example : (SongBaseClass.init (.dictionary [("success", .number 2)] : JSON Int64)).success ∧
    (SongShow.init (.dictionary [("id", .bool true)] : JSON Int64)).internalIdentifier =
      some 1 := by
  decide

end RockRadio
