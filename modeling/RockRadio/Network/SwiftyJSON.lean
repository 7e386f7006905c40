import Mathlib.Data.List.Basic
import RockRadio.Library.Dictionary

/-!
# JSON values

The part of SwiftyJSON that the responses are read with. `NSNumber` and the comparison of strings
stand as a parameter: a number that was made of an integer gives the integer back.
-/

namespace RockRadio

/-- What the code asks of Foundation's numbers and strings. -/
class Foundation (NSNumber : Type) where
  boolValue : NSNumber → Bool
  intValue : NSNumber → Int64
  /-- `NSNumber(value:)` -/
  number : Int64 → NSNumber
  intValue_number (i : Int64) : intValue (number i) = i
  caseInsensitiveCompare : String → String → Ordering

/-- Integers are numbers, of which all but zero count as true. -/
instance : Foundation Int64 where
  boolValue i := i ≠ 0
  intValue i := i
  number i := i
  intValue_number _ := rfl
  caseInsensitiveCompare s t := compare s.toLower t.toLower

/-- A value by the type that `JSON(_:)` finds it to have. A Swift `Bool` is no number to it, and an
`Int` is one. -/
inductive JSON (NSNumber : Type) where
  | null
  | bool (rawBool : Bool)
  | number (rawNumber : NSNumber)
  | string (rawString : String)
  | array (rawArray : List (JSON NSNumber))
  | dictionary (rawDictionary : List (String × JSON NSNumber))

namespace JSON

variable {NSNumber : Type} (json : JSON NSNumber)

/-- `json[key]` -/
def subscript (key : String) : JSON NSNumber :=
  match json with
  | .dictionary rawDictionary => (rawDictionary.lookup key).getD .null
  | _ => .null

/-- `json.string` -/
def string? : Option String :=
  match json with
  | .string rawString => some rawString
  | _ => none

variable [Foundation NSNumber]

def boolValue : Bool :=
  match json with
  | .bool rawBool => rawBool
  | .number rawNumber => Foundation.boolValue rawNumber
  | .string rawString => ["true", "y", "t", "yes", "1"].any fun word =>
      Foundation.caseInsensitiveCompare NSNumber rawString word == .eq
  | _ => false

/-- `json.number` -/
def number? : Option NSNumber :=
  match json with
  | .number rawNumber => some rawNumber
  | .bool rawBool => some (Foundation.number (if rawBool then 1 else 0))
  | _ => none

/-- `json.int` -/
def int? : Option Int64 := json.number?.map Foundation.intValue

/-! ## Reading what was written -/

omit [Foundation NSNumber] in
@[simp] theorem subscript_dictionary (entries : List (String × JSON NSNumber)) (key : String) :
    (dictionary entries).subscript key = (entries.lookup key).getD .null := rfl

@[simp] theorem boolValue_bool (b : Bool) : (bool b : JSON NSNumber).boolValue = b := rfl

omit [Foundation NSNumber] in
/-- A string that may be missing reads back, and so does its absence. -/
@[simp] theorem string?_getD (s : Option String) :
    ((s.map JSON.string).getD (.null : JSON NSNumber)).string? = s := by
  cases s <;> rfl

@[simp] theorem int?_getD (i : Option Int64) :
    ((i.map fun i => JSON.number (Foundation.number i)).getD (.null : JSON NSNumber)).int? = i := by
  cases i with
  | none => rfl
  | some i => exact congrArg some (Foundation.intValue_number i)

end JSON

end RockRadio
