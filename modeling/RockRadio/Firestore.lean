import Mathlib.Data.List.Sort
import Mathlib.Data.Prod.Lex
import Mathlib.Data.Rat.Defs
import Mathlib.Algebra.Order.Ring.Rat
import Mathlib.Data.String.Basic
import Mathlib.Order.WithBot

/-!
# Documents and queries

The app reads its configuration from Firestore documents: untyped maps from field names to values
that it inspects with `as? Bool` and `as? String`. A collection is held in document-id order, which
is the order of a plain query; a query ordered by a field keeps the documents that have the field
and sorts them by it.
-/

namespace RockRadio

/-- The types of values that none of the app's casts accepts. -/
inductive FieldKind where
  | timestamp | bytes | reference | geoPoint | array | map
  deriving DecidableEq, Repr

/-- A Firestore value. For the types no cast accepts, only the place of the value in Firestore's
order of that type is kept. -/
inductive FieldValue where
  | null
  | boolean (b : Bool)
  | number (x : ℚ)
  | string (s : String)
  | other (kind : FieldKind) (position : ℕ)
  deriving DecidableEq, Repr

namespace FieldValue

/-- `as? Bool`: a Boolean, or an `NSNumber` that is exactly 0 or 1. -/
def asBool : FieldValue → Option Bool
  | .boolean b => some b
  | .number x => if x = 0 then some false else if x = 1 then some true else none
  | _ => none

/-- `as? String` -/
def asString : FieldValue → Option String
  | .string s => some s
  | _ => none

/-- Firestore orders values by their type first. -/
def rank : FieldValue → ℕ
  | .null => 0
  | .boolean _ => 1
  | .number _ => 2
  | .other .timestamp _ => 3
  | .string _ => 4
  | .other .bytes _ => 5
  | .other .reference _ => 6
  | .other .geoPoint _ => 7
  | .other .array _ => 8
  | .other .map _ => 9

/-- Within a type, by number or by text. -/
def key (v : FieldValue) : ℕ ×ₗ ℚ ×ₗ String :=
  match v with
  | .null => toLex (v.rank, toLex (0, ""))
  | .boolean b => toLex (v.rank, toLex (if b then 1 else 0, ""))
  | .number x => toLex (v.rank, toLex (x, ""))
  | .string s => toLex (v.rank, toLex (0, s))
  | .other _ position => toLex (v.rank, toLex ((position : ℚ), ""))

end FieldValue

/-- `[String : Any]` -/
abbrev Fields := List (String × FieldValue)

namespace Fields

/-- `data[name]` -/
def get (data : Fields) (name : String) : Option FieldValue := data.lookup name

/-- `data[name] as? Bool` -/
def bool (data : Fields) (name : String) : Option Bool := (data.get name).bind (·.asBool)

/-- `data[name] as? String` -/
def string (data : Fields) (name : String) : Option String := (data.get name).bind (·.asString)

end Fields

/-- A document of a query snapshot. The app keeps `data` only; the id says which document it was. -/
structure Document where
  id : String
  data : Fields
  deriving DecidableEq, Repr

/-- A collection, in the order of the document ids, which are distinct. -/
structure Collection where
  documents : List Document
  ordered : documents.Pairwise fun d e => d.id < e.id

namespace Collection

variable (c : Collection)

/-- `getDocuments` on the plain collection. -/
def getDocuments : List Document := c.documents

/-- What a query ordered by `field` sorts by. A missing field would sort first, but the query
leaves such documents out. -/
def sortKey (field : String) (d : Document) : WithBot (ℕ ×ₗ ℚ ×ₗ String) :=
  match d.data.get field with
  | some v => v.key
  | none => ⊥

/-- `order(by: field, descending: false).getDocuments`: ties stay in document-id order. -/
def orderedBy (field : String) : List Document :=
  (c.documents.filter fun d => (d.data.get field).isSome).insertionSort
    fun d e => sortKey field d ≤ sortKey field e

variable {c}

@[simp] theorem mem_orderedBy {field : String} {d : Document} :
    d ∈ c.orderedBy field ↔ d ∈ c.getDocuments ∧ (d.data.get field).isSome := by
  simp [orderedBy, getDocuments]

theorem nodup_getDocuments : c.getDocuments.Nodup :=
  c.ordered.imp fun h => fun same => (same ▸ h).false

theorem nodup_orderedBy {field : String} : (c.orderedBy field).Nodup :=
  (List.perm_insertionSort _ _).nodup_iff.mpr (nodup_getDocuments.filter _)

/-- The ordered query answers in ascending order of the field. -/
theorem pairwise_orderedBy (field : String) :
    (c.orderedBy field).Pairwise fun d e => sortKey field d ≤ sortKey field e :=
  have : Std.Total fun d e => sortKey field d ≤ sortKey field e := ⟨fun _ _ => le_total _ _⟩
  have : IsTrans Document fun d e => sortKey field d ≤ sortKey field e :=
    ⟨fun _ _ _ => le_trans⟩
  List.pairwise_insertionSort _ _

end Collection

end RockRadio
