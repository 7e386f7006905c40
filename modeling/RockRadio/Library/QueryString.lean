import RockRadio.Library.PercentEncoding

/-!
# Query strings

The part of an address after the first `?` is a list of fields separated by `&`, each a name and a
value separated by the first `=`, both percent-encoded. A writer that puts a text into a field
without escaping its delimiters does not get it back: how much of it is read is a question about
the first delimiter in it.

## Main definitions

* `QueryString.items` — the fields of a query, decoded.
* `QueryString.Field`, `QueryString.join` — fields to be written, with what they are to say.

## Main results

* `QueryString.items_join_iff` — a query reads as its fields say exactly when each of them, read up
  to the first delimiter, does.
* `QueryString.items_write` — a query whose delimiters are escaped reads back.
-/

namespace QueryString

open PercentEncoding

/-- What comes before the first `?`. -/
def path (cs : List Char) : List Char := cs.takeWhile (· ≠ '?')

/-- What comes after the first `?`. -/
def query (cs : List Char) : List Char := (cs.dropWhile (· ≠ '?')).drop 1

/-- The name and the value of a field, decoded. -/
def item (field : List Char) : Option (List Char × List Char) := do
  let name ← decode (field.takeWhile (· ≠ '='))
  let value ← decode ((field.dropWhile (· ≠ '=')).drop 1)
  return (name, value)

def items (query : List Char) : Option (List (List Char × List Char)) :=
  (query.splitOn '&').mapM item

variable {cs ds field rest : List Char}

theorem path_append (cs ds : List Char) : path (cs ++ '?' :: ds) = path cs :=
  takeWhile_append_cons cs ds

theorem query_append (plain : '?' ∉ cs) (ds : List Char) : query (cs ++ '?' :: ds) = ds := by
  rw [query, dropWhile_append_cons plain]
  rfl

theorem items_of_one (single : '&' ∉ field) : items field = (item field).map ([·]) := by
  rw [items, List.splitOn_eq_singleton single]
  cases h : item field <;> simp [h]

theorem items_append (first : '&' ∉ field) (rest : List Char) :
    items (field ++ '&' :: rest) = do return (← item field) :: (← items rest) := by
  rw [items, List.splitOn_append_cons_self_of_not_mem first, List.mapM_cons]
  rfl

/-- The first field ends at the first delimiter. -/
theorem item_of_items {i : List Char × List Char} {is : List (List Char × List Char)}
    (h : items cs = some (i :: is)) : item (cs.takeWhile (· ≠ '&')) = some i := by
  by_cases several : '&' ∈ cs
  · obtain ⟨field, rest, rfl, first⟩ := List.eq_append_cons_of_mem several
    rw [items_append first] at h
    rw [takeWhile_append_cons, takeWhile_eq_self_iff.mpr first]
    cases hi : item field with
    | none => simp [hi] at h
    | some i' =>
      simp only [hi, Option.bind_eq_bind, Option.bind_some, Option.bind_eq_some_iff] at h
      obtain ⟨_, _, same⟩ := h
      cases same
      rfl
  · rw [items_of_one several, Option.map_eq_some_iff] at h
    obtain ⟨_, hi, same⟩ := h
    cases same
    rw [takeWhile_eq_self_iff.mpr several, hi]

/-! ## Writing fields -/

/-- A field as it is written, and the value it is to say. -/
structure Field where
  name : List Char
  raw : List Char
  value : List Char

namespace Field

variable (f : Field)

def text : List Char := f.name ++ '=' :: f.raw

def said : List Char × List Char := (f.name, f.value)

/-- Up to the first delimiter, the field reads as what it is to say. -/
def Reads : Prop := decode (f.raw.takeWhile (· ≠ '&')) = some f.value

/-- The name stands for itself, and a value with a delimiter in it does not read as it should. -/
structure Fit : Prop where
  name : '&' ∉ f.name ∧ '=' ∉ f.name ∧ '%' ∉ f.name
  whole : f.Reads → '&' ∉ f.raw

variable {f} (fit : f.Fit)
include fit

theorem Fit.item_eq (raw : List Char) :
    item (f.name ++ '=' :: raw) = (decode raw).map fun value => (f.name, value) := by
  obtain ⟨_, equals, percent⟩ := fit.name
  rw [item, takeWhile_append_cons, takeWhile_eq_self_iff.mpr equals, dropWhile_append_cons equals,
    decode_of_plain percent]
  cases h : decode raw <;> simp [h]

theorem Fit.takeWhile_text :
    f.text.takeWhile (· ≠ '&') = f.name ++ '=' :: f.raw.takeWhile (· ≠ '&') := by
  rw [text, takeWhile_append_of_not_mem fit.name.1]
  simp

/-- A query can only begin with what the field is to say if the field reads so. -/
theorem Fit.reads_of_item (h : item (f.text.takeWhile (· ≠ '&')) = some f.said) : f.Reads := by
  rw [fit.takeWhile_text, fit.item_eq, Option.map_eq_some_iff] at h
  obtain ⟨value, decoded, same⟩ := h
  cases same
  exact decoded

theorem Fit.not_mem_text (reads : f.Reads) : '&' ∉ f.text := by
  simp [text, fit.name.1, fit.whole reads]

theorem Fit.item_text (reads : f.Reads) : item f.text = some f.said := by
  have whole := takeWhile_eq_self_iff.mpr (fit.whole reads)
  rw [Reads, whole] at reads
  rw [text, fit.item_eq, reads]
  rfl

omit fit

variable {name value : List Char} {allowed : Char → Bool}

/-- A field with a value that is not encoded. -/
def plain (name value : List Char) : Field := ⟨name, value, value⟩

/-- A field with an encoded value. -/
def encoded (allowed : Char → Bool) (name value : List Char) : Field :=
  ⟨name, encode allowed value, value⟩

theorem reads_plain_iff : (plain name value).Reads ↔ '&' ∉ value ∧ '%' ∉ value :=
  decode_takeWhile_iff

theorem reads_encoded_iff (hd : allowed '&' = true) (escaped : allowed '%' = false) :
    (encoded allowed name value).Reads ↔ '&' ∉ value :=
  decode_takeWhile_encode_iff hd escaped rfl

theorem fit_plain (h : '&' ∉ name ∧ '=' ∉ name ∧ '%' ∉ name) : (plain name value).Fit :=
  ⟨h, fun reads => (reads_plain_iff.mp reads).1⟩

theorem fit_encoded (h : '&' ∉ name ∧ '=' ∉ name ∧ '%' ∉ name) (hd : allowed '&' = true)
    (escaped : allowed '%' = false) : (encoded allowed name value).Fit := by
  refine ⟨h, fun reads mem => (reads_encoded_iff hd escaped).mp reads ?_⟩
  exact (mem_encode_iff hd (by decide) rfl).mp mem

end Field

def join : List Field → List Char
  | [] => []
  | [f] => f.text
  | f :: g :: fs => f.text ++ '&' :: join (g :: fs)

/-- A query reads as its fields say exactly when each of them does, and says nothing more. -/
theorem items_join_iff {fs : List Field} (some_ : fs ≠ []) (fit : ∀ f ∈ fs, f.Fit)
    (more : List (List Char × List Char)) :
    items (join fs) = some (fs.map Field.said ++ more) ↔ (∀ f ∈ fs, f.Reads) ∧ more = [] := by
  induction fs using join.induct with
  | case1 => exact absurd rfl some_
  | case2 f =>
    have fit := fit f (List.mem_singleton.mpr rfl)
    simp only [join, List.map_singleton, List.singleton_append, List.mem_singleton, forall_eq]
    by_cases reads : f.Reads
    · rw [items_of_one (fit.not_mem_text reads), fit.item_text reads]
      simp [reads, eq_comm]
    · exact iff_of_false (fun h => reads (fit.reads_of_item (item_of_items h))) (fun h => reads h.1)
  | case3 f g fs ih =>
    have rest := ih (List.cons_ne_nil g fs) fun f' mem => fit f' (List.mem_cons_of_mem f mem)
    have fit := fit f List.mem_cons_self
    rw [join, List.map_cons, List.cons_append, List.forall_mem_cons]
    by_cases reads : f.Reads
    · rw [items_append (fit.not_mem_text reads), fit.item_text reads, and_iff_right reads, ← rest]
      cases items (join (g :: fs)) <;> simp
    · refine iff_of_false (fun h => reads ?_) (fun h => reads h.1.1)
      have first := item_of_items h
      rw [takeWhile_append_cons] at first
      exact fit.reads_of_item first

/-! ## Writing what reads back -/

/-- The items as a query, with their names and values encoded. -/
def write (allowed : Char → Bool) (is : List (List Char × List Char)) : List Char :=
  ['&'].intercalate (is.map fun i => encode allowed i.1 ++ '=' :: encode allowed i.2)

section
variable {allowed : Char → Bool} (ampersand : allowed '&' = false) (equals : allowed '=' = false)
variable (percent : allowed '%' = false)
include equals percent

theorem item_write (name value : List Char) :
    item (encode allowed name ++ '=' :: encode allowed value) = some (name, value) := by
  have plain : '=' ∉ encode allowed name := not_mem_encode equals (by decide) rfl name
  rw [item, takeWhile_append_cons, takeWhile_eq_self_iff.mpr plain, dropWhile_append_cons plain,
    decode_encode percent, List.drop_one, List.tail_cons, decode_encode percent]
  rfl

include ampersand

/-- Where the delimiters are escaped, any items read back. -/
theorem items_write {is : List (List Char × List Char)} (some_ : is ≠ []) :
    items (write allowed is) = some is := by
  have plain (cs : List Char) : '&' ∉ encode allowed cs :=
    not_mem_encode ampersand (by decide) rfl cs
  have split : (write allowed is).splitOn '&' =
      is.map fun i => encode allowed i.1 ++ '=' :: encode allowed i.2 := by
    refine List.splitOn_intercalate _ ?_ (by simpa using some_)
    rw [List.forall_mem_map]
    intro i _
    simp [plain]
  rw [items, split, List.mapM_map]
  simp only [Function.comp_def, item_write equals percent]
  exact List.mapM_pure.trans (congrArg some (List.map_id is))

end

end QueryString
