import Mathlib.Data.List.Basic
import Mathlib.Data.List.TakeWhile

/-!
# Percent encoding

A character outside an allowed set is written as its UTF-8 bytes, each as `%` and two hexadecimal
digits. Decoding reads bytes, escaped or not, and then characters; it fails on an escape that is
not complete, and on bytes that are no characters.

## Main definitions

* `PercentEncoding.encode`, `PercentEncoding.decode`

## Main results

* `PercentEncoding.decode_encode` — where `%` itself is escaped, decoding gives the text back.
* `PercentEncoding.decode_takeWhile_iff`, `PercentEncoding.decode_takeWhile_encode_iff` — what a
  text, or an encoded text, read up to the first delimiter gives back.
-/

namespace PercentEncoding

/-- The UTF-8 encoding. -/
def bytes (cs : List Char) : List UInt8 := cs.flatMap String.utf8EncodeChar

def hexDigit (n : ℕ) : Char := (Nat.digitChar n).toUpper

def hexValue (c : Char) : Option ℕ :=
  if '0' ≤ c ∧ c ≤ '9' then some (c.toNat - '0'.toNat)
  else if 'A' ≤ c ∧ c ≤ 'F' then some (c.toNat - 'A'.toNat + 10)
  else if 'a' ≤ c ∧ c ≤ 'f' then some (c.toNat - 'a'.toNat + 10)
  else none

def escape (b : UInt8) : List Char := ['%', hexDigit (b.toNat / 16), hexDigit (b.toNat % 16)]

def encode (allowed : Char → Bool) (cs : List Char) : List Char :=
  cs.flatMap fun c => if allowed c then [c] else (String.utf8EncodeChar c).flatMap escape

def decodeBytes : List Char → Option (List UInt8)
  | [] => some []
  | '%' :: high :: low :: cs => do
    let high ← hexValue high
    let low ← hexValue low
    let rest ← decodeBytes cs
    return UInt8.ofNat (16 * high + low) :: rest
  | '%' :: _ => none
  | c :: cs => (decodeBytes cs).map (String.utf8EncodeChar c ++ ·)

def decode (cs : List Char) : Option (List Char) :=
  (decodeBytes cs).bind fun bs => bs.toByteArray.utf8Decode?.map (·.toList)

variable {cs ds : List Char} {c d : Char} {allowed : Char → Bool}

@[simp] theorem bytes_nil : bytes [] = [] := rfl

@[simp] theorem bytes_cons : bytes (c :: cs) = String.utf8EncodeChar c ++ bytes cs := rfl

@[simp] theorem bytes_append : bytes (cs ++ ds) = bytes cs ++ bytes ds := by
  simp [bytes]

theorem bytes_eq_nil : bytes cs = [] ↔ cs = [] := by
  cases cs with
  | nil => simp
  | cons c cs => simp [String.utf8EncodeChar_ne_nil]

/-- Decoding is reading the bytes of the text it gives. -/
theorem decode_eq_some_iff : decode cs = some ds ↔ decodeBytes cs = some (bytes ds) := by
  unfold decode
  cases decodeBytes cs with
  | none => simp
  | some bs =>
    simp only [Option.bind_some, Option.map_eq_some_iff, Option.some.injEq]
    constructor
    · rintro ⟨array, decoded, rfl⟩
      have valid : bs.toByteArray.utf8Decode?.isSome = true := by simp [decoded]
      have encoded := ByteArray.utf8Encode_get_utf8Decode? (h := valid)
      simp only [decoded, Option.get_some] at encoded
      exact (List.toByteArray_inj.mp encoded).symm
    · rintro rfl
      exact ⟨ds.toArray, List.utf8Decode?_utf8Encode, by simp⟩

/-! ## Decoding what was encoded -/

theorem hexValue_hexDigit {n : ℕ} (h : n < 16) : hexValue (hexDigit n) = some n := by
  have all : ∀ n < 16, hexValue (hexDigit n) = some n := by decide
  exact all n h

theorem decodeBytes_escape_append (b : UInt8) (cs : List Char) :
    decodeBytes (escape b ++ cs) = (decodeBytes cs).map (b :: ·) := by
  have bound : b.toNat < 256 := b.toNat_lt
  have high := hexValue_hexDigit (n := b.toNat / 16) (by omega)
  have low := hexValue_hexDigit (n := b.toNat % 16) (by omega)
  have whole : UInt8.ofNat (16 * (b.toNat / 16) + b.toNat % 16) = b := by
    rw [Nat.div_add_mod, UInt8.ofNat_toNat]
  simp only [escape, List.cons_append, List.nil_append, decodeBytes, high, low, Option.bind_eq_bind,
    Option.bind_some, whole]
  cases decodeBytes cs <;> rfl

theorem decodeBytes_flatMap_escape_append (bs : List UInt8) (cs : List Char) :
    decodeBytes (bs.flatMap escape ++ cs) = (decodeBytes cs).map (bs ++ ·) := by
  induction bs with
  | nil => simp
  | cons b bs ih =>
    rw [List.flatMap_cons, List.append_assoc, decodeBytes_escape_append, ih, Option.map_map]
    rfl

theorem decodeBytes_cons (plain : c ≠ '%') (cs : List Char) :
    decodeBytes (c :: cs) = (decodeBytes cs).map (String.utf8EncodeChar c ++ ·) := by
  rw [decodeBytes]
  all_goals simp_all

/-- Text without escapes stands for itself. -/
theorem decode_of_plain (plain : '%' ∉ cs) : decode cs = some cs := by
  rw [decode_eq_some_iff]
  induction cs with
  | nil => rfl
  | cons c cs ih =>
    rw [List.mem_cons, not_or] at plain
    rw [decodeBytes_cons (Ne.symm plain.1), ih plain.2]
    rfl

theorem encode_append (cs ds : List Char) :
    encode allowed (cs ++ ds) = encode allowed cs ++ encode allowed ds :=
  List.flatMap_append

theorem encode_of_allowed (h : ∀ c ∈ cs, allowed c = true) : encode allowed cs = cs := by
  induction cs with
  | nil => rfl
  | cons c cs ih =>
    rw [List.forall_mem_cons] at h
    rw [encode, List.flatMap_cons, if_pos h.1, ← encode, ih h.2]
    rfl

/-- Where `%` itself is escaped, decoding gives the text back. -/
theorem decode_encode (escaped : allowed '%' = false) (cs : List Char) :
    decode (encode allowed cs) = some cs := by
  rw [decode_eq_some_iff]
  induction cs with
  | nil => rfl
  | cons c cs ih =>
    rw [encode] at ih
    rw [encode, List.flatMap_cons]
    split
    · rename_i hc
      have plain : c ≠ '%' := by
        rintro rfl
        simp [escaped] at hc
      rw [List.singleton_append, decodeBytes_cons plain, ih]
      rfl
    · rw [decodeBytes_flatMap_escape_append, ih]
      rfl

/-! ## Reading up to a delimiter -/

theorem takeWhile_eq_self_iff : cs.takeWhile (· ≠ d) = cs ↔ d ∉ cs := by
  rw [List.takeWhile_eq_self_iff]
  constructor
  · intro h mem
    simpa using h d mem
  · intro h c mem
    rw [decide_eq_true_iff]
    rintro rfl
    exact h mem

/-- Reading up to a delimiter begins with what is free of it. -/
theorem takeWhile_append_of_not_mem (plain : d ∉ cs) (ds : List Char) :
    (cs ++ ds).takeWhile (· ≠ d) = cs ++ ds.takeWhile (· ≠ d) := by
  rw [List.takeWhile_append, takeWhile_eq_self_iff.mpr plain, if_pos rfl]

/-- Reading up to a delimiter does not see what comes after one. -/
theorem takeWhile_append_cons (cs ds : List Char) :
    (cs ++ d :: ds).takeWhile (· ≠ d) = cs.takeWhile (· ≠ d) := by
  induction cs with
  | nil => simp
  | cons c cs ih =>
    by_cases same : c = d
    · simp [same]
    · simpa [List.takeWhile_cons, same] using ih

theorem dropWhile_append_cons (plain : d ∉ cs) (ds : List Char) :
    (cs ++ d :: ds).dropWhile (· ≠ d) = d :: ds := by
  induction cs with
  | nil => simp
  | cons c cs ih =>
    rw [List.mem_cons, not_or] at plain
    simpa [Ne.symm plain.1] using ih plain.2

/-- Decoding makes no text longer, and a text with escapes shorter. -/
theorem length_bytes_lt {bs : List UInt8} (h : decodeBytes cs = some bs) :
    bs.length + (if '%' ∈ cs then 1 else 0) ≤ (bytes cs).length := by
  induction cs using decodeBytes.induct generalizing bs with
  | case1 => cases h; simp
  | case2 high low cs ih =>
    simp only [decodeBytes, Option.bind_eq_bind, Option.bind_eq_some_iff] at h
    obtain ⟨_, _, _, _, rest, hRest, same⟩ := h
    cases same
    have shorter := ih hRest
    have escape : 3 ≤ (bytes ['%', high, low]).length := by
      have h := high.utf8Size_pos
      have l := low.utf8Size_pos
      have p : '%'.utf8Size = 1 := rfl
      simp [bytes, String.length_utf8EncodeChar]
      omega
    have split : bytes ('%' :: high :: low :: cs) = bytes ['%', high, low] ++ bytes cs := by
      simp [bytes]
    rw [split, List.length_append]
    simp only [List.length_cons, List.mem_cons, true_or, if_true]
    omega
  | case3 cs short => simp [decodeBytes] at h
  | case4 c cs _ plain ih =>
    rw [decodeBytes_cons plain, Option.map_eq_some_iff] at h
    obtain ⟨rest, hRest, rfl⟩ := h
    have shorter := ih hRest
    simp only [bytes_cons, List.length_append, List.mem_cons, Ne.symm plain, false_or]
    omega

/-- Text read up to a delimiter gives the whole text exactly when neither the delimiter nor an
escape is in it. -/
theorem decode_takeWhile_iff : decode (cs.takeWhile (· ≠ d)) = some cs ↔ d ∉ cs ∧ '%' ∉ cs := by
  constructor
  · intro h
    have shorter := length_bytes_lt (decode_eq_some_iff.mp h)
    have parts := List.takeWhile_append_dropWhile (p := (· ≠ d)) (l := cs)
    have split := congrArg (fun cs => (bytes cs).length) parts
    simp only [bytes_append, List.length_append] at split
    have rest : cs.dropWhile (· ≠ d) = [] := by
      rw [← bytes_eq_nil, ← List.length_eq_zero_iff]
      omega
    rw [rest, List.append_nil] at parts
    rw [parts] at shorter
    refine ⟨takeWhile_eq_self_iff.mp parts, fun mem => ?_⟩
    simp only [mem, if_true] at shorter
    omega
  · rintro ⟨whole, plain⟩
    rw [takeWhile_eq_self_iff.mpr whole, decode_of_plain plain]

/-- Escapes are made of `%` and digits. -/
theorem not_mem_flatMap_escape (percent : d ≠ '%') (digit : hexValue d = none) (bs : List UInt8) :
    d ∉ bs.flatMap escape := by
  have digits {n : ℕ} (h : n < 16) : d ≠ hexDigit n := by
    rintro rfl
    simp [hexValue_hexDigit h] at digit
  intro mem
  obtain ⟨b, _, mem⟩ := List.mem_flatMap.mp mem
  have bound : b.toNat < 256 := b.toNat_lt
  simp only [escape, List.mem_cons, List.not_mem_nil, or_false] at mem
  rcases mem with mem | mem | mem
  · exact percent mem
  · exact digits (by omega) mem
  · exact digits (by omega) mem

/-- A delimiter that is escaped does not occur in encoded text. -/
theorem not_mem_encode (hd : allowed d = false) (percent : d ≠ '%') (digit : hexValue d = none)
    (cs : List Char) : d ∉ encode allowed cs := by
  intro mem
  obtain ⟨c, _, mem⟩ := List.mem_flatMap.mp mem
  split at mem
  · rename_i hc
    rw [List.mem_singleton.mp mem] at hd
    exact absurd hc (by simp [hd])
  · exact not_mem_flatMap_escape percent digit _ mem

section
variable (hd : allowed d = true) (percent : d ≠ '%') (digit : hexValue d = none)
include hd percent digit

/-- Of the characters, only an allowed delimiter is written as the delimiter. -/
theorem mem_encodeChar_iff :
    d ∈ (if allowed c then [c] else (String.utf8EncodeChar c).flatMap escape) ↔ c = d := by
  split
  · simp [eq_comm]
  · rename_i hc
    refine iff_of_false (not_mem_flatMap_escape percent digit _) ?_
    rintro rfl
    exact hc hd

theorem mem_encode_iff : d ∈ encode allowed cs ↔ d ∈ cs := by
  simp only [encode, List.mem_flatMap, mem_encodeChar_iff hd percent digit]
  simp

/-- Encoding does not touch an allowed delimiter, and brings no new ones. -/
theorem takeWhile_encode (cs : List Char) :
    (encode allowed cs).takeWhile (· ≠ d) = encode allowed (cs.takeWhile (· ≠ d)) := by
  induction cs with
  | nil => rfl
  | cons c cs ih =>
    by_cases same : c = d
    · subst same
      simp [encode, hd]
    · have chunk : d ∉ (if allowed c then [c] else (String.utf8EncodeChar c).flatMap escape) :=
        fun mem => same ((mem_encodeChar_iff hd percent digit).mp mem)
      rw [List.takeWhile_cons_of_pos (by simpa using same), encode, List.flatMap_cons,
        takeWhile_append_of_not_mem chunk, ← encode, ih]
      rfl

end

/-- Encoded text read up to an allowed delimiter gives the whole text exactly when the delimiter is
not in it. -/
theorem decode_takeWhile_encode_iff (hd : allowed d = true) (escaped : allowed '%' = false)
    (digit : hexValue d = none) :
    decode ((encode allowed cs).takeWhile (· ≠ d)) = some cs ↔ d ∉ cs := by
  have percent : d ≠ '%' := by
    rintro rfl
    simp [escaped] at hd
  rw [takeWhile_encode hd percent digit, decode_encode escaped, Option.some.injEq,
    takeWhile_eq_self_iff]

end PercentEncoding
