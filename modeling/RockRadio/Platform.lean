import Mathlib.Data.List.Basic

/-!
# What the code asks of Foundation and UIKit

`URL(string:)` and the questions put to the device stand as a parameter: the code only needs to
know that no address comes out of the empty string. Percent encoding is written out, byte by byte.
Swift's forced unwraps and subscripts may trap.
-/

namespace RockRadio

inductive Trap where
  | unexpectedNil
  | indexOutOfRange
  deriving DecidableEq, Repr

/-- A result of two steps is one of the second, on a result of the first. -/
theorem bind_eq_ok_iff {α β : Type} {x : Except Trap α} {f : α → Except Trap β} {b : β} :
    (x >>= f) = .ok b ↔ ∃ a, x = .ok a ∧ f a = .ok b := by
  constructor
  · intro h
    cases x with
    | error trap => cases h
    | ok a => exact ⟨a, rfl, h⟩
  · rintro ⟨a, rfl, h⟩
    exact h

/-- What comes after a step that cannot trap by itself. -/
theorem bind_pure_error_iff {α β : Type} {x : Except Trap α} {f : α → β} {trap : Trap} :
    (x >>= fun a => pure (f a)) = .error trap ↔ x = .error trap := by
  cases x with
  | error trap' => exact ⟨fun h => by cases h; rfl, fun h => by cases h; rfl⟩
  | ok a => exact iff_of_false nofun nofun

/-- `x!` -/
def unwrap {α : Type} : Option α → Except Trap α
  | some a => .ok a
  | none => .error .unexpectedNil

/-- `xs[i]` -/
def subscript {α : Type} (xs : List α) (i : ℕ) : Except Trap α :=
  match xs[i]? with
  | some a => .ok a
  | none => .error .indexOutOfRange

theorem subscript_of_lt {α : Type} {xs : List α} {i : ℕ} (h : i < xs.length) :
    subscript xs i = .ok xs[i] := by
  simp only [subscript, List.getElem?_eq_getElem h]

theorem subscript_eq_ok_iff {α : Type} {xs : List α} {i : ℕ} {a : α} :
    subscript xs i = .ok a ↔ xs[i]? = some a := by
  simp only [subscript]
  cases xs[i]? with
  | none => exact iff_of_false nofun nofun
  | some b => simp

theorem subscript_error_iff {α : Type} {xs : List α} {i : ℕ} {trap : Trap} :
    subscript xs i = .error trap ↔ xs.length ≤ i ∧ trap = .indexOutOfRange := by
  simp only [subscript]
  cases hi : xs[i]? with
  | none =>
    have outside := List.getElem?_eq_none_iff.mp hi
    exact ⟨fun h => ⟨outside, by cases h; rfl⟩, fun ⟨_, h⟩ => h ▸ rfl⟩
  | some a =>
    have inside := (List.getElem?_eq_some_iff.mp hi).1
    exact iff_of_false nofun fun ⟨outside, _⟩ => by omega

/-- The device the app runs on. -/
structure Platform (URL : Type*) where
  /-- `URL(string:)` -/
  url : String → Option URL
  url_empty : url "" = none
  /-- `UIApplication.shared.canOpenURL` -/
  canOpenURL : URL → Bool
  /-- `MFMailComposeViewController.canSendMail` -/
  canSendMail : Bool

/-- A device that takes every text but the empty one for an address, and opens none. -/
def Platform.text : Platform String where
  url s := if s = "" then none else some s
  url_empty := rfl
  canOpenURL _ := false
  canSendMail := true

/-- `CharacterSet.urlHostAllowed` -/
def urlHostAllowed (c : Char) : Bool :=
  c.isAlphanum || "!$&'()*+,-.:;=[]_~".toList.contains c

/-- `CharacterSet.urlQueryAllowed` -/
def urlQueryAllowed (c : Char) : Bool :=
  c.isAlphanum || "!$&'()*+,-./:;=?@_~".toList.contains c

/-- One byte as `%` and two upper-case hexadecimal digits. -/
def percentByte (b : UInt8) : List Char :=
  ['%', Nat.digitChar (b.toNat / 16) |>.toUpper, Nat.digitChar (b.toNat % 16) |>.toUpper]

/-- `addingPercentEncoding(withAllowedCharacters:)`: the bytes of every character outside the set
are escaped. It fails only on text that is not valid Unicode, which a Swift string never is. -/
def addingPercentEncoding (allowed : Char → Bool) (s : String) : Option String :=
  some (String.ofList (s.toList.flatMap fun c =>
    if allowed c then [c] else (String.utf8EncodeChar c).flatMap percentByte))

end RockRadio
