import Mathlib.Data.UInt
import Mathlib.Data.List.Basic

/-!
Strings of UTF-16 code units, and their bytes in UTF-8.

A string may hold surrogates that are no pair; each of them is written as the replacement character.

* `utf8`: the bytes of a string.
* `length_utf8_eq_iff`: a string has as many bytes as units where it is ASCII.
* `utf8_inj`: ASCII strings have bytes of their own.
-/

namespace Utf16

/-- The units of a string. -/
abbrev Text := List UInt16

def isHigh (u : UInt16) : Bool := 0xD800 ≤ u.toNat ∧ u.toNat < 0xDC00

def isLow (u : UInt16) : Bool := 0xDC00 ≤ u.toNat ∧ u.toNat < 0xE000

def isAscii (u : UInt16) : Bool := u.toNat < 0x80

/-- The bytes of a unit that is in no pair. -/
def single (u : UInt16) : List UInt8 :=
  let c := u.toNat
  if c < 0x80 then [.ofNat c]
  else if c < 0x800 then [.ofNat (0xC0 + c / 64), .ofNat (0x80 + c % 64)]
  else if isHigh u || isLow u then [0xEF, 0xBF, 0xBD]
  else [.ofNat (0xE0 + c / 4096), .ofNat (0x80 + c / 64 % 64), .ofNat (0x80 + c % 64)]

/-- The bytes of a surrogate pair. -/
def pair (high low : UInt16) : List UInt8 :=
  let c := 0x10000 + (high.toNat - 0xD800) * 0x400 + (low.toNat - 0xDC00)
  [.ofNat (0xF0 + c / 262144), .ofNat (0x80 + c / 4096 % 64), .ofNat (0x80 + c / 64 % 64),
    .ofNat (0x80 + c % 64)]

def utf8 : Text → List UInt8
  | [] => []
  | [u] => single u
  | u :: v :: rest =>
      if isHigh u && isLow v then pair u v ++ utf8 rest else single u ++ utf8 (v :: rest)

/-! ### Lengths -/

theorem length_single (u : UInt16) : 1 ≤ (single u).length ∧ ((single u).length = 1 ↔ isAscii u = true) := by
  unfold single isAscii
  dsimp only
  split
  · simp [*]
  · split
    · simp [*]
    · split <;> simp [*]

theorem not_isHigh_of_isAscii {u : UInt16} (ascii : isAscii u = true) : isHigh u = false := by
  simp only [isAscii, isHigh, decide_eq_true_eq, decide_eq_false_iff_not] at *
  omega

theorem length_le_utf8 (text : Text) :
    text.length ≤ (utf8 text).length ∧ ((utf8 text).length = text.length ↔ ∀ u ∈ text, isAscii u = true) := by
  induction text using utf8.induct with
  | case1 => simp [utf8]
  | case2 u =>
      have own := length_single u
      simpa [utf8] using own
  | case3 u v rest pairs ih =>
      have high : isHigh u = true := (Bool.and_eq_true_iff.mp pairs).1
      rw [utf8, if_pos pairs]
      constructor
      · simp only [List.length_append, List.length_cons, pair, List.length_nil]
        omega
      · simp only [List.length_append, List.length_cons, pair, List.length_nil]
        constructor
        · intro same
          omega
        · intro ascii
          have low := not_isHigh_of_isAscii (ascii u List.mem_cons_self)
          rw [high] at low
          cases low
  | case4 u v rest single_ ih =>
      have own := length_single u
      rw [utf8, if_neg single_, List.length_append, List.length_cons (a := u)]
      constructor
      · omega
      · rw [List.forall_mem_cons, ← own.2, ← ih.2]
        omega

theorem length_utf8_eq_iff {text : Text} :
    (utf8 text).length = text.length ↔ ∀ u ∈ text, isAscii u = true :=
  (length_le_utf8 text).2

/-- The bytes of an ASCII string are its units. -/
theorem utf8_ascii {text : Text} (ascii : ∀ u ∈ text, isAscii u = true) :
    utf8 text = text.map fun u => .ofNat u.toNat := by
  induction text using utf8.induct with
  | case1 => rfl
  | case2 u =>
      have own := ascii u List.mem_cons_self
      simp_all [utf8, single, isAscii]
  | case3 u v rest pairs ih =>
      have low := not_isHigh_of_isAscii (ascii u List.mem_cons_self)
      simp [low] at pairs
  | case4 u v rest single_ ih =>
      have own := ascii u List.mem_cons_self
      rw [utf8, if_neg single_, ih fun w mem => ascii w (List.mem_cons_of_mem _ mem)]
      simp_all [single, isAscii]

/-- ASCII strings have bytes of their own. -/
theorem utf8_inj {text text' : Text} (ascii : ∀ u ∈ text, isAscii u = true)
    (ascii' : ∀ u ∈ text', isAscii u = true) : utf8 text = utf8 text' ↔ text = text' := by
  have back : ∀ t : Text, (∀ u ∈ t, isAscii u = true) →
      (t.map fun u => UInt8.ofNat u.toNat).map (fun b => UInt16.ofNat b.toNat) = t := by
    intro t ascii
    rw [List.map_map]
    calc t.map _ = t.map id := List.map_congr_left fun u mem => by
          have small := of_decide_eq_true (ascii u mem)
          simp only [Function.comp_apply, UInt8.toNat_ofNat', id_eq]
          rw [Nat.mod_eq_of_lt (by omega), UInt16.ofNat_toNat]
      _ = t := List.map_id t
  constructor
  · intro same
    rw [utf8_ascii ascii, utf8_ascii ascii'] at same
    rw [← back text ascii, ← back text' ascii', same]
  · exact congrArg utf8

end Utf16
