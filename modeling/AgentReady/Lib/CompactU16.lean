import Mathlib.Data.UInt
import Mathlib.Data.Nat.Bitwise
import Mathlib.Tactic.Ring

/-!
Compact-u16: the length format of Solana wire transactions.

A number is written in groups of seven bits, the least first; every byte but the last has its high bit
set. A 16-bit number takes one to three bytes, and only the shortest form of it is well-formed.

* `encode`: the bytes of a number.
* `leading`: the bytes up to the first one without the high bit, of at most so many.
* `leading_encode`, `value_encode`: a number is read back, whatever follows it.
* `shortest_iff`: which bytes are those of a number.
-/

namespace CompactU16

/-- The byte of the low seven bits of a number, with the high bit set. -/
def more (n : Nat) : UInt8 := .ofNat (n % 128 + 128)

def encode (n : UInt16) : List UInt8 :=
  if n.toNat < 0x80 then [.ofNat n.toNat]
  else if n.toNat < 0x4000 then [more n.toNat, .ofNat (n.toNat / 128)]
  else [more n.toNat, more (n.toNat / 128), .ofNat (n.toNat / 16384)]

/-- The number that groups of seven bits stand for. -/
def value : List UInt8 → Nat
  | [] => 0
  | byte :: rest => byte.toNat % 128 + 128 * value rest

/-- The high bit is not set. -/
def isLast (byte : UInt8) : Bool := byte.toNat < 128

/-- The bytes up to the first one without the high bit, of at most `limit`. -/
def leading : (limit : Nat) → List UInt8 → List UInt8
  | limit + 1, byte :: rest => if isLast byte then [byte] else byte :: leading limit rest
  | _, _ => []

/-- The shortest form of a 16-bit number. -/
def Shortest : List UInt8 → Prop
  | [a] => a.toNat < 128
  | [a, b] => 128 ≤ a.toNat ∧ 0 < b.toNat ∧ b.toNat < 128
  | [a, b, c] => 128 ≤ a.toNat ∧ 128 ≤ b.toNat ∧ 0 < c.toNat ∧ c.toNat < 4
  | _ => False

instance : DecidablePred Shortest
  | [] => .isFalse id
  | [a] => inferInstanceAs (Decidable (a.toNat < 128))
  | [a, b] => inferInstanceAs (Decidable (128 ≤ a.toNat ∧ 0 < b.toNat ∧ b.toNat < 128))
  | [a, b, c] =>
      inferInstanceAs (Decidable (128 ≤ a.toNat ∧ 128 ≤ b.toNat ∧ 0 < c.toNat ∧ c.toNat < 4))
  | _ :: _ :: _ :: _ :: _ => .isFalse id

/-! ### Groups -/

@[simp] theorem toNat_more (n : Nat) : (more n).toNat = n % 128 + 128 := by
  simp only [more, UInt8.toNat_ofNat']
  omega

@[simp] theorem isLast_more (n : Nat) : isLast (more n) = false := by
  simp [isLast]

theorem toNat_last {n : Nat} (small : n < 128) : (UInt8.ofNat n).toNat = n := by
  rw [UInt8.toNat_ofNat']
  omega

theorem value_lt (bytes : List UInt8) : value bytes < 128 ^ bytes.length := by
  induction bytes with
  | nil => simp [value]
  | cons byte rest ih =>
      simp only [value, List.length_cons, pow_succ]
      omega

theorem value_append (bytes more : List UInt8) :
    value (bytes ++ more) = value bytes + 128 ^ bytes.length * value more := by
  induction bytes with
  | nil => simp [value]
  | cons byte rest ih =>
      simp only [List.cons_append, value, ih, List.length_cons, pow_succ]
      ring

theorem leading_prefix (limit : Nat) (bytes : List UInt8) : leading limit bytes <+: bytes := by
  induction limit generalizing bytes with
  | zero => simp [leading]
  | succ limit ih =>
      cases bytes with
      | nil => simp [leading]
      | cons byte rest =>
          unfold leading
          split
          · simp
          · simpa using ih rest

theorem length_leading (limit : Nat) (bytes : List UInt8) : (leading limit bytes).length ≤ limit := by
  induction limit generalizing bytes with
  | zero => simp [leading]
  | succ limit ih =>
      cases bytes with
      | nil => simp [leading]
      | cons byte rest =>
          unfold leading
          split
          · simp
          · simpa using ih rest

/-! ### Numbers -/

section Numbers

variable {n : UInt16}

theorem leading_encode (n : UInt16) (rest : List UInt8) {limit : Nat} (enough : 3 ≤ limit) :
    leading limit (encode n ++ rest) = encode n := by
  obtain ⟨limit, rfl⟩ := Nat.exists_eq_add_of_le' enough
  have bound := n.toNat_lt
  unfold encode
  split
  · rename_i small
    simp only [List.cons_append, leading, isLast, toNat_last small, small, decide_true, if_true]
  · split
    · have small : n.toNat / 128 < 128 := by omega
      simp [leading, isLast, toNat_last small, small]
    · have small : n.toNat / 16384 < 128 := by omega
      simp [leading, isLast, toNat_last small, small]

@[simp] theorem value_encode (n : UInt16) : value (encode n) = n.toNat := by
  have bound := n.toNat_lt
  unfold encode
  split
  · simp only [value, toNat_last ‹_›]
    omega
  · split
    · have small : n.toNat / 128 < 128 := by omega
      simp only [value, toNat_more, toNat_last small]
      omega
    · have small : n.toNat / 16384 < 128 := by omega
      simp only [value, toNat_more, toNat_last small]
      omega

theorem shortest_encode (n : UInt16) : Shortest (encode n) := by
  have bound := n.toNat_lt
  unfold encode
  split
  · simpa only [Shortest, toNat_last ‹_›]
  · split
    · have small : n.toNat / 128 < 128 := by omega
      simp only [Shortest, toNat_more, toNat_last small]
      omega
    · have small : n.toNat / 16384 < 128 := by omega
      simp only [Shortest, toNat_more, toNat_last small]
      omega

/-- A byte is the low seven bits of a number, with the high bit. -/
theorem more_eq {byte : UInt8} {n : Nat} (high : 128 ≤ byte.toNat) (low : n % 128 = byte.toNat % 128) :
    more n = byte := by
  have bound := byte.toNat_lt
  rw [← UInt8.toNat_inj, toNat_more]
  omega

/-- Well-formed bytes are those of a number. -/
theorem shortest_iff {count : List UInt8} : Shortest count ↔ ∃ n, count = encode n := by
  have toNat : ∀ m < 65536, (UInt16.ofNat m).toNat = m := by
    intro m small
    rw [UInt16.toNat_ofNat']
    omega
  constructor
  · intro shortest
    match count, shortest with
    | [a], (last : a.toNat < 128) =>
        refine ⟨.ofNat a.toNat, ?_⟩
        rw [encode, toNat _ (by omega), if_pos last, UInt8.ofNat_toNat]
    | [a, b], (⟨high, positive, last⟩ : 128 ≤ a.toNat ∧ 0 < b.toNat ∧ b.toNat < 128) =>
        have v : value [a, b] = a.toNat % 128 + 128 * b.toNat := by
          simp only [value]
          omega
        have first : more (value [a, b]) = a := more_eq high (by omega)
        have second : value [a, b] / 128 = b.toNat := by omega
        refine ⟨.ofNat (value [a, b]), ?_⟩
        rw [encode, toNat _ (by omega), if_neg (by omega), if_pos (by omega), first, second,
          UInt8.ofNat_toNat]
    | [a, b, c], (⟨high, high', positive, small⟩ :
        128 ≤ a.toNat ∧ 128 ≤ b.toNat ∧ 0 < c.toNat ∧ c.toNat < 4) =>
        have v : value [a, b, c] = a.toNat % 128 + 128 * (b.toNat % 128) + 16384 * c.toNat := by
          simp only [value]
          omega
        have first : more (value [a, b, c]) = a := more_eq high (by omega)
        have second : more (value [a, b, c] / 128) = b := more_eq high' (by omega)
        have third : value [a, b, c] / 16384 = c.toNat := by omega
        refine ⟨.ofNat (value [a, b, c]), ?_⟩
        rw [encode, toNat _ (by omega), if_neg (by omega), if_neg (by omega), first, second, third,
          UInt8.ofNat_toNat]
  · rintro ⟨n, rfl⟩
    exact shortest_encode n

end Numbers

end CompactU16
