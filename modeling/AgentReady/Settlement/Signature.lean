import AgentReady.Lib.CompactU16
import AgentReady.Lib.Json

/-!
The signature of a stored transaction (`extractTransactionSignature` of `packages/payments/src/x402.ts`,
and its copy in `packages/payments/operator-cli.mjs`).

A wire transaction begins with the number of its signatures, as a compact-u16, and the signatures follow.
The code reads the number without asking whether it ended, or how many bytes it took.

* `readCount_eq`: what the loop reads of any bytes.
* `extractTransactionSignature_iff`: it follows the wire format unless more bytes are taken for the
  number than the format has, or other bytes than its own.
-/

namespace AgentReady.Settlement

open CompactU16

/-- What is used of `Buffer` and `@scure/base`. -/
structure WireCodec where
  /-- `JSON.parse` of base64url; `none` where it throws. -/
  decodePayment : String → Option Json
  fromBase64 : String → List UInt8
  base58 : List UInt8 → String

/-! ### The two functions -/

/-- The values of `shift` for which the loop goes on. -/
def countShifts : List Nat := [0, 7, 14, 21, 28]

/-- `count |= (byte & 0x7f) << shift`. -/
def addGroup (count : BitVec 32) (byte : UInt8) (shift : Nat) : BitVec 32 :=
  count ||| ((byte &&& 0x7f).toBitVec.setWidth 32 <<< shift)

/-- The loop, which leaves `offset` and `count`, or returns null. -/
def readCount (bytes : List UInt8) : (shifts : List Nat) → (offset : Nat) → BitVec 32 →
    Option (Nat × BitVec 32)
  | [], offset, count => some (offset, count)
  | shift :: shifts, offset, count =>
      if offset < bytes.length then
        match bytes[offset]? with
        | none => none
        | some byte =>
            let count := addGroup count byte shift
            if byte &&& 0x80 = 0 then some (offset + 1, count)
            else readCount bytes shifts (offset + 1) count
      else some (offset, count)

/-- The 64 bytes after the count, where the count is at least one. -/
def signatureAt (base58 : List UInt8 → String) (bytes : List UInt8) (offset : Nat) (count : BitVec 32) :
    Option String :=
  if count.toInt < 1 ∨ bytes.length < offset + 64 then none
  else some (base58 ((bytes.drop offset).take 64))

/-- The bytes of the transaction that a payment carries. -/
def wireTransaction (codec : WireCodec) (encodedPayment : String) : Option (List UInt8) := do
  let envelope ← codec.decodePayment encodedPayment
  let wire ← Json.stringValue
    (Json.optional (Json.optional (some envelope) "payload") "transaction")
  return codec.fromBase64 wire

def extractTransactionSignature (codec : WireCodec) (encodedPayment : String) : Option String := do
  let bytes ← wireTransaction codec encodedPayment
  match readCount bytes countShifts 0 0 with
  | none => none
  | some (offset, count) => signatureAt codec.base58 bytes offset count

namespace OperatorCli

/-- The loop of the copy. A byte that is not there counts as zero. -/
def readCount (bytes : List UInt8) : (shifts : List Nat) → (offset : Nat) → BitVec 32 → Nat × BitVec 32
  | [], offset, count => (offset, count)
  | shift :: shifts, offset, count =>
      if offset < bytes.length then
        let byte := bytes[offset]?.getD 0
        let count := addGroup count byte shift
        if byte &&& 0x80 = 0 then (offset + 1, count)
        else readCount bytes shifts (offset + 1) count
      else (offset, count)

def extractTransactionSignature (codec : WireCodec) (encodedPayment : String) : Option String := do
  let bytes ← wireTransaction codec encodedPayment
  let (offset, count) := readCount bytes countShifts 0 0
  signatureAt codec.base58 bytes offset count

end OperatorCli

/-! ### The loop -/

theorem isLast_iff (byte : UInt8) : byte &&& 0x80 = 0 ↔ isLast byte = true := by
  have each : ∀ n : Fin 256, (UInt8.ofNat n &&& 0x80 = 0) ↔ isLast (UInt8.ofNat n) = true := by
    decide +kernel
  have own := each ⟨byte.toNat, byte.toNat_lt⟩
  rwa [UInt8.ofNat_toNat] at own

theorem toNat_low (byte : UInt8) : (byte &&& 0x7f).toNat = byte.toNat % 128 := by
  rw [UInt8.toNat_and]
  exact Nat.and_two_pow_sub_one_eq_mod byte.toNat 7

/-- A group is added above the bits there are, as far as 32 bits go. -/
theorem toNat_addGroup {count : BitVec 32} {byte : UInt8} {shift : Nat} (below : count.toNat < 2 ^ shift)
    (narrow : shift ≤ 32) :
    (addGroup count byte shift).toNat = (count.toNat + 2 ^ shift * (byte.toNat % 128)) % 2 ^ 32 := by
  obtain ⟨room, width⟩ := Nat.exists_eq_add_of_le narrow
  have split : 2 ^ 32 = 2 ^ shift * 2 ^ room := by rw [width, pow_add]
  have group : ((byte &&& 0x7f).toBitVec.setWidth 32).toNat = byte.toNat % 128 := by
    have low := toNat_low byte
    have bound := byte.toNat_lt
    rw [BitVec.toNat_setWidth, UInt8.toNat_toBitVec, low]
    omega
  have shifted : ((byte &&& 0x7f).toBitVec.setWidth 32 <<< shift).toNat =
      2 ^ shift * (byte.toNat % 128 % 2 ^ room) := by
    rw [BitVec.toNat_shiftLeft, group, Nat.shiftLeft_eq, mul_comm, split, Nat.mul_mod_mul_left]
  calc (addGroup count byte shift).toNat
      = count.toNat ||| 2 ^ shift * (byte.toNat % 128 % 2 ^ room) := by
        rw [addGroup, BitVec.toNat_or, shifted]
    _ = count.toNat + 2 ^ shift * (byte.toNat % 128 % 2 ^ room) := by
        rw [Nat.or_comm, ← Nat.two_pow_add_eq_or_of_lt below, Nat.add_comm]
    _ = (count.toNat + 2 ^ shift * (byte.toNat % 128)) % 2 ^ 32 := by
        rw [split, Nat.mod_mul, Nat.add_mul_mod_self_left, Nat.mod_eq_of_lt below,
          Nat.add_mul_div_left _ _ (Nat.two_pow_pos shift), Nat.div_eq_of_lt below, Nat.zero_add]

/-- The loop takes the bytes up to the first one without the high bit, and counts modulo 2³². -/
theorem readCount_from {done rest : List UInt8} {count : BitVec 32} {rounds : Nat}
    (few : done.length + rounds ≤ 5) (counted : count.toNat = value done % 2 ^ 32) :
    ∃ total : BitVec 32,
      readCount (done ++ rest) ((List.range' done.length rounds).map (7 * ·)) done.length count =
        some (done.length + (leading rounds rest).length, total) ∧
      total.toNat = value (done ++ leading rounds rest) % 2 ^ 32 := by
  induction rounds generalizing done rest count with
  | zero => exact ⟨count, by simp [readCount, leading], by simpa [leading] using counted⟩
  | succ rounds ih =>
      cases rest with
      | nil => exact ⟨count, by simp [readCount, leading, List.range'_succ], by simpa [leading] using counted⟩
      | cons byte rest =>
          have small : value done < 2 ^ (7 * done.length) := by
            have bound := value_lt done
            rwa [show (128 : Nat) = 2 ^ 7 from rfl, ← pow_mul] at bound
          have narrow : 7 * done.length ≤ 28 := by omega
          have exact_ : count.toNat = value done := by
            have bound : value done < 2 ^ 32 :=
              small.trans_le (Nat.pow_le_pow_right (by norm_num) (by omega))
            rw [counted, Nat.mod_eq_of_lt bound]
          have added : (addGroup count byte (7 * done.length)).toNat =
              value (done ++ [byte]) % 2 ^ 32 := by
            rw [toNat_addGroup (exact_ ▸ small) (by omega), exact_, value_append,
              show (128 : Nat) = 2 ^ 7 from rfl, ← pow_mul]
            simp [value]
          have here : (done ++ byte :: rest)[done.length]? = some byte := by simp
          simp only [List.range'_succ, List.map_cons, readCount, here, List.length_append,
            List.length_cons, isLast_iff]
          rw [if_pos (by omega)]
          unfold leading
          split
          · exact ⟨_, rfl, by simpa using added⟩
          · have next := @ih (done ++ [byte]) rest _ (by simp; omega) added
            simpa [Nat.add_assoc, Nat.add_comm 1] using next

/-- The loop, from the start. -/
theorem readCount_eq (bytes : List UInt8) :
    ∃ total : BitVec 32, readCount bytes countShifts 0 0 = some ((leading 5 bytes).length, total) ∧
      total.toNat = value (leading 5 bytes) % 2 ^ 32 := by
  obtain ⟨total, read, counted⟩ := @readCount_from [] bytes 0 5 (by simp) (by simp [value])
  have shifts : (List.range' 0 5).map (7 * ·) = countShifts := by decide
  refine ⟨total, ?_, by simpa using counted⟩
  rw [← shifts]
  simpa using read

/-- The copy reads what the original reads. -/
theorem readCount_copy (bytes : List UInt8) (shifts : List Nat) (offset : Nat) (count : BitVec 32) :
    readCount bytes shifts offset count = some (OperatorCli.readCount bytes shifts offset count) := by
  induction shifts generalizing offset count with
  | nil => rfl
  | cons shift shifts ih =>
      unfold readCount OperatorCli.readCount
      split
      · rename_i within
        simp only [List.getElem?_eq_getElem within, Option.getD_some]
        split
        · rfl
        · exact ih _ _
      · rfl

theorem extractTransactionSignature_copy (codec : WireCodec) (encodedPayment : String) :
    OperatorCli.extractTransactionSignature codec encodedPayment =
      extractTransactionSignature codec encodedPayment := by
  unfold OperatorCli.extractTransactionSignature extractTransactionSignature
  cases wireTransaction codec encodedPayment with
  | none => rfl
  | some bytes => simp only [Option.bind_eq_bind, Option.bind_some, readCount_copy]

/-! ### The wire format -/

/-- A signature follows the count of a wire transaction. -/
def Signed (bytes signature : List UInt8) : Prop :=
  ∃ (n : UInt16) (rest : List UInt8), 1 ≤ n.toNat ∧ bytes = encode n ++ rest ∧ 64 ≤ rest.length ∧
    signature = rest.take 64

/-- What is returned for a payment that carries the bytes is the first signature of the wire format, or
null where there is none; and the copy returns the same. -/
def Follows (codec : WireCodec) (encodedPayment : String) (bytes : List UInt8) : Prop :=
  (∀ text, extractTransactionSignature codec encodedPayment = some text ↔
      ∃ signature, Signed bytes signature ∧ text = codec.base58 signature) ∧
    OperatorCli.extractTransactionSignature codec encodedPayment =
      extractTransactionSignature codec encodedPayment

/-- The bytes up to the first one without the high bit, of at most five, are no count of the format,
but stand for at least one in 32 bits, and 64 bytes follow. -/
def Misread (bytes : List UInt8) : Prop :=
  let count := leading 5 bytes
  ¬ Shortest count ∧ 1 ≤ value count % 2 ^ 32 ∧ value count % 2 ^ 32 < 2 ^ 31 ∧
    count.length + 64 ≤ bytes.length

instance (bytes : List UInt8) : Decidable (Misread bytes) := by
  unfold Misread
  infer_instance

theorem signatureAt_eq {base58 : List UInt8 → String} {bytes : List UInt8} {offset : Nat}
    {count : BitVec 32} {text : String} :
    signatureAt base58 bytes offset count = some text ↔
      (1 ≤ count.toNat ∧ count.toNat < 2 ^ 31 ∧ offset + 64 ≤ bytes.length) ∧
        base58 ((bytes.drop offset).take 64) = text := by
  have signed : count.toInt < 1 ↔ ¬ (1 ≤ count.toNat ∧ count.toNat < 2 ^ 31) := by
    have bound := count.isLt
    rw [BitVec.toInt_eq_toNat_cond]
    split <;> omega
  unfold signatureAt
  split
  · rename_i refused
    rw [signed] at refused
    simp only [reduceCtorEq, false_iff]
    rintro ⟨⟨some_, positive, enough⟩, -⟩
    rcases refused with refused | refused
    · exact refused ⟨some_, positive⟩
    · omega
  · rename_i taken
    rw [signed] at taken
    simp only [not_or, not_not, not_lt] at taken
    simp only [Option.some.injEq]
    exact ⟨fun same => ⟨⟨taken.1.1, taken.1.2, taken.2⟩, same⟩, fun h => h.2⟩

/-- A transaction with a signature, as the loop reads it. -/
theorem signed_iff {bytes signature : List UInt8} :
    Signed bytes signature ↔ Shortest (leading 5 bytes) ∧ 1 ≤ value (leading 5 bytes) ∧
      (leading 5 bytes).length + 64 ≤ bytes.length ∧
      signature = (bytes.drop (leading 5 bytes).length).take 64 := by
  constructor
  · rintro ⟨n, rest, counts, rfl, enough, rfl⟩
    rw [leading_encode n rest (by norm_num)]
    exact ⟨shortest_encode n, by simpa using counts, by simpa using enough, by simp⟩
  · rintro ⟨shortest, counts, enough, rfl⟩
    obtain ⟨n, is⟩ := shortest_iff.mp shortest
    obtain ⟨rest, split⟩ := leading_prefix 5 bytes
    rw [is] at counts enough split ⊢
    refine ⟨n, rest, by simpa using counts, split.symm, ?_, ?_⟩
    · rw [← split] at enough
      simpa using enough
    · rw [← split]
      simp

/-- What is returned for a payment that carries the bytes. -/
theorem extractTransactionSignature_eq {codec : WireCodec} {encodedPayment : String} {bytes : List UInt8}
    (carries : wireTransaction codec encodedPayment = some bytes) {text : String} :
    extractTransactionSignature codec encodedPayment = some text ↔
      (1 ≤ value (leading 5 bytes) % 2 ^ 32 ∧ value (leading 5 bytes) % 2 ^ 32 < 2 ^ 31 ∧
        (leading 5 bytes).length + 64 ≤ bytes.length) ∧
        codec.base58 ((bytes.drop (leading 5 bytes).length).take 64) = text := by
  obtain ⟨total, read, counted⟩ := readCount_eq bytes
  unfold extractTransactionSignature
  rw [carries, ← counted, ← signatureAt_eq]
  simp only [Option.bind_eq_bind, Option.bind_some, read]

/-- The wire format is followed unless the count is misread. -/
theorem extractTransactionSignature_iff (codec : WireCodec) (encodedPayment : String) (bytes : List UInt8)
    (carries : wireTransaction codec encodedPayment = some bytes) :
    Follows codec encodedPayment bytes ↔ ¬ Misread bytes := by
  unfold Follows Misread
  simp only [extractTransactionSignature_copy, and_true, signed_iff,
    extractTransactionSignature_eq carries]
  constructor
  · rintro follows ⟨longer, counts, positive, enough⟩
    obtain ⟨signature, ⟨shortest, -⟩, -⟩ := (follows _).mp ⟨⟨counts, positive, enough⟩, rfl⟩
    exact longer shortest
  · intro reads text
    constructor
    · rintro ⟨⟨counts, positive, enough⟩, rfl⟩
      by_cases shortest : Shortest (leading 5 bytes)
      · have counts' : 1 ≤ value (leading 5 bytes) := counts.trans (Nat.mod_le _ _)
        exact ⟨_, ⟨shortest, counts', enough, rfl⟩, rfl⟩
      · exact absurd ⟨shortest, counts, positive, enough⟩ reads
    · rintro ⟨signature, ⟨shortest, counts, enough, rfl⟩, rfl⟩
      obtain ⟨n, is⟩ := shortest_iff.mp shortest
      have small : value (leading 5 bytes) < 65536 := by
        have bound := n.toNat_lt
        rw [is, value_encode]
        omega
      rw [Nat.mod_eq_of_lt (by omega)]
      exact ⟨⟨counts, by omega, enough⟩, rfl⟩

/-- What the libraries do with one payment, whose signature is 64 zeros. -/
def zeroCodec (payment wire : String) (bytes : List UInt8) : WireCodec where
  decodePayment text :=
    if text = payment then some (.obj [("payload", .obj [("transaction", .str wire)])]) else none
  fromBase64 text := if text = wire then bytes else []
  base58 signature := if signature = List.replicate 64 0 then String.ofList (List.replicate 64 '1') else ""

/-- A count of one, and a signature. -/
def signedBytes : List UInt8 := 1 :: List.replicate 64 0

def signedWire : String :=
  "AQAAAAAAAAAAAAAAAAAAAAAAAAAAAAAAAAAAAAAAAAAAAAAAAAAAAAAAAAAAAAAAAAAAAAAAAAAAAAAAAAAAAAA="

def signedPayment : String :=
  "eyJwYXlsb2FkIjp7InRyYW5zYWN0aW9uIjoiQVFBQUFBQUFBQUFBQUFBQUFBQUFBQUFBQUFBQUFBQUFBQUFBQUFB" ++
    "QUFBQUFBQUFBQUFBQUFBQUFBQUFBQUFBQUFBQUFBQUFBQUFBQUFBQUFBQUFBQUFBPSJ9fQ"

theorem extractTransactionSignature_signed :
    Follows (zeroCodec signedPayment signedWire signedBytes) signedPayment signedBytes :=
  (extractTransactionSignature_iff (zeroCodec signedPayment signedWire signedBytes) signedPayment signedBytes
    (by decide +kernel)).mpr (by decide +kernel)

/-- A count of one in four bytes, and a signature. -/
def overlongBytes : List UInt8 := [0x81, 0x80, 0x80, 0x00] ++ List.replicate 64 0

def overlongWire : String :=
  "gYCAAAAAAAAAAAAAAAAAAAAAAAAAAAAAAAAAAAAAAAAAAAAAAAAAAAAAAAAAAAAAAAAAAAAAAAAAAAAAAAAAAAAA" ++
  "AAA="

def overlongPayment : String :=
  "eyJwYXlsb2FkIjp7InRyYW5zYWN0aW9uIjoiZ1lDQUFBQUFBQUFBQUFBQUFBQUFBQUFBQUFBQUFBQUFBQUFBQUFB" ++
    "QUFBQUFBQUFBQUFBQUFBQUFBQUFBQUFBQUFBQUFBQUFBQUFBQUFBQUFBQUFBQUFBQUFBQT0ifX0"

/-- A signature is returned where the count is over-long. -/
theorem extractTransactionSignature_overlong :
    wireTransaction (zeroCodec overlongPayment overlongWire overlongBytes) overlongPayment =
        some overlongBytes ∧
      ¬ Follows (zeroCodec overlongPayment overlongWire overlongBytes) overlongPayment overlongBytes := by
  have carries : wireTransaction (zeroCodec overlongPayment overlongWire overlongBytes) overlongPayment =
      some overlongBytes := by decide +kernel
  refine ⟨carries, fun follows => ?_⟩
  obtain ⟨signature, signed, -⟩ := (follows.1 _).mp ((extractTransactionSignature_eq carries).mpr
    ⟨by decide +kernel, rfl⟩)
  have longer : ¬ Shortest (leading 5 overlongBytes) := by decide +kernel
  exact longer (signed_iff.mp signed).1

end AgentReady.Settlement
