import AgentReady.Core.Coordinator
import AgentReady.Lib.Objects
import Mathlib.Logic.Function.Basic

/-!
The two stores of operation records (`packages/core/src/store.ts`).

A record is an object of the program: it can be assigned to by whoever has it. The stores keep none that they
hand out or are handed: one clones the record on the way in and on the way out, the other writes it as a text,
encrypts it, and reads it again.

* `StoreKeeps`: what a store owes, in terms of the JSON values that it holds and of the objects that are its own.
* `memory_keeps`, `encrypted_keeps`: both stores do.
-/

namespace AgentReady

open Objects

/-- `OperationStore`, over the objects of the program and the store's own data. What a call that throws made
is its own, and is not to be had. -/
structure StoreMethods (σ : Type) where
  get : Heap → σ → String → Except String (Heap × Option Value)
  set : Heap → σ → String → Value → Except String (Heap × σ)

/-! ### Records in memory -/

namespace MemoryOperationStore

abbrev Data := OrderedMap String Value

def get (h : Heap) (data : Data) (operationId : String) : Except String (Heap × Option Value) :=
  match data.get? operationId with
  | none => .ok (h, none)
  | some record =>
      let copy := structuredClone h record
      .ok (copy.1, some copy.2)

def set (h : Heap) (data : Data) (operationId : String) (record : Value) : Except String (Heap × Data) :=
  let copy := structuredClone h record
  .ok (copy.1, data.set operationId copy.2)

def methods : StoreMethods Data := ⟨get, set⟩

end MemoryOperationStore

/-! ### Encrypted records -/

/-- What `node:crypto` and `Buffer` do for the store: SHA-256, random bytes by the number drawn before them,
AES-256-GCM and base64. -/
structure NodeCrypto where
  sha256 : String → List UInt8
  randomBytes : Nat → Nat → List UInt8
  cipher : List UInt8 → List UInt8 → String → List UInt8 × List UInt8
  decipher : List UInt8 → List UInt8 → List UInt8 → List UInt8 → Option String
  toBase64 : List UInt8 → String
  fromBase64 : String → List UInt8

/-- Sealing gives a tag of 16 bytes, and is undone under the same key and nonce; base64 is undone. -/
structure NodeCrypto.Lawful (C : NodeCrypto) : Prop where
  length_randomBytes : ∀ drawn n, (C.randomBytes drawn n).length = n
  length_tag : ∀ key iv text, (C.cipher key iv text).2.length = 16
  decipher_cipher : ∀ key iv text, C.decipher key iv (C.cipher key iv text).2 (C.cipher key iv text).1 = some text
  fromBase64_toBase64 : ∀ bytes, C.fromBase64 (C.toBase64 bytes) = bytes
  fromBase64_empty : C.fromBase64 "" = []

namespace EncryptedOperationStore

/-- `IV_LENGTH`. -/
def ivLength : Nat := 12

/-- `TAG_LENGTH`. -/
def tagLength : Nat := 16

/-- The records, encrypted, and how many nonces were drawn. -/
structure Data where
  data : OrderedMap String String := ∅
  drawn : Nat := 0

section

variable (C : NodeCrypto) (encryptionSecret : String)

def deriveKey : List UInt8 := C.sha256 encryptionSecret

def encrypt (key : List UInt8) (drawn : Nat) (plaintext : String) : String :=
  let iv := C.randomBytes drawn ivLength
  let sealed := C.cipher key iv plaintext
  C.toBase64 (iv ++ sealed.2 ++ sealed.1)

def decrypt (key : List UInt8) (ciphertext : String) : Option String :=
  let buf := C.fromBase64 ciphertext
  let iv := buf.take ivLength
  let tag := (buf.drop ivLength).take tagLength
  let encrypted := buf.drop (ivLength + tagLength)
  C.decipher key iv tag encrypted

def get (h : Heap) (store : Data) (operationId : String) : Except String (Heap × Option Value) :=
  match store.data.get? operationId with
  | none => .ok (h, none)
  | some encrypted =>
      if encrypted = "" then .ok (h, none)
      else
        match decrypt C (deriveKey C encryptionSecret) encrypted with
        | none => .error "Unsupported state or unable to authenticate data"
        | some text =>
            match Json.parse text with
            | none => .error "Unexpected token in JSON"
            | some value =>
                let made := allocate h value
                .ok (made.1, some made.2)

def set (h : Heap) (store : Data) (operationId : String) (record : Value) : Except String (Heap × Data) :=
  match toJson h record with
  | none => .error "Converting circular structure to JSON"
  | some value =>
      .ok (h, {
        data := store.data.set operationId
          (encrypt C (deriveKey C encryptionSecret) store.drawn value.stringify)
        drawn := store.drawn + 1 })

def methods : StoreMethods Data := ⟨get C encryptionSecret, set C encryptionSecret⟩

end

/-- What is encrypted is decrypted again. -/
theorem decrypt_encrypt {C : NodeCrypto} (lawful : C.Lawful) {key : List UInt8} {drawn : Nat} {plaintext : String} :
    decrypt C key (encrypt C key drawn plaintext) = some plaintext := by
  have iv := lawful.length_randomBytes drawn ivLength
  have tag := lawful.length_tag key (C.randomBytes drawn ivLength) plaintext
  simp only [decrypt, encrypt, lawful.fromBase64_toBase64, tagLength, List.append_assoc]
  rw [List.take_left' iv, List.drop_left' iv, List.take_left' tag, ← List.append_assoc,
    List.drop_left' (by rw [List.length_append, iv, tag]), lawful.decipher_cipher]

theorem encrypt_ne_empty {C : NodeCrypto} (lawful : C.Lawful) {key : List UInt8} {drawn : Nat} {plaintext : String} :
    encrypt C key drawn plaintext ≠ "" := by
  intro empty
  have bytes := congrArg C.fromBase64 empty
  rw [encrypt, lawful.fromBase64_toBase64, lawful.fromBase64_empty, List.append_assoc,
    List.append_eq_nil_iff] at bytes
  have iv := lawful.length_randomBytes drawn ivLength
  rw [bytes.1] at iv
  cases iv

end EncryptedOperationStore

/-! ### What a store owes -/

/-- `Rep h data own m`: the store holds the values `m`, and the objects `own` are its own. -/
structure StoreKeeps {σ : Type} (S : StoreMethods σ) (Rep : Heap → σ → Set Nat → (String → Option Json) → Prop) :
    Prop where
  live {h data own m} : Rep h data own m → ∀ a ∈ own, a < h.length
  frame {h h' data own m} : Rep h data own m → (∀ a ∈ own, h'[a]? = h[a]?) → Rep h' data own m
  get_none {h data own m operationId} : Rep h data own m → m operationId = none →
    S.get h data operationId = .ok (h, none)
  get_some {h data own m operationId j} : Rep h data own m → m operationId = some j →
    ∃ h' v, S.get h data operationId = .ok (h', some v) ∧ h <+: h' ∧ Reads h' v j ∧ Apart h' h.length v
  set {h data own m v j} (operationId : String) : Rep h data own m → Reads h v j → j.Writable →
    ∃ h' data' own', S.set h data operationId v = .ok (h', data') ∧ h <+: h' ∧
      Rep h' data' own' (Function.update m operationId (some j)) ∧ ∀ a ∈ own', a ∈ own ∨ h.length ≤ a

theorem rel_mono {α β : Type} {r r' : α → β → Prop} {x : Option α} {y : Option β} (rel : Option.Rel r x y)
    (imp : ∀ a b, r a b → r' a b) : Option.Rel r' x y := by
  cases rel with
  | some h => exact .some (imp _ _ h)
  | none => exact .none

namespace MemoryOperationStore

/-- Every record in memory stands for its value, and all that it reaches is the store's own. -/
structure Rep (h : Heap) (data : Data) (own : Set Nat) (m : String → Option Json) : Prop where
  live : ∀ a ∈ own, a < h.length
  found : ∀ operationId, Option.Rel (fun v j => Reads h v j ∧ ∀ a, Reach h v a → a ∈ own)
    (data.get? operationId) (m operationId)

theorem empty (h : Heap) : Rep h (∅ : OrderedMap _ _) ∅ fun _ => none :=
  ⟨fun _ mem => absurd mem (Set.notMem_empty _), fun _ => .none⟩

theorem Rep.of_agree {h h' : Heap} {data : Data} {own : Set Nat} {m : String → Option Json}
    (rep : Rep h data own m) (agree : ∀ a ∈ own, h'[a]? = h[a]?) : Rep h' data own m := by
  constructor
  · intro a mem
    have there := agree a mem
    rw [List.getElem?_eq_getElem (rep.live a mem)] at there
    exact (List.getElem?_eq_some_iff.mp there).choose
  · intro operationId
    refine rel_mono (rep.found operationId) fun v j here => ?_
    have each : ∀ a, Reach h v a → h'[a]? = h[a]? := fun a reach => agree a (here.2 a reach)
    exact ⟨here.1.of_agree each, fun a reach => here.2 a (reach.of_agree each)⟩

theorem set_rel {h h' : Heap} {data : Data} {own : Set Nat} {m : String → Option Json} {operationId : String}
    {j : Json} {v : Value} (rep : Rep h data own m) (le : h <+: h') (reads : Reads h' v j) :
    Rep h' (data.set operationId v) (own ∪ {a | Reach h' v a}) (Function.update m operationId (some j)) := by
  have agree : ∀ a ∈ own, h'[a]? = h[a]? := by
    intro a mem
    obtain ⟨rest, rfl⟩ := le
    exact List.getElem?_append_left (rep.live a mem)
  have rep := rep.of_agree agree
  constructor
  · rintro a (mem | reach)
    · exact rep.live a mem
    · exact reads.live reach
  · intro other
    rw [OrderedMap.get?_set]
    by_cases same : other = operationId
    · rw [if_pos same, same, Function.update_self]
      exact .some ⟨reads, fun a reach => .inr reach⟩
    · rw [if_neg same, Function.update_of_ne same]
      exact rel_mono (rep.found other) fun w k here => ⟨here.1, fun a reach => .inl (here.2 a reach)⟩

theorem memory_keeps : StoreKeeps methods Rep := by
  constructor
  · intro h data own m rep
    exact rep.live
  · intro h h' data own m rep agree
    exact rep.of_agree agree
  · intro h data own m operationId rep free
    have found := rep.found operationId
    rw [free] at found
    cases here : data.get? operationId with
    | none => simp [methods, get, here]
    | some record =>
        rw [here] at found
        cases found
  · intro h data own m operationId j rep held
    have found := rep.found operationId
    rw [held] at found
    cases here : data.get? operationId with
    | none =>
        rw [here] at found
        cases found
    | some record =>
        rw [here] at found
        obtain ⟨⟨depth, reads⟩, -⟩ := Option.rel_some_some.mp found
        refine ⟨_, _, ?_, structuredClone_extends h record, ⟨depth, ?_⟩, apart_structuredClone h record⟩
        · simp [methods, get, here]
        · rw [read_structuredClone, reads]
  · intro h data own m v j operationId rep reads _
    obtain ⟨depth, reads⟩ := reads
    have clone : Reads (structuredClone h v).1 (structuredClone h v).2 j :=
      ⟨depth, (read_structuredClone h).trans reads⟩
    refine ⟨_, _, _, rfl, structuredClone_extends h v, set_rel rep (structuredClone_extends h v) clone, ?_⟩
    rintro a (mem | reach)
    · exact .inl mem
    · exact .inr (apart_structuredClone h v a reach)

end MemoryOperationStore

namespace EncryptedOperationStore

/-- Every record is the text of its value, encrypted. No object is the store's. -/
structure Rep (C : NodeCrypto) (encryptionSecret : String) (_ : Heap) (store : Data) (own : Set Nat)
    (m : String → Option Json) : Prop where
  none_own : own = ∅
  found : ∀ operationId, Option.Rel (fun text j => j.Writable ∧
      ∃ drawn, text = encrypt C (deriveKey C encryptionSecret) drawn j.stringify)
    (store.data.get? operationId) (m operationId)

theorem empty (C : NodeCrypto) (encryptionSecret : String) (h : Heap) :
    Rep C encryptionSecret h {} ∅ fun _ => none :=
  ⟨rfl, fun _ => .none⟩

theorem encrypted_keeps {C : NodeCrypto} (lawful : C.Lawful) (encryptionSecret : String) :
    StoreKeeps (methods C encryptionSecret) (Rep C encryptionSecret) := by
  constructor
  · intro h store own m rep a mem
    rw [rep.none_own] at mem
    cases mem
  · intro h h' store own m rep _
    exact ⟨rep.none_own, rep.found⟩
  · intro h store own m operationId rep free
    have found := rep.found operationId
    rw [free] at found
    cases here : store.data.get? operationId with
    | none => simp [methods, get, here]
    | some text =>
        rw [here] at found
        cases found
  · intro h store own m operationId j rep held
    have found := rep.found operationId
    rw [held] at found
    cases here : store.data.get? operationId with
    | none =>
        rw [here] at found
        cases found
    | some text =>
        rw [here] at found
        obtain ⟨writable, drawn, rfl⟩ := Option.rel_some_some.mp found
        refine ⟨_, _, ?_, allocate_extends h j, allocate_reads h j, apart_allocate h j⟩
        simp [methods, get, here, encrypt_ne_empty lawful, decrypt_encrypt lawful, Json.parse_stringify writable]
  · intro h store own m v j operationId rep reads writable
    have done : (methods C encryptionSecret).set h store operationId v = .ok (h,
        ⟨store.data.set operationId (encrypt C (deriveKey C encryptionSecret) store.drawn j.stringify),
          store.drawn + 1⟩) := by
      simp [methods, set, toJson_of_read reads]
    refine ⟨h, _, ∅, done, List.prefix_refl _, ⟨rfl, fun other => ?_⟩, fun a mem => absurd mem (Set.notMem_empty a)⟩
    · by_cases same : other = operationId
      · subst same
        simp only [OrderedMap.get?_set_self, Function.update_self]
        exact .some ⟨writable, store.drawn, rfl⟩
      · simp only [OrderedMap.get?_set_of_ne _ same, Function.update_of_ne same]
        exact rep.found other

end EncryptedOperationStore

end AgentReady
