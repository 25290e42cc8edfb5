import AgentReady.Domain.Catalog
import AgentReady.Lib.Utf16

/-!
Opening a session token (`openSnapshot` of `apps/web/lib/session-token.ts`), as any text that a client
presents.

The lengths of the signatures are compared in units of UTF-16, and their bytes in UTF-8 are then handed to
`timingSafeEqual`, which throws where they are not as many.

* `openSnapshot_eq`: what is made of a token, by its last full stop.
* `openSnapshot_iff`: it does not throw, and opens just the snapshots that are signed and in date, unless
  the text after the last full stop has the length of a signature and is not ASCII.
-/

namespace AgentReady.SessionToken

open Utf16

/-- What is used of `node:crypto`, `node:zlib`, `Buffer` and `JSON`. -/
structure Runtime where
  hmacSha256 : (secret payload : List UInt8) → Vector UInt8 32
  fromBase64Url : Text → List UInt8
  /-- `inflateSync`; `none` where it throws. -/
  inflate : List UInt8 → Option (List UInt8)
  /-- `JSON.parse` of the text of some bytes; `none` where it throws. -/
  parseJson : List UInt8 → Option Json
  fromBase64Url_nil : fromBase64Url [] = []
  /-- The end of the data is not expected at its start. -/
  inflate_nil : inflate [] = none

/-- What is thrown. -/
inductive Thrown where
  | rangeError
  | typeError
deriving DecidableEq

/-- The full stop. -/
def stop : UInt16 := 46

def lastIndexOf (u : UInt16) : Text → Option Nat
  | [] => none
  | v :: rest =>
      match lastIndexOf u rest with
      | some i => some (i + 1)
      | none => if v = u then some 0 else none

def hexUnit (n : Nat) : UInt16 := if n < 10 then .ofNat (48 + n) else .ofNat (87 + n)

/-- `digest("hex")`. -/
def hex (bytes : List UInt8) : Text := bytes.flatMap fun b => [hexUnit (b.toNat / 16), hexUnit (b.toNat % 16)]

def timingSafeEqual (a b : List UInt8) : Except Thrown Bool :=
  if a.length ≠ b.length then .error .rangeError else .ok (a = b)

/-- `value.name`. -/
def property (value : Json) (name : String) : Except Thrown (Option Json) :=
  match value.access name with
  | none => .error .typeError
  | some field => .ok field

def isString : Json → Bool
  | .str _ => true
  | _ => false

def isArray : Json → Bool
  | .arr _ => true
  | _ => false

/-- `a < b` on strings. -/
def before (a b : String) : Bool := !unitsLe (codeUnits b) (codeUnits a)

/-- `expiresAt < now` is not the case of a string. -/
def isCurrent (now : String) : Json → Bool
  | .str expiresAt => !before expiresAt now
  | _ => false

def sessionSnapshotVersion : Int := 1

/-- What is asked of a value that was read. -/
def checkSnapshot (snapshot : Json) (now : String) : Except Thrown (Option Json) := do
  if !snapshot.isTruthy then return none
  if !(← property snapshot "version").any (Json.isInt sessionSnapshotVersion) then return none
  let session ← property snapshot "session"
  if !(Json.optional session "logicalOrderId").any isString then return none
  if !(← property snapshot "audit").any isArray then return none
  if !(← property snapshot "expiresAt").any isString then return none
  if !(← property snapshot "expiresAt").any (isCurrent now) then return none
  return some snapshot

namespace Runtime

variable (R : Runtime)

/-- The signature of a payload. -/
def sign (secret payload : Text) : Text := hex (R.hmacSha256 (utf8 secret) (utf8 payload)).toList

/-- The value that a payload carries, where it can be read. -/
def read (payload : Text) : Option Json := (R.inflate (R.fromBase64Url payload)).bind R.parseJson

end Runtime

/-- `openSnapshot`, at `nowIso` or else at the current time. -/
def openSnapshot (R : Runtime) (token secret : Text) (nowIso : Option String) (clock : Int) :
    Except Thrown (Option Json) :=
  match lastIndexOf stop token with
  | none | some 0 => return none
  | some (dot + 1) => do
      let payload := token.take (dot + 1)
      let signature := token.drop (dot + 2)
      let expected := R.sign secret payload
      if signature.length ≠ expected.length then return none
      if !(← timingSafeEqual (utf8 signature) (utf8 expected)) then return none
      match R.read payload with
      | none => return none
      | some snapshot => checkSnapshot snapshot (nowIso.getD (isoString clock))

/-! ### Texts -/

theorem lastIndexOf_eq_none {u : UInt16} {text : Text} : lastIndexOf u text = none ↔ u ∉ text := by
  induction text with
  | nil => simp [lastIndexOf]
  | cons v rest ih =>
      unfold lastIndexOf
      cases found : lastIndexOf u rest with
      | none =>
          have absent := ih.mp found
          by_cases same : v = u
          · simp [same]
          · simp [same, Ne.symm same, absent]
      | some i =>
          have present : u ∈ rest := by
            by_contra absent
            rw [ih.mpr absent] at found
            cases found
          simp [present]

theorem lastIndexOf_append {u : UInt16} (before : Text) {after : Text} (last : u ∉ after) :
    lastIndexOf u (before ++ u :: after) = some before.length := by
  induction before with
  | nil => simp [lastIndexOf, lastIndexOf_eq_none.mpr last]
  | cons v rest ih => simp [lastIndexOf, ih]

theorem lastIndexOf_eq_some {u : UInt16} {text : Text} {i : Nat} (found : lastIndexOf u text = some i) :
    ∃ before after, text = before ++ u :: after ∧ before.length = i ∧ u ∉ after := by
  induction text generalizing i with
  | nil => cases found
  | cons v rest ih =>
      unfold lastIndexOf at found
      cases later : lastIndexOf u rest with
      | none =>
          rw [later] at found
          dsimp only at found
          split at found
          · rename_i same
            obtain rfl := Option.some.inj found
            exact ⟨[], rest, by simp [same], rfl, lastIndexOf_eq_none.mp later⟩
          · cases found
      | some j =>
          rw [later] at found
          obtain rfl := Option.some.inj found
          obtain ⟨before, after, split, length, last⟩ := ih later
          exact ⟨v :: before, after, by simp [split], by simp [length], last⟩

theorem hexUnit_spec : ∀ n < 16, isAscii (hexUnit n) = true ∧ hexUnit n ≠ stop := by decide

theorem mem_hex {bytes : List UInt8} {u : UInt16} (mem : u ∈ hex bytes) : isAscii u = true ∧ u ≠ stop := by
  obtain ⟨b, -, mem⟩ := List.mem_flatMap.mp mem
  have bound := b.toNat_lt
  simp only [List.mem_cons, List.not_mem_nil, or_false] at mem
  rcases mem with rfl | rfl
  · exact hexUnit_spec _ (by omega)
  · exact hexUnit_spec _ (by omega)

theorem length_hex (bytes : List UInt8) : (hex bytes).length = 2 * bytes.length := by
  induction bytes with
  | nil => rfl
  | cons b rest ih =>
      simp only [hex, List.flatMap_cons, List.length_append, List.length_cons, List.length_nil] at *
      omega

namespace Runtime

variable (R : Runtime) (secret payload : Text)

theorem length_sign : (R.sign secret payload).length = 64 := by
  rw [sign, length_hex, Vector.length_toList]

theorem ascii_sign : ∀ u ∈ R.sign secret payload, isAscii u = true := fun _ mem => (mem_hex mem).1

theorem stop_not_mem_sign : stop ∉ R.sign secret payload := fun mem => (mem_hex mem).2 rfl

theorem read_nil : R.read [] = none := by
  rw [read, R.fromBase64Url_nil, R.inflate_nil]
  rfl

end Runtime

/-! ### The value that was read -/

/-- A version-1 snapshot with the text of an order id, an array of audit events, and an expiry that is not
before now. -/
structure IsSnapshot (now : String) (snapshot : Json) : Prop where
  version : Json.optional (some snapshot) "version" = some (.num (.ofInt 1))
  order : ∃ orderId, Json.optional (Json.optional (some snapshot) "session") "logicalOrderId" =
    some (.str orderId)
  audit : ∃ events, Json.optional (some snapshot) "audit" = some (.arr events)
  expiry : ∃ expiresAt, Json.optional (some snapshot) "expiresAt" = some (.str expiresAt) ∧
    before expiresAt now = false

theorem property_of_truthy {snapshot : Json} (truthy : snapshot.isTruthy = true) (name : String) :
    property snapshot name = .ok (Json.optional (some snapshot) name) := by
  cases snapshot with
  | null => cases truthy
  | _ => rfl

section Probes

variable {value : Option Json}

theorem any_isInt {n : Int} : value.any (Json.isInt n) = true ↔ value = some (.num (.ofInt n)) := by
  cases value with
  | none => simp
  | some v => cases v <;> simp [Json.isInt]

theorem any_isString : value.any isString = true ↔ ∃ text, value = some (.str text) := by
  cases value with
  | none => simp
  | some v => cases v <;> simp [isString]

theorem any_isArray : value.any isArray = true ↔ ∃ items, value = some (.arr items) := by
  cases value with
  | none => simp
  | some v => cases v <;> simp [isArray]

theorem any_isCurrent {now : String} : value.any (isCurrent now) = true ↔
    ∃ text, value = some (.str text) ∧ before text now = false := by
  cases value with
  | none => simp
  | some v => cases v <;> simp [isCurrent]

end Probes

theorem IsSnapshot.truthy {snapshot : Json} {now : String} (is : IsSnapshot now snapshot) :
    snapshot.isTruthy = true := by
  have version := is.version
  cases snapshot with
  | obj fields => rfl
  | _ => simp [Json.optional, Json.access] at version

/-- The checks do not throw, and pass just the snapshots in date. -/
theorem checkSnapshot_eq (snapshot : Json) (now : String) :
    ∃ r, checkSnapshot snapshot now = .ok r ∧ ∀ v, r = some v ↔ v = snapshot ∧ IsSnapshot now snapshot := by
  have refused : ∀ {p : Prop}, (IsSnapshot now snapshot → p) → ¬ p →
      ∃ r, (.ok none : Except Thrown (Option Json)) = .ok r ∧
        ∀ v, r = some v ↔ v = snapshot ∧ IsSnapshot now snapshot := by
    intro p needs fails
    refine ⟨none, rfl, fun v => ?_⟩
    simp only [reduceCtorEq, false_iff, not_and]
    exact fun _ is => fails (needs is)
  unfold checkSnapshot
  by_cases truthy : snapshot.isTruthy = true
  · simp only [property_of_truthy truthy, truthy, bind, Except.bind, pure, Except.pure, Bool.not_true,
      Bool.false_eq_true, if_false, Bool.not_eq_true', ← Bool.not_eq_true, ite_not]
    split
    · rename_i version
      split
      · rename_i order
        split
        · rename_i audit
          split
          · split
            · rename_i expiry
              refine ⟨_, rfl, fun v => ?_⟩
              rw [any_isInt] at version
              rw [any_isString] at order
              rw [any_isArray] at audit
              rw [any_isCurrent] at expiry
              simp only [Option.some.injEq]
              exact ⟨fun same => ⟨same.symm, version, order, audit, expiry⟩, fun h => h.1.symm⟩
            · exact refused (fun is => any_isCurrent.mpr is.expiry) ‹_›
          · exact refused (fun is => any_isString.mpr (is.expiry.imp fun _ => And.left)) ‹_›
        · exact refused (fun is => any_isArray.mpr is.audit) ‹_›
      · exact refused (fun is => any_isString.mpr is.order) ‹_›
    · exact refused (fun is => any_isInt.mpr is.version) ‹_›
  · simp only [truthy]
    exact refused IsSnapshot.truthy truthy

/-! ### Tokens -/

theorem utf8_sign_length (R : Runtime) (secret payload : Text) : (utf8 (R.sign secret payload)).length = 64 := by
  rw [length_utf8_eq_iff.mpr (R.ascii_sign secret payload), R.length_sign]

/-- Signatures are compared by their bytes, where those are as many. -/
theorem timingSafeEqual_sign (R : Runtime) (secret payload : Text) {signature : Text}
    (length : signature.length = 64) :
    timingSafeEqual (utf8 signature) (utf8 (R.sign secret payload)) =
      if (utf8 signature).length ≠ 64 then .error .rangeError
      else .ok (decide (signature = R.sign secret payload)) := by
  unfold timingSafeEqual
  rw [utf8_sign_length]
  split
  · rfl
  · rename_i bytes
    have ascii := length_utf8_eq_iff.mp ((not_not.mp bytes).trans length.symm)
    simp only [utf8_inj ascii (R.ascii_sign secret payload)]

/-- What is made of a token with a full stop, by the texts before and after the last one. -/
theorem openSnapshot_eq (R : Runtime) (secret : Text) (nowIso : Option String) (clock : Int) {payload signature : Text}
    (some_ : payload ≠ []) (last : stop ∉ signature) :
    openSnapshot R (payload ++ stop :: signature) secret nowIso clock =
      if signature.length ≠ 64 then .ok none
      else if (utf8 signature).length ≠ 64 then .error .rangeError
      else if signature ≠ R.sign secret payload then .ok none
      else match R.read payload with
        | none => .ok none
        | some snapshot => checkSnapshot snapshot (nowIso.getD (isoString clock)) := by
  obtain ⟨dot, length⟩ : ∃ dot, payload.length = dot + 1 :=
    Nat.exists_eq_succ_of_ne_zero (List.length_pos_iff.mpr some_).ne'
  have before_ : (payload ++ stop :: signature).take (dot + 1) = payload := by
    rw [← length, List.take_left]
  have after : (payload ++ stop :: signature).drop (dot + 2) = signature := by
    rw [show dot + 2 = payload.length + 1 by omega, ← List.drop_drop, List.drop_left]
    rfl
  unfold openSnapshot
  rw [lastIndexOf_append payload last, length]
  simp only [before_, after, R.length_sign]
  split
  · rfl
  · rename_i sized
    rw [timingSafeEqual_sign R secret payload (not_not.mp sized)]
    split
    · rfl
    · by_cases signed : signature = R.sign secret payload
      · simp [signed, bind, Except.bind, pure, Except.pure]
      · simp [signed, bind, Except.bind, pure, Except.pure]

/-- A token that opens is signed, and what it carries is a snapshot in date. -/
def Opens (R : Runtime) (token secret : Text) (now : String) (snapshot : Json) : Prop :=
  ∃ payload signature, token = payload ++ stop :: signature ∧ signature = R.sign secret payload ∧
    R.read payload = some snapshot ∧ IsSnapshot now snapshot

/-- Nothing is thrown, and just the tokens that open do. -/
def TotalAndExact (R : Runtime) (token secret : Text) (nowIso : Option String) (clock : Int) : Prop :=
  ∃ r, openSnapshot R token secret nowIso clock = .ok r ∧
    ∀ snapshot, r = some snapshot ↔ Opens R token secret (nowIso.getD (isoString clock)) snapshot

/-- The text after the last full stop is as long as a signature, and is not ASCII; and there is a text
before it. -/
def Misfit (token : Text) : Prop :=
  ∃ payload signature, token = payload ++ stop :: signature ∧ payload ≠ [] ∧ stop ∉ signature ∧
    signature.length = 64 ∧ ∃ u ∈ signature, isAscii u = false

/-- A token opens by its last full stop. -/
theorem opens_iff {R : Runtime} {payload signature secret : Text} {now : String} {snapshot : Json}
    (last : stop ∉ signature) :
    Opens R (payload ++ stop :: signature) secret now snapshot ↔
      signature = R.sign secret payload ∧ R.read payload = some snapshot ∧ IsSnapshot now snapshot := by
  constructor
  · rintro ⟨payload', signature', same, rfl, read, is⟩
    have found := lastIndexOf_append payload last
    rw [same, lastIndexOf_append payload' (R.stop_not_mem_sign secret payload')] at found
    obtain ⟨rfl, rest⟩ := List.append_inj same (Option.some.inj found).symm
    obtain ⟨-, rfl⟩ := List.cons.inj rest
    exact ⟨rfl, read, is⟩
  · rintro ⟨signed, read, is⟩
    exact ⟨payload, signature, rfl, signed, read, is⟩

/-- No token without a text before its last full stop opens. -/
theorem not_opens {R : Runtime} {token secret : Text} {now : String} {snapshot : Json}
    (bare : ∀ payload signature, token = payload ++ stop :: signature → stop ∉ signature → payload = []) :
    ¬ Opens R token secret now snapshot := by
  rintro ⟨payload, signature, split, rfl, read, -⟩
  rw [bare payload _ split (R.stop_not_mem_sign secret payload), R.read_nil] at read
  cases read

/-- A token is split at its last full stop, or is refused as it is. -/
theorem split_or_refused (token : Text) :
    (∃ payload signature, token = payload ++ stop :: signature ∧ payload ≠ [] ∧ stop ∉ signature) ∨
      ((∀ R secret nowIso clock, openSnapshot R token secret nowIso clock = .ok none) ∧
        ∀ payload signature, token = payload ++ stop :: signature → stop ∉ signature → payload = []) := by
  cases found : lastIndexOf stop token with
  | none =>
      refine .inr ⟨fun _ _ _ _ => by rw [openSnapshot, found]; rfl, fun payload signature split _ => ?_⟩
      exact absurd (split ▸ by simp) (lastIndexOf_eq_none.mp found)
  | some i =>
      obtain ⟨payload, signature, rfl, length, last⟩ := lastIndexOf_eq_some found
      cases i with
      | succ dot => exact .inl ⟨payload, signature, rfl, List.ne_nil_of_length_eq_add_one length, last⟩
      | zero =>
          refine .inr ⟨fun _ _ _ _ => by rw [openSnapshot, found]; rfl, fun payload' signature' split last' => ?_⟩
          rw [split, lastIndexOf_append payload' last'] at found
          exact List.length_eq_zero_iff.mp (Option.some.inj found)

/-- A token is a misfit where its signature has more bytes than units. -/
theorem misfit_iff {payload signature : Text} (some_ : payload ≠ []) (last : stop ∉ signature) :
    Misfit (payload ++ stop :: signature) ↔ signature.length = 64 ∧ (utf8 signature).length ≠ 64 := by
  constructor
  · rintro ⟨payload', signature', same, -, last', sized, u, mem, other⟩
    have found := lastIndexOf_append payload last
    rw [same, lastIndexOf_append payload' last'] at found
    obtain ⟨rfl, rest⟩ := List.append_inj same (Option.some.inj found).symm
    obtain ⟨-, rfl⟩ := List.cons.inj rest
    refine ⟨sized, fun bytes => ?_⟩
    have ascii := length_utf8_eq_iff.mp (bytes.trans sized.symm) u mem
    rw [other] at ascii
    cases ascii
  · rintro ⟨sized, bytes⟩
    refine ⟨payload, signature, rfl, some_, last, sized, ?_⟩
    by_contra none_
    push Not at none_
    refine bytes ((length_utf8_eq_iff.mpr fun u mem => ?_).trans sized)
    simpa using none_ u mem

/-- Opening a token is total and exact unless it is a misfit. -/
theorem openSnapshot_iff (R : Runtime) (token secret : Text) (nowIso : Option String) (clock : Int) :
    TotalAndExact R token secret nowIso clock ↔ ¬ Misfit token := by
  rcases split_or_refused token with ⟨payload, signature, rfl, some_, last⟩ | ⟨refused, bare⟩
  · unfold TotalAndExact
    rw [misfit_iff some_ last, openSnapshot_eq R secret nowIso clock some_ last]
    simp only [opens_iff last]
    split
    · rename_i sized
      refine iff_of_true ⟨none, rfl, fun snapshot => ?_⟩ fun misfit => sized misfit.1
      simp only [reduceCtorEq, false_iff, not_and]
      intro signed
      exact absurd (signed ▸ R.length_sign secret payload) sized
    · rename_i sized
      split
      · rename_i bytes
        refine iff_of_false ?_ (not_not.mpr ⟨not_not.mp sized, bytes⟩)
        rintro ⟨r, thrown, -⟩
        cases thrown
      · rename_i bytes
        refine iff_of_true ?_ fun misfit => bytes misfit.2
        split
        · rename_i unsigned
          exact ⟨none, rfl, fun snapshot => by simp [unsigned]⟩
        · rename_i signed
          cases read : R.read payload with
          | none => exact ⟨none, rfl, fun snapshot => by simp⟩
          | some snapshot =>
              obtain ⟨r, checked, exact_⟩ := checkSnapshot_eq snapshot (nowIso.getD (isoString clock))
              refine ⟨r, checked, fun v => ?_⟩
              rw [exact_]
              constructor
              · rintro ⟨rfl, is⟩
                exact ⟨not_not.mp signed, rfl, is⟩
              · rintro ⟨-, same, is⟩
                obtain rfl := Option.some.inj same
                exact ⟨rfl, is⟩
  · have total : TotalAndExact R token secret nowIso clock :=
      ⟨none, refused R secret nowIso clock, fun snapshot => by simp [not_opens bare]⟩
    have fits : ¬ Misfit token := by
      rintro ⟨payload, signature, split, some_, last, -⟩
      exact some_ (bare payload signature split last)
    exact iff_of_true total fits

/-- A runtime whose signatures are all the same, and to which nothing can be inflated. -/
def plainRuntime : Runtime where
  hmacSha256 _ _ := .replicate 32 0xab
  fromBase64Url _ := []
  inflate _ := none
  parseJson _ := none
  fromBase64Url_nil := rfl
  inflate_nil := rfl

/-- `x.éé…é`, with as many letters after the full stop as a signature has. -/
def accented : Text := [0x78] ++ stop :: List.replicate 64 0xe9

/-- The letters are sixty-four units, and twice as many bytes. -/
theorem openSnapshot_accented :
    openSnapshot plainRuntime accented [0x73] none 0 = .error .rangeError ∧
      ¬ TotalAndExact plainRuntime accented [0x73] none 0 := by
  have thrown : openSnapshot plainRuntime accented [0x73] none 0 = .error .rangeError := by
    have last : stop ∉ List.replicate 64 (0xe9 : UInt16) := by
      rw [List.mem_replicate]
      decide
    have bytes : (utf8 (List.replicate 64 (0xe9 : UInt16))).length ≠ 64 := by decide +kernel
    rw [accented, openSnapshot_eq plainRuntime [0x73] none 0 (by simp) last, List.length_replicate,
      if_neg (by simp), if_pos bytes]
  refine ⟨thrown, ?_⟩
  rintro ⟨r, opened, -⟩
  rw [thrown] at opened
  cases opened

end AgentReady.SessionToken
