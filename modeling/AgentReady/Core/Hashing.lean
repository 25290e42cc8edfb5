import AgentReady.Core.Coordinator
import AgentReady.Domain.Injective

/-!
What a digest says (`packages/core/src/hashing.ts`, `packages/domain/src/canonical.ts`).

* `canonical_injective`: values with one canonical text match; and where SHA-256 has no collisions, envelopes
  with one digest are equal, and so are requests with one hash.
-/

namespace AgentReady

open Json

/-- The value of a request, and of its operation. -/
def OperationRequest.toJson (r : OperationRequest) : Json :=
  .obj (("operationType", .str r.operationType) :: r.fields.map fun f => (f.1, f.2.toJson))

/-- No field is there twice, or has the name of the operation's. -/
def OperationRequest.Proper (r : OperationRequest) : Prop :=
  ("operationType" :: r.fields.map Prod.fst).Nodup

/-- Requests for one operation, with the same fields in any order. -/
def OperationRequest.Same (r r' : OperationRequest) : Prop :=
  r.operationType = r'.operationType ∧
    (Json.obj (r.fields.map fun f => (f.1, f.2.toJson))).Matches
      (.obj (r'.fields.map fun f => (f.1, f.2.toJson)))

theorem RequestField.writable (f : RequestField) : f.toJson.Writable := by
  cases f with
  | text s => trivial
  | number n => exact minorJson_writable n
  | flag b => trivial

theorem OperationRequest.Proper.writable {r : OperationRequest} (proper : r.Proper) : r.toJson.Writable := by
  constructor
  · change ("operationType" :: (r.fields.map fun f => (f.1, f.2.toJson)).map Prod.fst).Nodup
    rwa [List.map_map]
  · refine ⟨trivial, writableFields_iff.mpr fun f mem => ?_⟩
    obtain ⟨field, -, rfl⟩ := List.mem_map.mp mem
    exact field.2.writable

/-- A field under another key is not looked for. -/
theorem matchesFields_of_free {as bs : List (String × Json)} {key : String} {value : Json}
    (free : key ∉ as.map Prod.fst) : MatchesFields as ((key, value) :: bs) ↔ MatchesFields as bs := by
  induction as with
  | nil => exact Iff.rfl
  | cons f as ih =>
      obtain ⟨k, a⟩ := f
      simp only [List.map_cons, List.mem_cons, not_or] at free
      simp only [matchesFields_cons, field?, if_neg free.1, ih free.2]

theorem OperationRequest.matches_iff {r r' : OperationRequest} (proper : r.Proper) :
    r.toJson.Matches r'.toJson ↔ r.Same r' := by
  have free : "operationType" ∉ (r.fields.map fun f => (f.1, f.2.toJson)).map Prod.fst := by
    simpa [Function.comp_def] using (List.nodup_cons.mp proper).1
  simp only [OperationRequest.toJson, Same, matches_obj, matchesFields_cons, matchesFields_of_free free, field?,
    if_true, Option.some.injEq, exists_eq_left', matches_str, Json.str.injEq, List.length_cons,
    Nat.add_right_cancel_iff]
  rw [and_left_comm, eq_comm]

/-- Requests have one hash where they are the same, and only there. -/
theorem canonicalRequestHash_eq_iff {P : Platform} (collisionFree : Function.Injective P.sha256)
    {r r' : OperationRequest} (proper : r.Proper) (proper' : r'.Proper) :
    P.canonicalRequestHash r = P.canonicalRequestHash r' ↔ r.Same r' := by
  obtain ⟨text, wrote⟩ := canonicalize_total r.toJson proper.writable
  obtain ⟨text', wrote'⟩ := canonicalize_total r'.toJson proper'.writable
  have hash : P.canonicalRequestHash r = P.sha256 text := by
    rw [Platform.canonicalRequestHash, show canonicalize (.obj _) = .ok text from wrote]
  have hash' : P.canonicalRequestHash r' = P.sha256 text' := by
    rw [Platform.canonicalRequestHash, show canonicalize (.obj _) = .ok text' from wrote']
  rw [hash, hash', collisionFree.eq_iff, ← OperationRequest.matches_iff proper,
    ← canonicalize_eq_iff proper.writable proper'.writable, wrote, wrote', Except.ok.injEq]

/-- Values with one canonical text match; envelopes with one digest are equal, and requests with one hash
are the same. -/
theorem canonical_injective (P : Platform) :
    (∀ a b : Json, a.Writable → b.Writable → (canonicalize a = canonicalize b ↔ a.Matches b)) ∧
    (Function.Injective P.sha256 →
      (∀ e e' : CommerceEnvelope, P.envelopeDigest e = P.envelopeDigest e' → e = e') ∧
      ∀ r r' : OperationRequest, r.Proper → r'.Proper →
        P.canonicalRequestHash r = P.canonicalRequestHash r' → r.Same r') := by
  refine ⟨fun a b writable writable' => canonicalize_eq_iff writable writable', fun collisionFree => ⟨?_, ?_⟩⟩
  · intro e e' same
    exact canonicalText_injective (collisionFree same)
  · intro r r' proper proper' same
    exact (canonicalRequestHash_eq_iff collisionFree proper proper').mp same

/-- A platform on which the digest of a text is the text. -/
def Sample.textPlatform : Platform where
  sha256 := id
  hmacSha256 _ := id
  randomHex _ := ""
  parseDate _ := none
  parseJson _ := none
  localOffset := 0

/-- Two objects whose keys are in another order, and the requests of two quotes. -/
theorem canonical_injective_quotes :
    canonicalize (.obj [("b", .str "]"), ("a", .num 1)]) = canonicalize (.obj [("a", .num 1), ("b", .str "]")]) ∧
    Sample.textPlatform.canonicalRequestHash
        ⟨"quote.build", [("orderId", .text "a,b"), ("productId", .text "c")]⟩ ≠
      Sample.textPlatform.canonicalRequestHash
        ⟨"quote.build", [("orderId", .text "a"), ("productId", .text "b,c")]⟩ := by
  have decimal : Number.Decimal 1 := ⟨0, by norm_num⟩
  obtain ⟨values, digests⟩ := canonical_injective Sample.textPlatform
  refine ⟨(values _ _ ?_ ?_).mpr ?_, fun same => ?_⟩
  · simpa [Json.Writable, WritableFields] using decimal
  · simpa [Json.Writable, WritableFields] using decimal
  · simp [field?]
  · have equal := (digests Function.injective_id).2 _ _ (by simp [OperationRequest.Proper])
      (by simp [OperationRequest.Proper]) same
    simp [OperationRequest.Same, RequestField.toJson, field?] at equal

end AgentReady
