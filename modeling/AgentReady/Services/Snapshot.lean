import AgentReady.Services.Commands

/-!
Session snapshots (`apps/web/lib/session-token.ts`, and `exportSession` and `importSession` of
`apps/web/lib/services.ts`).

A snapshot carries the state of one order from one server instance to another, under the signature of
the server. Its JSON text, compressed, is `deflate`; a text that is no compressed JSON text of a snapshot
is `inflate`d to nothing.

* `openSnapshot_sealSnapshot`: a sealed snapshot opens until it expires.
-/

namespace AgentReady

open Svc Coop

def sessionSnapshotVersion : Int := 1

def sessionSnapshotTtlMs : Int := 24 * 60 * 60 * 1000

structure SessionSnapshot where
  version : Int
  issuedAt : String
  expiresAt : String
  session : Session
  envelope : Option EnvelopeRecord
  mandate : Option PurchaseMandate
  audit : List AuditEvent

/-- The compressed JSON text of a snapshot, in base64url, and back. -/
structure SnapshotCodec where
  deflate : SessionSnapshot → String
  inflate : String → Option SessionSnapshot

namespace SnapshotCodec

variable (codec : SnapshotCodec) (P : Platform) (secret : String)

def sealSnapshot (snapshot : SessionSnapshot) : String :=
  codec.deflate snapshot ++ "." ++ P.hmacSha256 secret (codec.deflate snapshot)

end SnapshotCodec

/-- The texts before and after the last full stop, where there is something before it. -/
def splitToken (token : String) : Option (String × String) :=
  let after := token.toList.reverse.takeWhile (· ≠ '.')
  match token.toList.reverse.dropWhile (· ≠ '.') with
  | _ :: c :: before => some (String.ofList (c :: before).reverse, String.ofList after.reverse)
  | _ => none

namespace SnapshotCodec

variable (codec : SnapshotCodec) (P : Platform) (secret : String)

/-- `openSnapshot`, at a time. -/
def openSnapshot (token : String) (nowIso : String) : Option SessionSnapshot := do
  let (payload, signature) ← splitToken token
  if signature ≠ P.hmacSha256 secret payload then none
  else
    let snapshot ← codec.inflate payload
    if snapshot.version ≠ sessionSnapshotVersion then none
    else if snapshot.expiresAt < nowIso then none
    else some snapshot

/-- What is relied on of the codec and of HMAC: the snapshot comes back, and the texts are base64url
and hexadecimal, so that they have no full stop. -/
structure RoundTrips (snapshot : SessionSnapshot) : Prop where
  inflated : codec.inflate (codec.deflate snapshot) = some snapshot
  nonempty : codec.deflate snapshot ≠ ""
  hex : '.' ∉ (P.hmacSha256 secret (codec.deflate snapshot)).toList

end SnapshotCodec

section Tokens

variable {codec : SnapshotCodec} {P : Platform} {secret : String} {snapshot : SessionSnapshot}

theorem splitToken_append {payload signature : String} (nonempty : payload ≠ "")
    (plain : '.' ∉ signature.toList) :
    splitToken (payload ++ "." ++ signature) = some (payload, signature) := by
  have reversed : (payload ++ "." ++ signature).toList.reverse =
      signature.toList.reverse ++ '.' :: payload.toList.reverse := by
    simp [String.toList_append]
  have stops : ∀ c ∈ signature.toList.reverse, decide (c ≠ '.') = true := by
    intro c mem
    refine decide_eq_true fun same => plain ?_
    rw [← same]
    exact List.mem_reverse.mp mem
  unfold splitToken
  dsimp only
  rw [reversed, List.takeWhile_append_of_pos stops, List.dropWhile_append_of_pos stops]
  cases rest : payload.toList.reverse with
  | nil =>
      have empty : payload.toList = [] := List.reverse_eq_nil_iff.mp rest
      exact (nonempty (String.toList_eq_nil_iff.mp empty)).elim
  | cons c before =>
      simp only [List.takeWhile, List.dropWhile, ne_eq, not_true_eq_false, decide_false]
      rw [← rest]
      simp

/-- A sealed snapshot opens until it expires. -/
theorem openSnapshot_sealSnapshot (trips : codec.RoundTrips P secret snapshot)
    (version : snapshot.version = sessionSnapshotVersion) {nowIso : String} :
    codec.openSnapshot P secret (codec.sealSnapshot P secret snapshot) nowIso =
      if snapshot.expiresAt < nowIso then none else some snapshot := by
  unfold SnapshotCodec.openSnapshot SnapshotCodec.sealSnapshot
  rw [splitToken_append trips.nonempty trips.hex]
  simp [trips.inflated, version]

end Tokens

/-! ### Exporting and importing -/

/-- `timeline`: the events of an order, in the order of their times. -/
def Services.timeline (s : Services) (orderId : String) : List AuditEvent :=
  (s.audit.filter (·.logicalOrderId = orderId)).insertionSort fun a b => a.occurredAt ≤ b.occurredAt

/-- The snapshot of an order as it stands. -/
def Services.snapshot? (s : Services) (orderId : String) : Option SessionSnapshot :=
  (s.sessions.get? orderId).map fun session =>
    { version := sessionSnapshotVersion
      issuedAt := isoString s.clock
      expiresAt := isoString (s.clock + sessionSnapshotTtlMs)
      session
      envelope := s.envelopes.get? orderId
      mandate := s.mandates.get? session.customerId
      audit := s.timeline orderId }

/-- How an import ends: the order and its state, or an error. -/
inductive ImportResult where
  | ok (orderId : String) (state : OrderState)
  | error (message : String)

/-- What is answered by the operations and by the export and import of sessions. -/
inductive OperationReply where
  | reply (reply : Reply)
  | token (token : Option String)
  | imported (result : ImportResult)

def exportSession (cfg : Config) (codec : SnapshotCodec) (orderId : String) : Svc OperationReply := do
  match (← Proc.read).snapshot? orderId with
  | none => return .token none
  | some snapshot =>
      ask .yield
      return .token (some (codec.sealSnapshot cfg.platform cfg.signingSecret snapshot))

/-- The Razorpay event that an audit event refers to. -/
def AuditEvent.webhookEvent? (event : AuditEvent) : Option String :=
  (event.externalReferences.find? (·.1 = "eventId")).map Prod.snd

/-- The Razorpay event of an imported audit event counts as processed. -/
def replayWebhook (event : AuditEvent) : Svc Unit := do
  match event.webhookEvent? with
  | none => return ()
  | some eventId =>
      if !(← Proc.read).webhookDedup.has eventId then
        Proc.modify fun s => { s with webhookDedup := s.webhookDedup.set eventId event.occurredAt }

/-- Whether an event is stored is asked, and waited for, before it is stored. -/
def importEvent (event : AuditEvent) : Svc Unit := do
  let known := (← Proc.read).audit.any (·.eventId = event.eventId)
  ask .yield
  if !known then
    Proc.modify fun s => { s with audit := s.audit ++ [event] }
    ask .yield
  replayWebhook event

def importAudit (orderId : String) : List AuditEvent → Svc Unit
  | [] => return ()
  | event :: rest => do
      if event.logicalOrderId = orderId then importEvent event
      importAudit orderId rest

/-- The services with the session, the record and the mandate of a snapshot, where it has them. -/
def Services.adopt (s : Services) (snapshot : SessionSnapshot) : Services :=
  { s with
    sessions := s.sessions.set snapshot.session.logicalOrderId snapshot.session
    envelopes := match snapshot.envelope with
      | some record => s.envelopes.set snapshot.session.logicalOrderId record
      | none => s.envelopes
    mandates := match snapshot.mandate with
      | some mandate => s.mandates.set snapshot.session.customerId mandate
      | none => s.mandates }

/-- The snapshot is of the order that is expected, and its record carries its own digest. -/
def SessionSnapshot.refusal? (cfg : Config) (expectedOrderId : Option String)
    (snapshot : SessionSnapshot) : Option String :=
  if truthy expectedOrderId && some snapshot.session.logicalOrderId ≠ expectedOrderId then
    some "Session token does not match this order — start a new conversation."
  else if snapshot.envelope.any fun record =>
      cfg.platform.envelopeDigest record.envelope ≠ record.digest then
    some "Session snapshot failed integrity check — start a new conversation."
  else none

def importSession (cfg : Config) (codec : SnapshotCodec) (token : String)
    (expectedOrderId : Option String) : Svc OperationReply := do
  match codec.openSnapshot cfg.platform cfg.signingSecret token (isoString (← now)) with
  | none =>
      return .imported
        (.error "Invalid or expired session token — start a new conversation.")
  | some snapshot =>
  match snapshot.refusal? cfg expectedOrderId with
  | some message => return .imported (.error message)
  | none =>
      Proc.modify fun s => s.adopt snapshot
      importAudit snapshot.session.logicalOrderId snapshot.audit
      Proc.modify pruneSessionCache
      return .imported (.ok snapshot.session.logicalOrderId snapshot.session.state)

/-- An operation of a server instance. -/
inductive Operation where
  | command (command : Command)
  | exportSession (orderId : String)
  | importSession (token : String) (expectedOrderId : Option String)

def Operation.op (cfg : Config) (codec : SnapshotCodec) : Operation → Svc OperationReply
  | .command c => do return .reply (← c.op cfg)
  | .exportSession orderId => AgentReady.exportSession cfg codec orderId
  | .importSession token expectedOrderId => AgentReady.importSession cfg codec token expectedOrderId

end AgentReady
