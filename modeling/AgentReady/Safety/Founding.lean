import AgentReady.Lifecycle.Calls
import AgentReady.Safety.Delivery

/-!
Where the stored records and mandates come from.

A record is only ever set by a quote or by a tampered envelope, and a mandate only for the demo customer; so
what is stored can be described by how the code builds it.

* `Built`: an envelope as quotes and tampering build it, and `Built.shape`, what it is like.
* `Founded`: every record is sealed over such an envelope, and every mandate is the standard one.
* `founding_op`: every command keeps it.
-/

namespace AgentReady

open Coop Svc

/-! ### Envelopes -/

/-- An envelope of an order as the code builds it. -/
inductive Built (P : Platform) (o : String) : CommerceEnvelope → Prop where
  | quoted {cfg : Config} {session : Session} {product : CatalogProduct} {variant : CatalogVariant}
      {mandateId quoteId holdId nonce : String} {now : Int} (platform : cfg.platform = P)
      (customer : session.customerId = demoCustomer) (listed : product ∈ shoeCatalog.products)
      (offered : variant ∈ product.variants) (stocked : 0 < variant.inStock) :
      Built P o (quoteEnvelope cfg o session product variant mandateId now quoteId holdId nonce)
  | tampered {e : CommerceEnvelope} (before : Built P o e) (field nonce : String) :
      Built P o (tamperEnvelope e field nonce).1

/-- What an envelope of an order is like: one piece of a listed product that was in stock, at its price less
₹50 for each time that the price was tampered with, and the fee for shipping. -/
structure Shaped (o : String) (e : CommerceEnvelope) (item : EnvelopeItem) (product : CatalogProduct)
    (variant : CatalogVariant) (cuts : Nat) : Prop where
  order : e.logicalOrderId = o
  merchant : e.merchantId = shoeCatalog.merchantId
  customer : e.customerId = demoCustomer
  currency : e.currency = "INR"
  items : e.items = [item]
  listed : product ∈ shoeCatalog.products
  offered : variant ∈ product.variants
  stocked : 0 < variant.inStock
  productId : item.productId = product.productId
  sku : item.sku = variant.sku
  quantity : item.quantity = 1
  unit : item.unitAmountMinor = product.priceMinor - 5000 * cuts
  subtotal : e.subtotalMinor = item.unitAmountMinor
  tax : e.taxMinor = 0
  shipping : e.shippingMinor = 4900
  total : e.totalMinor = e.subtotalMinor + e.shippingMinor

theorem Built.shape {P : Platform} {o : String} {e : CommerceEnvelope} (built : Built P o e) :
    ∃ item product variant cuts, Shaped o e item product variant cuts := by
  induction built with
  | @quoted cfg session product variant _ _ _ _ _ platform customer listed offered stocked =>
      refine ⟨_, product, variant, 0, rfl, rfl, customer, rfl, rfl, listed, offered, stocked, rfl, rfl, rfl, ?_, ?_,
        rfl, rfl, ?_⟩
      all_goals simp [quoteEnvelope, estimateShipping]
  | @tampered e _ field nonce ih =>
      obtain ⟨item, product, variant, cuts, shaped⟩ := ih
      unfold tamperEnvelope
      rw [shaped.items]
      dsimp only
      split
      · have unit : item.unitAmountMinor - 5000 = product.priceMinor - 5000 * ((cuts + 1 : Nat) : Int) := by
          rw [shaped.unit]
          omega
        exact ⟨{ item with unitAmountMinor := item.unitAmountMinor - 5000 }, product, variant, cuts + 1,
          { shaped with items := rfl, unit := unit, subtotal := rfl, total := rfl }⟩
      · split
        · exact ⟨{ item with variant := { item.variant with size := "UK 10" } }, product, variant, cuts,
            { shaped with items := rfl }⟩
        · exact ⟨item, product, variant, cuts, { shaped with items := rfl }⟩

/-- The dearest shoe, and its shipping. -/
theorem Shaped.total_le {o : String} {e : CommerceEnvelope} {item : EnvelopeItem} {product : CatalogProduct}
    {variant : CatalogVariant} {cuts : Nat} (shaped : Shaped o e item product variant cuts) :
    e.totalMinor ≤ 494800 := by
  have dearest : ∀ product ∈ shoeCatalog.products, product.priceMinor ≤ 489900 := by decide
  have price := dearest product shaped.listed
  have total := shaped.total
  rw [shaped.subtotal, shaped.unit, shaped.shipping] at total
  omega

/-! ### What is stored -/

/-- A record sealed over an envelope of its order. -/
structure Sealed (P : Platform) (secret o : String) (r : EnvelopeRecord) : Prop where
  built : Built P o r.envelope
  digest : r.digest = P.envelopeDigest r.envelope
  signature : r.signature = P.signEnvelope r.envelope secret

/-- Which mandates may be current, and which may be named by the record of an order: at least those that are
current. -/
structure Naming where
  current : PurchaseMandate → Prop
  names : String → String → Prop
  issued : ∀ mandate, current mandate → ∀ o, names o mandate.mandateId

def Naming.any : Naming := ⟨fun _ => True, fun _ _ => True, fun _ _ _ => trivial⟩

structure Founded (P : Platform) (secret : String) (N : Naming) (s : Services) : Prop where
  records : ∀ o r, s.envelopes.get? o = some r → Sealed P secret o r ∧ N.names o r.envelope.mandateId
  mandates : ∀ customer mandate, s.mandates.get? customer = some mandate → customer = demoCustomer ∧
    (∃ mandateId now, mandate = buildMandate demoCustomer mandateId now) ∧ N.current mandate

/-- The customer of every session is the one who has mandates. -/
theorem Founded.customer {P : Platform} {secret : String} {N : Naming} {s : Services} (founded : Founded P secret N s)
    (vested : Vested s) {o : String} {x : Session} (stored : s.sessions.get? o = some x) :
    x.customerId = demoCustomer := by
  obtain ⟨mandate, given⟩ := Option.isSome_iff_exists.mp (vested o x stored)
  exact (founded.mandates _ _ given).1

theorem mandateId_tamperEnvelope (e : CommerceEnvelope) (field nonce : String) :
    (tamperEnvelope e field nonce).1.mandateId = e.mandateId := by
  unfold tamperEnvelope
  repeat' split
  all_goals rfl

/-- A record is deleted, or set to one that is sealed. -/
theorem Founded.replaceOrder {P : Platform} {secret o : String} {N : Naming} {s : Services}
    {record : Option EnvelopeRecord} (founded : Founded P secret N s)
    (sealed : ∀ r, record = some r → Sealed P secret o r ∧ N.names o r.envelope.mandateId) (f : Session → Session) :
    Founded P secret N (s.replaceOrder o record f) := by
  unfold Services.replaceOrder
  split
  · exact founded
  refine ⟨fun o' r found => ?_, founded.mandates⟩
  by_cases same : o' = o
  · subst same
    cases record with
    | none => simp at found
    | some record =>
        simp only [OrderedMap.get?_set_self] at found
        exact sealed r found
  · refine founded.records o' r ?_
    cases record with
    | none => simpa [OrderedMap.get?_erase_of_ne _ same] using found
    | some record => simpa [OrderedMap.get?_set_of_ne _ same] using found

theorem Evolves.replaceOrder {cfg : Config} {marks : String → Prop} {o : String} (record : Option EnvelopeRecord)
    {f : Session → Session} (id : ∀ x, (f x).logicalOrderId = x.logicalOrderId)
    (customer : ∀ x, (f x).customerId = x.customerId) (s : Services) :
    Evolves cfg marks s (s.replaceOrder o record f) :=
  Evolving.replaceOrder o record id customer s s (.refl s)

/-- What is stored stays founded; new mandates are only issued where `issues`. -/
def Retains (P : Platform) (secret : String) (issues : Prop) (s s' : Services) : Prop :=
  ∀ N : Naming, (issues → ∀ mandate, N.current mandate) → Vested s → Founded P secret N s → Founded P secret N s'

/-- The services evolve, and what is stored stays founded. -/
structure Founds (cfg : Config) (issues : Prop) (s s' : Services) : Prop where
  evolves : Evolves cfg (fun _ => True) s s'
  founded : Retains cfg.platform cfg.signingSecret issues s s'

namespace Founds

variable {cfg : Config} {issues : Prop} {s s' s'' : Services}

/-- No record and no mandate is written. -/
theorem quiet (evolves : Evolves cfg (fun _ => True) s s')
    (records : ∀ o r, s'.envelopes.get? o = some r → s.envelopes.get? o = some r)
    (mandates : s'.mandates = s.mandates) : Founds cfg issues s s' where
  evolves := evolves
  founded _ _ _ founded := ⟨fun o r stored => founded.records o r (records o r stored), mandates ▸ founded.mandates⟩

theorem refl (s : Services) : Founds cfg issues s s := quiet (.refl s) (fun _ _ => id) rfl

theorem trans (h : Founds cfg issues s s') (h' : Founds cfg issues s' s'') : Founds cfg issues s s'' where
  evolves := h.evolves.trans h'.evolves
  founded N fresh vested founded := h'.founded N fresh (h.evolves.vested vested) (h.founded N fresh vested founded)

/-- Of what is stored, nothing is written. -/
theorem kept (sessions : s'.sessions = s.sessions) (envelopes : s'.envelopes = s.envelopes)
    (mandates : s'.mandates = s.mandates) (draws : s.draws ≤ s'.draws) (audit : s'.audit = s.audit)
    (dedup : s'.webhookDedup = s.webhookDedup) : Founds cfg issues s s' :=
  quiet (.quiet sessions mandates draws audit dedup) (fun o r stored => by rwa [envelopes] at stored) mandates

theorem updateSession (o : String) {f : Session → Session} (id : ∀ x, (f x).logicalOrderId = x.logicalOrderId)
    (customer : ∀ x, (f x).customerId = x.customerId) (s : Services) :
    Founds cfg issues s (s.updateSession o f) := by
  unfold Services.updateSession
  split
  · exact .refl s
  · rename_i x stored
    exact quiet (.rewritten stored rfl (id x) (customer x) rfl rfl rfl rfl) (fun _ _ stored => stored) rfl

theorem forgotten (forgets : Forgets s s') (records : ∀ o r, s'.envelopes.get? o = some r → s.envelopes.get? o = some r) :
    Founds cfg issues s s' :=
  quiet (.forgotten forgets) records forgets.mandates

end Founds

theorem records_pruneSessionCache {s : Services} {o : String} {r : EnvelopeRecord}
    (stored : (pruneSessionCache s).envelopes.get? o = some r) : s.envelopes.get? o = some r := by
  unfold pruneSessionCache at stored
  generalize s.sessions.size = rounds at stored
  induction rounds generalizing s with
  | zero => exact stored
  | succ rounds ih =>
      unfold pruneSessionCache.go at stored
      split at stored
      · have before := ih stored
        unfold forgetOldest at before
        split at before
        · exact before
        · rename_i oldest _
          by_cases same : o = oldest
          · subst same
            simp at before
          · simpa [OrderedMap.get?_erase_of_ne _ same] using before
      · exact stored

/-! ### The operations -/

def Founding (cfg : Config) (issues : Prop) {α : Type} (p : Svc α) : Prop := Within (Founds cfg issues) p

section

variable {cfg : Config} {issues : Prop} {α β : Type}

theorem Founding.modify {f : Services → Services} (step : ∀ s, Founds cfg issues s (f s)) :
    Founding cfg issues (Proc.modify f : Svc Unit) :=
  Within.modify (fun _ _ _ => .trans) step

variable (cfg issues) in
theorem founding_structural : Structural cfg (@Founding cfg issues) where
  pure := Within.pure
  throw := Within.throw
  bind := Within.bind
  read := Within.read
  ask q := Within.bind (p := Proc.call q) (Within.call .refl q) fun _ =>
    .bind (Founding.modify fun _ => .kept rfl rfl rfl le_rfl rfl rfl) fun _ => .pure _
  newId _ := Within.bind (p := Proc.read) .read fun _ =>
    .bind (Founding.modify fun _ => .kept rfl rfl rfl (Nat.le_succ _) rfl rfl) fun _ => .pure _
  log {event} id _ s before :=
    before.trans (.quiet (.logged (event (cfg.platform.newId "evt" s.draws) s.clock) (id _ _)) (fun _ _ stored => stored) rfl)
  remember _ := Founding.modify fun _ => .kept rfl rfl rfl le_rfl rfl rfl
  updateSession o _ id customer := Founding.modify (Founds.updateSession o id customer)
  forget o _ id customer := Founding.modify fun s =>
    ⟨.replaceOrder none id customer s, fun _ _ _ founded => founded.replaceOrder (fun _ stored => by cases stored) _⟩

theorem founding_createSession (operationId : Option String) : Founding cfg True (createSession cfg operationId) := by
  have closed := founding_structural cfg True
  refine closed.bind (closed.newId _) fun o => closed.idempotent _ _ _ _ (closed.bind closed.now fun time =>
    closed.bind (closed.newId _) fun id => ?_)
  have rest : Founding cfg True (do
      Proc.modify AgentReady.pruneSessionCache
      log cfg fun eventId now =>
        { eventId, logicalOrderId := o, type := "session.created", actor := .system,
          occurredAt := now, externalReferences := [("mandateId", id)] }
      complete operationId .success (some o) none (.session (newSession o time))
      return Reply.session (newSession o time)) :=
    closed.bind (.modify fun _ => .forgotten forgets_pruneSessionCache fun _ _ => records_pruneSessionCache) fun _ =>
      closed.bind (closed.log fun _ _ => rfl) fun _ => closed.bind (closed.complete _ _ _ _ _) fun _ => closed.pure _
  intro s₀ s before
  refine rest s₀ _ (before.trans ⟨.opened o id time time, fun _ fresh _ founded => ⟨founded.records, ?_⟩⟩)
  intro customer mandate given
  by_cases demo : customer = demoCustomer
  · subst demo
    rw [OrderedMap.get?_set_self] at given
    exact ⟨rfl, ⟨id, time, (Option.some.inj given).symm⟩, fresh trivial _⟩
  · rw [OrderedMap.get?_set_of_ne _ demo] at given
    exact founded.mandates customer mandate given

/-- A selection that is accepted is of a listed product, in a variant that is in stock. -/
def Offers : SelectionValidation → Prop
  | .accepted product variant _ =>
      product ∈ shoeCatalog.products ∧ variant ∈ product.variants ∧ 0 < variant.inStock
  | .rejected .. => True

theorem checkSelection_offers {session : Session} {ranking : RankingResult} {productId : String}
    {supplied : Option RecommendationBinding} {now : Int} {product : CatalogProduct} {variant : CatalogVariant}
    (accepted : checkSelection session ranking productId supplied now = .ok (product, variant)) :
    product ∈ shoeCatalog.products ∧ variant ∈ product.variants ∧ 0 < variant.inStock := by
  unfold checkSelection at accepted
  dsimp only at accepted
  split at accepted
  · cases accepted
  rename_i found
  split at accepted
  · cases accepted
  split at accepted
  · cases accepted
  split at accepted
  · cases accepted
  split at accepted
  · cases accepted
  rename_i offered
  split at accepted
  · cases accepted
  rename_i stocked
  have listed := List.mem_of_find?_eq_some found
  have among := List.mem_of_find?_eq_some offered
  split at accepted
  · cases accepted
  repeat'
    split at accepted
    · cases accepted
  obtain ⟨rfl, rfl⟩ := Prod.mk.inj (Except.ok.inj accepted)
  exact ⟨listed, among, by omega⟩

theorem gives_validateCurrentSelection (o : String) (session : Session) (productId : String)
    (supplied : Option RecommendationBinding) :
    (validateCurrentSelection cfg o session productId supplied).Gives Offers := by
  refine .last fun current => .last fun found => .last fun now => ?_
  split
  · rename_i product variant accepted
    exact checkSelection_offers accepted
  · trivial

/-- A sealed record is set, and the rest keeps what is stored founded. -/
theorem segments_sets {o : String} {record : EnvelopeRecord} {f : Session → Session} {rest : Unit → Svc β}
    {s₀ s : Services} (id : ∀ x, (f x).logicalOrderId = x.logicalOrderId)
    (customer : ∀ x, (f x).customerId = x.customerId) (before : Founds cfg issues s₀ s)
    (sealed : ∀ N : Naming, (issues → ∀ mandate, N.current mandate) → Vested s₀ →
      Founded cfg.platform cfg.signingSecret N s₀ →
      Sealed cfg.platform cfg.signingSecret o record ∧ N.names o record.envelope.mandateId)
    (later : Founding cfg issues (rest ())) :
    (replaceOrder o (some record) f >>= rest).Segments (Founds cfg issues) (fun _ => Founds cfg issues) s₀ s := by
  refine later s₀ _ ⟨before.evolves.trans (.replaceOrder (some record) id customer s), fun N fresh vested founded => ?_⟩
  refine (before.founded N fresh vested founded).replaceOrder (fun r stored => ?_) f
  obtain rfl := Option.some.inj stored
  exact sealed N fresh vested founded

/-- A quote sets a record that is sealed over a new envelope, which names the current mandate. -/
theorem founding_buildQuote (o productId : String) (supplied : Option RecommendationBinding)
    (operationId : Option String) : Founding cfg issues (buildQuote cfg o productId supplied operationId) := by
  have closed := founding_structural cfg issues
  refine closed.idempotent _ _ _ _ fun s₀ s before => ?_
  rw [segments_session?]
  cases stored : s.sessions.get? o with
  | none => exact before
  | some session =>
  -- The session is read where the segment starts, and its record is written before the segment ends.
  have failed : ∀ (e : ServiceError) s', Founds cfg issues s s' → Founds cfg issues s₀ s' := fun _ _ => before.trans
  refine Proc.Straight.segments_bind (costs_validateCurrentSelection o session productId supplied)
    (structural_validateCurrentSelection closed o session productId supplied s s (.refl s))
    (gives_validateCurrentSelection o session productId supplied) failed fun checked s₁ offers since => ?_
  cases checked with
  | rejected message ranking binding codes => exact before.trans since
  | accepted product variant binding =>
  have drawn : ∀ (tag : String) {f : String → Svc Reply} {s' : Services}, Founds cfg issues s s' →
      (∀ id s', Founds cfg issues s s' → (f id).Segments (Founds cfg issues) (fun _ => Founds cfg issues) s₀ s') →
      (newId cfg tag >>= f).Segments (Founds cfg issues) (fun _ => Founds cfg issues) s₀ s' :=
    fun tag _ _ since next =>
      Proc.Straight.segments_bind (costs_newId tag) (closed.newId tag s _ since) (.any _) failed
        fun id s' _ => next id s'
  refine drawn "qt" since fun quoteId s₂ since => drawn "hold" since fun holdId s₃ since =>
    drawn "nonce" since fun nonce s₄ since => ?_
  rw [segments_read]
  refine Proc.Straight.segments_bind (costs_digestOf _) (closed.digestOf _ s₀ s₄ (before.trans since)) (.any _)
    (fun _ _ => id) fun digest s₅ _ later => segments_sets (fun _ => rfl) (fun _ => rfl) later
      (fun N fresh vested founded => ?_) ?_
  · have here := before.evolves.vested vested
    have founded := before.founded N fresh vested founded
    obtain ⟨mandate, given⟩ := Option.isSome_iff_exists.mp (since.evolves.mandates _ (here o session stored))
    refine ⟨⟨.quoted rfl (founded.customer here stored) offers.1 offers.2.1 offers.2.2, rfl, rfl⟩, ?_⟩
    change N.names o (((s₄.mandates.get? session.customerId).map (·.mandateId)).getD "")
    rw [given]
    exact N.issued mandate ((since.founded N fresh here founded).mandates _ mandate given).2.2 o
  · exact closed.bind (closed.setState o .awaitingApproval) fun _ => closed.bind (closed.log fun _ _ => rfl) fun _ =>
      closed.bind (closed.stateOf o) fun _ => closed.bind (closed.session? o) fun _ =>
      closed.bind (closed.complete _ _ _ _ _) fun _ => closed.pure _

/-- Tampering sets a record that is sealed over the tampered envelope. -/
theorem founding_tamper (o field : String) : Founding cfg issues (tamper cfg o field) := by
  have closed := founding_structural cfg issues
  intro s₀ s before
  unfold tamper
  rw [segments_session?]
  cases s.sessions.get? o with
  | none => exact before
  | some session =>
  dsimp only
  rw [segments_record?]
  cases stored : s.envelopes.get? o with
  | none => exact before
  | some record =>
  refine Proc.Straight.segments_bind (costs_newId "nonce") (closed.newId "nonce" s₀ _ before) (.any _) (fun _ _ => id)
    fun nonce s₁ _ later => ?_
  obtain ⟨candidate, changes, tampers⟩ : ∃ candidate changes,
      tamperEnvelope record.envelope field nonce = (candidate, changes) := ⟨_, _, rfl⟩
  rw [tampers]
  dsimp only
  split
  · exact later
  · refine Proc.Straight.segments_bind costs_now (closed.now s₀ s₁ later) (.any _) (fun _ _ => id)
      fun time s₂ _ later => segments_sets (fun _ => rfl) (fun _ => rfl) later
        (fun N fresh vested founded => ?_) ?_
    · obtain ⟨sealed_, named⟩ := (before.founded N fresh vested founded).records o record stored
      obtain rfl : candidate = (tamperEnvelope record.envelope field nonce).1 := by rw [tampers]
      refine ⟨⟨sealed_.built.tampered field nonce, rfl, rfl⟩, ?_⟩
      change N.names o (tamperEnvelope record.envelope field nonce).1.mandateId
      rwa [mandateId_tamperEnvelope]
    · exact closed.bind (closed.setState o _) fun _ => closed.bind (closed.log fun _ _ => rfl) fun _ =>
        closed.bind (closed.stateOf o) fun _ => closed.pure _

variable (cfg issues) in
theorem founding_primitives : Primitives cfg (@Founding cfg issues) where
  quotes := founding_buildQuote
  tampers := founding_tamper
  machines _ := Founding.modify fun _ => .kept rfl rfl rfl le_rfl rfl rfl
  catches := Within.catch_

/-- Every command keeps what is stored founded, and only a created session has a new mandate. -/
theorem founding_op (command : Command) : Founding cfg command.Opens (command.op cfg) :=
  structural_op (founding_structural cfg command.Opens) (founding_primitives cfg command.Opens)
    (fun operationId created => created ▸ founding_createSession operationId)
    fun _ _ => Founding.modify fun s => .quiet (.processed trivial s.clock) (fun _ _ stored => stored) rfl

end

end AgentReady
