import AgentReady.Settlement.Agreement

/-!
Runs of calls of the two stores (`packages/payments/src/x402-settlement-store.ts`).

* `Indexed.request_compares`: a call is answered alike, and leaves the same rows, exactly where it
  agrees.
* `parity_iff`: a run is answered alike exactly as long as its calls agree.
-/

namespace AgentReady.Settlement

open Sql

/-! ### The other calls -/

/-- A call is answered alike and leaves the same rows, and agrees; or it does not agree, and is not
answered alike, whatever is decrypted. -/
inductive Compares (agrees : Prop) (here : Reply × MemoryStore)
    (there : Except MachineError Reply × Indexed) : Prop where
  | alike (agree : agrees) (answer : there.1 = .ok here.1) (rows : there.2.toMemoryStore = here.2)
  | unlike (disagree : ¬ agrees)
      (answer : ∀ decrypt, there.1.map (·.decrypted decrypt) ≠ .ok (here.1.decrypted decrypt))

namespace Indexed

variable {R : Runtime} {now : Int} {draw : Nat} {fence id : String} {t : Indexed} {a new : Attempt}
  {condition : Attempt → Truth} {test : Attempt → Bool} {set : Attempt → Attempt}

theorem stored_under (stored : t.get? id = some a) : t.get? a.operationId = some a := by
  rwa [t.keyed id a stored]

/-- A row that is written over itself, under its own keys. -/
theorem lands_of_keys (stored : t.get? a.operationId = some a) (key : new.operationId = a.operationId)
    (keys : ∀ b, ∀ i : Index, i.clash b new → i.clash b a) : t.toMemoryStore.Lands new := by
  intro id b stored' ne i clash
  rw [key] at ne
  exact t.unique id _ b a stored' stored ne i (keys b i clash)

theorem free_of_lands (lands : t.toMemoryStore.Lands new) :
    clashing? t.attempts (replaced new true) new = none := by
  refine clashing?_eq_none.mpr fun id b stored other => lands id b stored ?_
  rintro rfl
  exact other rfl

theorem lands_of_free (free : clashing? t.attempts (replaced new true) new = none) :
    t.toMemoryStore.Lands new := by
  intro id b stored ne
  refine clashing?_eq_none.mp free id b stored ?_
  rintro ⟨⟩
  exact ne rfl

/-- An update that is made under the same condition in both stores, and that no index refuses. -/
theorem updateWhere_alike (same : ∀ a, t.get? id = some a → ((condition a).Fires ↔ test a = true))
    (fits : ∀ a, t.get? id = some a → test a = true → t.toMemoryStore.Lands (set a)) :
    ∃ t', t.updateWhere id condition set = .ok ((t.updateIf id test set).1.head?, t') ∧
      t'.toMemoryStore = (t.updateIf id test set).2 := by
  unfold updateWhere MemoryStore.updateIf
  cases stored : t.get? id with
  | none => exact ⟨t, rfl, rfl⟩
  | some a =>
      by_cases holds : test a = true
      · obtain ⟨t', written, rows⟩ :=
          @write_of_free t (set a) true (free_of_lands (fits a stored holds))
        rw [Option.filter_some, if_pos holds]
        dsimp only
        rw [if_pos ((same a stored).mpr holds), written]
        exact ⟨t', rfl, rows⟩
      · rw [Option.filter_some, if_neg holds]
        dsimp only
        rw [if_neg (mt (same a stored).mp holds)]
        exact ⟨t, rfl, rfl⟩

theorem compares_of_update {agrees : Prop} {call : Call} {single : call.Single}
    (condition : Attempt → Truth) (agree : agrees)
    (here : t.toMemoryStore.exec now fence call = t.updateIf id test set)
    (there : t.exec now fence call single = t.updateWhere id condition set)
    (same : ∀ a, t.get? id = some a → ((condition a).Fires ↔ test a = true))
    (fits : ∀ a, t.get? id = some a → test a = true → t.toMemoryStore.Lands (set a)) :
    Compares agrees (t.toMemoryStore.perform R now draw fence (.call call single))
      (t.perform R now draw fence (.call call single)) := by
  obtain ⟨t', done, rows⟩ := updateWhere_alike same fits
  unfold perform MemoryStore.perform attempted
  dsimp only
  rw [here, there, done]
  exact .alike agree rfl rows

theorem keys_of_held {owner fence : String} {ttl : Int} (b : Attempt) (i : Index)
    (clash : i.clash b (a.held now owner ttl fence)) : i.clash b a := by
  cases i <;> exact clash

theorem keys_of_claimed {owner fence : String} {ttl : Int} {sealedPayload digest : Option String}
    (pending : a.status = .pending) (b : Attempt) (i : Index)
    (clash : i.clash b (a.claimed now owner ttl fence sealedPayload digest)) : i.clash b a := by
  obtain ⟨there, here, same⟩ := clash
  have unresolved : a.status ∉ terminalResolved := by simp [pending, terminalResolved]
  cases i with
  | pkey | attemptDigestPayment | paymentIdOnce => exact ⟨there, trivial, same⟩
  | activeOrderIntent | pidActive => exact ⟨there, unresolved, same⟩
  | settledRequestOnce => cases here

theorem keys_of_released {evidence : ReleaseEvidence} (b : Attempt) (i : Index)
    (clash : i.clash b (a.released now evidence)) : i.clash b a := by
  obtain ⟨there, here, same⟩ := clash
  have resolved : AttemptStatus.released ∈ terminalResolved := by decide
  cases i with
  | pkey | attemptDigestPayment | paymentIdOnce => exact ⟨there, trivial, same⟩
  | activeOrderIntent | pidActive => exact (here resolved).elim
  | settledRequestOnce => cases here

/-- What a transition looks at in memory. -/
def transitionTest (from_ : List AttemptStatus) (owner held : Option String) (a : Attempt) : Bool :=
  a.status ∈ from_ ∧ (owner.isNone ∨ a.leaseOwner = owner) ∧ (held.isNone ∨ a.fenceToken = held)

section Transition

variable {from_ : List AttemptStatus} {to_ : AttemptStatus} {update : Update} {owner held : Option String}
  {single : (Call.transition id from_ to_ update owner held).Single}

theorem transition_stored (stored : t.get? id = some a) (found : transitionTest from_ owner held a = true) :
    t.toMemoryStore.exec now fence (.transition id from_ to_ update owner held) =
      ([a.transitioned now to_ update], t.toMemoryStore.put (a.transitioned now to_ update)) := by
  have there : (t.get? id).filter (transitionTest from_ owner held) = some a := by
    rw [stored, Option.filter_some, if_pos found]
  unfold transitionTest at there
  unfold MemoryStore.exec MemoryStore.updateIf
  dsimp only
  rw [there]

theorem exec_stage {single : (Call.transition id [.pending] .pending update none none).Single} :
    t.exec now fence (.transition id [.pending] .pending update none none) single =
      t.updateWhere id (fun a => is (a.status ∈ [.pending])) (·.transitioned now .pending update) := by
  simp [exec]

/-- A transition that the stores agree on. -/
theorem transition_alike (issued : (Call.transition id from_ to_ update owner held).Issued)
    (agree : t.toMemoryStore.TransitionAgrees now id from_ to_ update owner held) :
    Compares (t.toMemoryStore.TransitionAgrees now id from_ to_ update owner held)
      (t.toMemoryStore.perform R now draw fence (.call (.transition id from_ to_ update owner held) single))
      (t.perform R now draw fence (.call (.transition id from_ to_ update owner held) single)) := by
  have lands : ∀ a, t.get? id = some a → transitionTest from_ owner held a = true →
      t.toMemoryStore.Lands (a.transitioned now to_ update) := by
    intro a stored found
    simp only [transitionTest, decide_eq_true_eq] at found
    exact (agree a stored found.1 found.2.1 found.2.2).2
  cases owner with
  | none =>
      rcases issued with ⟨owned, -⟩ | ⟨-, rfl, rfl, rfl⟩
      · exact (owned rfl).elim
      refine compares_of_update _ agree rfl exec_stage (fun a _ => ?_) lands
      simp
  | some owner =>
      rcases issued with ⟨-, fenced⟩ | ⟨owned, -⟩
      · cases held with
        | none => exact (fenced rfl).elim
        | some held =>
            refine compares_of_update _ agree rfl rfl ?_ lands
            intro a stored
            rw [Truth.fires_and, fires_is, presents_fires]
            simp only [decide_eq_true_eq]
            constructor
            · rintro ⟨status, own, fence, -⟩
              exact ⟨status, .inr own, .inr fence⟩
            · rintro ⟨status, own, fence⟩
              have runs := (agree a stored status own fence).1 (by rintro ⟨⟩)
              simp only [Option.isNone_some, Bool.false_eq_true, false_or] at own fence
              exact ⟨status, own, fence, runs⟩
      · cases owned

/-- A transition that memory makes, and the database does not. -/
theorem transition_unlike (issued : (Call.transition id from_ to_ update owner held).Issued)
    (disagree : ¬ t.toMemoryStore.TransitionAgrees now id from_ to_ update owner held) :
    Compares (t.toMemoryStore.TransitionAgrees now id from_ to_ update owner held)
      (t.toMemoryStore.perform R now draw fence (.call (.transition id from_ to_ update owner held) single))
      (t.perform R now draw fence (.call (.transition id from_ to_ update owner held) single)) := by
  refine .unlike disagree fun decrypt => ?_
  unfold MemoryStore.TransitionAgrees at disagree
  push Not at disagree
  obtain ⟨a, stored, status, own, fenced, refused⟩ := disagree
  have found : transitionTest from_ owner held a = true := decide_eq_true ⟨status, own, fenced⟩
  have refusal : ∀ condition : Attempt → Truth, ¬ t.toMemoryStore.Lands (a.transitioned now to_ update) →
      (condition a).Fires → ∃ e, t.updateWhere id condition (·.transitioned now to_ update) = .error e := by
    intro condition taken fires
    obtain ⟨i, error⟩ := @write_of_clash t (a.transitioned now to_ update) true (mt lands_of_free taken)
    unfold updateWhere
    rw [stored]
    dsimp only
    rw [if_pos fires, error]
    exact ⟨_, rfl⟩
  unfold perform MemoryStore.perform attempted
  dsimp only
  rw [transition_stored stored found]
  cases owner with
  | none =>
      rcases issued with ⟨owned, -⟩ | ⟨-, rfl, rfl, rfl⟩
      · exact (owned rfl).elim
      have pending : (is (a.status ∈ [AttemptStatus.pending])).Fires := fires_is.mpr status
      obtain ⟨e, done⟩ := refusal (fun a => is (a.status ∈ [.pending]))
        (refused fun absent => (absent rfl).elim) pending
      rw [exec_stage, done]
      rintro ⟨⟩
  | some owner =>
      rcases issued with ⟨-, present⟩ | ⟨owned, -⟩
      · cases held with
        | none => exact (present rfl).elim
        | some held =>
            simp only [Option.isNone_some, Bool.false_eq_true, false_or] at own fenced
            by_cases runs : ∃ e, a.leaseExpiresAt = some e ∧ (now : Timestamp) < e
            · have fires : ((is (a.status ∈ from_)).and (a.presents now owner held)).Fires := by
                rw [Truth.fires_and, fires_is, presents_fires]
                exact ⟨status, own, fenced, runs⟩
              obtain ⟨e, done⟩ := refusal (fun a => (is (a.status ∈ from_)).and (a.presents now owner held))
                (refused fun _ => runs) fires
              have there : t.exec now fence (.transition id from_ to_ update (some owner) (some held)) single =
                  .error e := done
              rw [there]
              rintro ⟨⟩
            · have fails : ¬ ((is (a.status ∈ from_)).and (a.presents now owner held)).Fires := by
                rw [Truth.fires_and, fires_is, presents_fires]
                rintro ⟨-, -, -, running⟩
                exact runs running
              have skipped : t.updateWhere id
                  (fun a => (is (a.status ∈ from_)).and (a.presents now owner held))
                  (·.transitioned now to_ update) = .ok (none, t) := by
                unfold updateWhere
                rw [stored]
                dsimp only
                rw [if_neg fails]
                rfl
              have there : t.exec now fence (.transition id from_ to_ update (some owner) (some held)) single =
                  .ok (none, t) := skipped
              rw [there]
              rintro ⟨⟩
      · cases owned

end Transition

theorem call_compares {call : Call} (single : call.Single) (issued : call.Issued)
    (leases : t.toMemoryStore.Leases) :
    Compares (t.toMemoryStore.Agrees R now draw (.call call single))
      (t.toMemoryStore.perform R now draw fence (.call call single))
      (t.perform R now draw fence (.call call single)) := by
  cases call with
  | claimForSettle id owner ttl payload digest =>
      refine compares_of_update _ trivial rfl rfl (fun a _ => by simp) fun a stored pending => ?_
      exact lands_of_keys (stored_under stored) rfl (keys_of_claimed (by simpa using pending))
  | revalidateForSettle id owner held ttl =>
      refine compares_of_update _ trivial rfl rfl (fun a stored => ?_) fun a stored _ => ?_
      · rw [Truth.fires_and, fires_is, presents_fires]
        simp only [decide_eq_true_eq]
        refine and_congr_right fun _ => and_congr_right fun own => and_congr_right fun _ => ?_
        cases runs : a.leaseExpiresAt with
        | none => exact (leases id a stored (by simp [own]) runs).elim
        | some e => simp
      · refine lands_of_keys (stored_under stored) rfl fun b i clash => ?_
        cases i <;> exact clash
  | transition id from_ to_ update owner held =>
      by_cases agree : t.toMemoryStore.TransitionAgrees now id from_ to_ update owner held
      · exact transition_alike issued agree
      · exact transition_unlike issued agree
  | claimRowForTakeover id owner ttl =>
      refine compares_of_update _ trivial rfl rfl (fun a _ => ?_) fun a stored _ => ?_
      · rw [Attempt.open_, Truth.fires_and, fires_is, expired_fires]
        simp only [MemoryStore.open_, decide_eq_true_eq, MemoryStore.lapsed_iff]
      · exact lands_of_keys (stored_under stored) rfl keys_of_held
  | claimForReconcile => exact single.elim

section Release

variable {evidence : ReleaseEvidence}

/-- A row that waits for an operator, with the blockhash of the evidence. -/
def releaseTest (evidence : ReleaseEvidence) (a : Attempt) : Bool :=
  a.status = .manual ∧ a.blockhash = some evidence.blockhash

theorem blockhash_of_sound (sound : evidence.reasons = []) : evidence.blockhash ≠ "" := by
  unfold ReleaseEvidence.reasons at sound
  simp only [List.append_eq_nil_iff] at sound
  obtain ⟨⟨⟨⟨⟨⟨-, -⟩, present⟩, -⟩, -⟩, -⟩, -⟩ := sound
  unfold unlessReason at present
  split at present
  · assumption
  · cases present

/-- On evidence that is accepted, memory releases the row that the evidence is for. -/
theorem memory_release {s : MemoryStore} (sound : evidence.reasons = []) :
    ((s.releaseAttempt now id evidence).1.row?, (s.releaseAttempt now id evidence).2) =
      ((s.updateIf id (releaseTest evidence) (·.released now evidence)).1.head?,
        (s.updateIf id (releaseTest evidence) (·.released now evidence)).2) := by
  have present := blockhash_of_sound sound
  unfold MemoryStore.releaseAttempt MemoryStore.updateIf
  rw [if_neg (not_not.mpr sound)]
  cases s.get? id with
  | none => rfl
  | some a =>
      rw [Option.filter_some]
      by_cases manual : a.status = .manual
      · by_cases cited : a.blockhash = some evidence.blockhash
        · simp [releaseTest, manual, cited, present, Released.row?]
        · by_cases unbound : a.blockhash.getD "" = ""
          · simp [releaseTest, manual, cited, unbound, Released.row?]
          · simp [releaseTest, manual, cited, unbound, Released.row?]
      · simp [releaseTest, manual, Released.row?]

theorem release_compares :
    Compares True (t.toMemoryStore.perform R now draw fence (.releaseAttempt id evidence))
      (t.perform R now draw fence (.releaseAttempt id evidence)) := by
  by_cases sound : evidence.reasons = []
  · obtain ⟨t', done, rows⟩ := @updateWhere_alike id t (·.releasable evidence)
      (releaseTest evidence) (·.released now evidence)
      (fun a _ => by simp [Attempt.releasable_fires, releaseTest])
      (fun a stored _ => lands_of_keys (stored_under stored) rfl keys_of_released)
    have here := @memory_release now id evidence t.toMemoryStore sound
    have answer := congrArg Prod.fst here
    have left := congrArg Prod.snd here
    dsimp only at answer left
    unfold perform MemoryStore.perform releaseAttempt attempted
    dsimp only
    rw [if_neg (not_not.mpr sound), done, answer, left]
    cases (t.updateIf id (releaseTest evidence) (·.released now evidence)).1.head? with
    | none => exact .alike trivial rfl rows
    | some row => exact .alike trivial rfl rows
  · unfold perform MemoryStore.perform releaseAttempt MemoryStore.releaseAttempt attempted
    dsimp only
    rw [if_pos sound, if_pos sound]
    exact .alike trivial rfl rfl

end Release

theorem Reply.resolved_unlike {decrypt : String → String} {there here : ResolveResult}
    (unlike : there.Unlike here) :
    (Reply.resolved there).decrypted decrypt ≠ (Reply.resolved here).decrypted decrypt := by
  intro same
  simp only [Reply.decrypted, Reply.resolved.injEq, ResolveResult.mk.injEq] at same
  rcases unlike with kind | row
  · exact kind same.1
  · have key := congrArg Attempt.operationId same.2.1
    exact row key

/-- A call is answered alike, and leaves the same rows, exactly where it agrees. -/
theorem request_compares {request : Request} (issued : request.Issued)
    (leases : t.toMemoryStore.Leases) :
    Compares (t.toMemoryStore.Agrees R now draw request)
      (t.toMemoryStore.perform R now draw fence request) (t.perform R now draw fence request) := by
  cases request with
  | resolveOrCreate input =>
      rcases @resolve_compares R now draw t input with ⟨agrees, answer, rows⟩ | ⟨disagrees, answer⟩
      · apply Compares.alike agrees
        · exact congrArg (Except.map Reply.resolved) answer
        · exact rows
      · refine .unlike disagrees fun decrypt => ?_
        change ((t.resolve R now draw input).1.map Reply.resolved).map _ ≠ _
        cases answered : (t.resolve R now draw input).1 with
        | error => rintro ⟨⟩
        | ok result =>
            intro same
            exact Reply.resolved_unlike (answer result answered) (Except.ok.inj same)
  | call call single => exact call_compares single issued leases
  | releaseAttempt id evidence => exact release_compares
  | findSettledAttempt input =>
      refine .alike trivial ?_ rfl
      exact congrArg (fun found => Except.ok (Reply.row found)) settled_eq
  | getByOperationId | findByPaymentId | findByDigestPayment | findActiveAttempt =>
      exact .alike trivial rfl rfl

end Indexed

/-! ### What is decrypted agrees -/

section Decrypted

variable {R : Runtime} {now : Int} {draw : Nat} {decrypt encrypt : String → String} {s : MemoryStore}
  {input : ResolveInput}

theorem found_decrypted {id : String} {p : Attempt → Prop} :
    (∀ a, (s.decrypted decrypt).get? id = some a → p a) ↔
      ∀ a, s.get? id = some a → p (a.decrypted decrypt) := by
  simp only [MemoryStore.get?_decrypted, Option.map_eq_some_iff]
  constructor
  · intro all a stored
    exact all _ ⟨a, stored, rfl⟩
  · rintro all _ ⟨a, stored, rfl⟩
    exact all a stored

theorem forall_decrypted {p : String → Attempt → Prop} :
    (∀ id a, (s.decrypted decrypt).get? id = some a → p id a) ↔
      ∀ id a, s.get? id = some a → p id (a.decrypted decrypt) :=
  forall_congr' fun _ => found_decrypted

theorem clash_decrypted {b new new' : Attempt} {i : Index} (same : new.operationId = new'.operationId)
    (digest : new.requestDigest = new'.requestDigest) (payment : new.callerPaymentId = new'.callerPaymentId)
    (order : new.logicalOrderId = new'.logicalOrderId) (version : new.intentVersion = new'.intentVersion)
    (resource : new.resource = new'.resource) (status : new.status = new'.status) :
    i.clash (b.decrypted decrypt) new ↔ i.clash b new' := by
  cases i <;>
    simp only [Index.clash, Index.covers, Index.sameKey, Attempt.decrypted, same, digest, payment, order,
      version, resource, status]

theorem vacant_decrypted : (s.decrypted decrypt).Vacant input ↔ s.Vacant input := by
  unfold MemoryStore.Vacant
  exact forall_decrypted

theorem resolveAgrees_decrypted :
    (s.decrypted decrypt).ResolveAgrees R draw input ↔ s.ResolveAgrees R draw input := by
  constructor
  · intro ⟨spent, fresh⟩
    rw [MemoryStore.released_decrypted, authRevision_decrypted] at spent fresh
    simp only [vacant_decrypted, found_decrypted] at spent fresh
    exact ⟨spent, fresh⟩
  · intro ⟨spent, fresh⟩
    constructor
    · rw [MemoryStore.released_decrypted, authRevision_decrypted]
      simp only [vacant_decrypted, found_decrypted]
      exact spent
    · rw [MemoryStore.released_decrypted, authRevision_decrypted]
      simp only [vacant_decrypted, found_decrypted]
      exact fresh

theorem agrees_decrypted {request : Request} :
    (s.decrypted decrypt).Agrees R now draw request ↔ s.Agrees R now draw (request.encrypted encrypt) := by
  cases request with
  | resolveOrCreate input => exact resolveAgrees_decrypted
  | call call single =>
      cases call with
      | transition id from_ to_ update owner held =>
          have lands : ∀ {new new' : Attempt}, (∀ b : Attempt, ∀ i : Index,
              i.clash (b.decrypted decrypt) new ↔ i.clash b new') → new.operationId = new'.operationId →
              ((s.decrypted decrypt).Lands new ↔ s.Lands new') := by
            intro new new' same key
            unfold MemoryStore.Lands
            rw [forall_decrypted, key]
            simp only [same]
          change MemoryStore.TransitionAgrees .. ↔ MemoryStore.TransitionAgrees ..
          unfold MemoryStore.TransitionAgrees
          rw [found_decrypted]
          refine forall_congr' fun a => imp_congr_right fun _ => imp_congr_right fun _ =>
            imp_congr_right fun _ => imp_congr_right fun _ => and_congr_right fun _ => lands ?_ rfl
          intro b i
          exact clash_decrypted rfl rfl rfl rfl rfl rfl rfl
      | _ => exact Iff.rfl
  | _ => exact Iff.rfl

end Decrypted

/-! ### Runs -/

theorem Request.Issued.encrypted {request : Request} (issued : request.Issued)
    (encrypt : String → String) : (request.encrypted encrypt).Issued := by
  cases request with
  | call call single => cases call <;> exact issued
  | _ => exact issued

/-- A call, with the time at which it is made, what it draws, and the encryption of its payload. -/
structure Sent where
  request : Request
  now : Int
  draw : Nat
  fence : String
  encrypt : String → String

def MemoryStore.replies (R : Runtime) : MemoryStore → List Sent → List Reply
  | _, [] => []
  | s, sent :: rest =>
      let (reply, s) := s.perform R sent.now sent.draw sent.fence sent.request
      reply :: replies R s rest

def Indexed.replies (R : Runtime) : Indexed → List Sent → List (Except MachineError Reply)
  | _, [] => []
  | t, sent :: rest =>
      let (reply, t) := t.perform R sent.now sent.draw sent.fence (sent.request.encrypted sent.encrypt)
      reply :: replies R t rest

/-- Every call agrees, in the store in memory as the calls before it have left it. -/
def MemoryStore.AgreeThroughout (R : Runtime) : MemoryStore → List Sent → Prop
  | _, [] => True
  | s, sent :: rest => s.Agrees R sent.now sent.draw sent.request ∧
      AgreeThroughout R (s.perform R sent.now sent.draw sent.fence sent.request).2 rest

section Runs

variable {R : Runtime} {now : Int} {draw : Nat} {fence : String} {s : MemoryStore}

theorem leases_put {row : Attempt} (leases : s.Leases)
    (leased : row.leaseOwner ≠ none → row.leaseExpiresAt ≠ none) : (s.put row).Leases := by
  intro id a stored
  rw [MemoryStore.get?_put, Function.update_apply] at stored
  split at stored
  · cases stored
    exact leased
  · exact leases id a stored

theorem leases_updateIf {id : String} {condition : Attempt → Bool} {set : Attempt → Attempt}
    (leases : s.Leases) (leased : ∀ a, (a.leaseOwner ≠ none → a.leaseExpiresAt ≠ none) →
      (set a).leaseOwner ≠ none → (set a).leaseExpiresAt ≠ none) :
    (s.updateIf id condition set).2.Leases := by
  cases updated : s.updateIf id condition set with
  | mk out s' =>
      rcases MemoryStore.updateIf_cases updated with ⟨-, rfl⟩ | ⟨old, stored, -, -, rfl⟩
      · exact leases
      · exact leases_put leases (leased old (leases id old stored))

/-- A call leaves every row that is held under a lease. -/
theorem leases_perform {request : Request} (leases : s.Leases) :
    (s.perform R now draw fence request).2.Leases := by
  cases request with
  | resolveOrCreate input =>
      cases resolved : MemoryStore.resolve R now draw input s with
      | mk result s' =>
          have after : (s.perform R now draw fence (.resolveOrCreate input)).2 = s' := by
            unfold MemoryStore.perform
            dsimp only
            rw [resolved]
          rw [after]
          rcases MemoryStore.resolve_rows resolved with ⟨rfl, -⟩ | creates
          · exact leases
          · intro id a stored
            rw [creates.created, Function.update_apply] at stored
            split at stored
            · cases stored
              intro owned
              exact (owned creates.clean.leaseOwner).elim
            · exact leases id a stored
  | call call single =>
      cases call with
      | claimForSettle | revalidateForSettle | claimRowForTakeover =>
          exact leases_updateIf leases fun a _ _ => by rintro ⟨⟩
      | transition => exact leases_updateIf leases fun a leased => leased
      | claimForReconcile => exact single.elim
  | releaseAttempt id evidence =>
      cases released : s.releaseAttempt now id evidence with
      | mk result s' =>
          have after : (s.perform R now draw fence (.releaseAttempt id evidence)).2 = s' := by
            unfold MemoryStore.perform
            dsimp only
            rw [released]
          rw [after]
          rcases MemoryStore.releaseAttempt_cases released with ⟨-, rfl⟩ | ⟨a, stored, -, rfl⟩
          · exact leases
          · exact leases_put leases (leases id a stored)
  | _ => exact leases

theorem leases_empty : MemoryStore.empty.Leases := by
  intro id a stored
  cases stored

/-- From any rows, a run is answered alike exactly as long as its calls agree. -/
theorem replies_iff {decrypt : String → String} {t : Indexed} {run : List Sent}
    (leases : t.toMemoryStore.Leases) (issued : ∀ sent ∈ run, sent.request.Issued)
    (opens : ∀ sent ∈ run, ∀ text, decrypt (sent.encrypt text) = text) :
    (t.replies R run).map (·.map (·.decrypted decrypt)) =
        ((t.toMemoryStore.decrypted decrypt).replies R run).map .ok ↔
      (t.toMemoryStore.decrypted decrypt).AgreeThroughout R run := by
  induction run generalizing t with
  | nil => simp [Indexed.replies, MemoryStore.replies, MemoryStore.AgreeThroughout]
  | cons sent rest ih =>
      have natural := @MemoryStore.perform_decrypted decrypt sent.encrypt t.toMemoryStore sent.now R
        sent.draw sent.fence sent.request (opens sent List.mem_cons_self)
      have issued' := (issued sent List.mem_cons_self).encrypted sent.encrypt
      unfold Indexed.replies MemoryStore.replies MemoryStore.AgreeThroughout
      dsimp only
      rw [natural, List.map_cons, List.map_cons, List.cons_eq_cons,
        @agrees_decrypted R sent.now sent.draw decrypt sent.encrypt]
      rcases @Indexed.request_compares R sent.now sent.draw sent.fence t
        (sent.request.encrypted sent.encrypt) issued' leases with
        ⟨agree, answer, rows⟩ | ⟨disagree, answer⟩
      · rw [answer, ← rows]
        refine and_congr (iff_of_true rfl agree) (ih ?_ (fun s mem => issued s ?_) fun s mem => opens s ?_)
        · rw [rows]
          exact leases_perform leases
        · exact List.mem_cons_of_mem _ mem
        · exact List.mem_cons_of_mem _ mem
      · exact iff_of_false (fun same => answer decrypt same.1) fun agree => disagree agree.1

/-- From empty stores, a run of calls is answered alike by the two stores, but for the encryption of
payloads, if and only if its calls agree. -/
theorem parity_iff (R : Runtime) (decrypt : String → String) (run : List Sent)
    (issued : ∀ sent ∈ run, sent.request.Issued)
    (opens : ∀ sent ∈ run, ∀ text, decrypt (sent.encrypt text) = text) :
    (Indexed.empty.replies R run).map (·.map (·.decrypted decrypt)) =
        (MemoryStore.empty.replies R run).map .ok ↔ MemoryStore.empty.AgreeThroughout R run :=
  @replies_iff R decrypt Indexed.empty run leases_empty issued opens

end Runs

/-! ### A transition under a lease -/

namespace Sample

def openInput : ResolveInput where
  logicalOrderId := "ord_1"
  intentVersion := 0
  requestDigest
  resource := resourceUrl
  callerPaymentId := paymentId

def encrypt (text : String) : String := "enc:" ++ text

def decrypt (text : String) : String := String.ofList (text.toList.drop 4)

theorem decrypt_encrypt (text : String) : decrypt (encrypt text) = text := by
  simp [decrypt, encrypt]

/-- An attempt is created, claimed for a minute, and moved on at a time. -/
def movedOn (now : Int) : List Sent :=
  [⟨.resolveOrCreate openInput, 0, 0, "", encrypt⟩,
    ⟨.call (.claimForSettle operationId "worker" 60000000 (some "signed") none) trivial, 0, 1, "fence",
      encrypt⟩,
    ⟨.call (.transition operationId [.settling] .awaitingEvidence { txHash := some (some "tx") }
      (some "worker") (some "fence")) trivial, now, 1, "", encrypt⟩]

theorem movedOn_issued {now : Int} : ∀ sent ∈ movedOn now, sent.request.Issued := by
  intro sent mem
  simp only [movedOn, List.mem_cons, List.not_mem_nil, or_false] at mem
  rcases mem with rfl | rfl | rfl
  · trivial
  · trivial
  · exact .inl ⟨by rintro ⟨⟩, by rintro ⟨⟩⟩

theorem movedOn_opens {now : Int} : ∀ sent ∈ movedOn now, ∀ text, decrypt (sent.encrypt text) = text := by
  intro sent mem
  simp only [movedOn, List.mem_cons, List.not_mem_nil, or_false] at mem
  rcases mem with rfl | rfl | rfl <;> exact decrypt_encrypt

/-- The statuses of the rows that calls are answered with. -/
def statuses (replies : List (Except MachineError Reply)) : List (Option AttemptStatus) :=
  replies.map fun reply => match reply with
    | .ok (.resolved result) => some result.row.status
    | .ok (.row row) | .ok (.released row) => row.map (·.status)
    | _ => none

theorem movedOn_late : statuses ((Indexed.empty.replies runtime (movedOn 60000000)).map
      (·.map (·.decrypted decrypt))) = [some .pending, some .settling, none] ∧
    statuses ((MemoryStore.empty.replies runtime (movedOn 60000000)).map .ok) =
      [some .pending, some .settling, some .awaitingEvidence] := by
  decide +kernel

/-- The rows after the claim. -/
def claimedStore : MemoryStore :=
  let created := (MemoryStore.resolve runtime 0 0 openInput .empty).2
  (created.exec 0 "fence" (.claimForSettle operationId "worker" 60000000 (some "signed") none)).2

theorem claimedStore_alone : (claimedStore.attempts.entries.map fun e => (e.1, e.2.leaseExpiresAt)) =
    [(operationId, some (60000000 : Timestamp))] := by
  decide +kernel

theorem movedOn_agrees : MemoryStore.empty.AgreeThroughout runtime (movedOn 0) := by
  obtain ⟨⟨id, row⟩, alone, lease⟩ := List.map_eq_singleton_iff.mp claimedStore_alone
  obtain ⟨rfl, lease⟩ := Prod.mk.inj lease
  have here : ∀ id b, claimedStore.get? id = some b → id = operationId ∧ b = row := by
    intro id b stored
    have mem : (id, b) ∈ claimedStore.attempts.entries := OrderedMap.mem_entries.mpr stored
    rw [alone] at mem
    simpa using mem
  unfold movedOn
  simp only [MemoryStore.AgreeThroughout, MemoryStore.Agrees, MemoryStore.perform, and_true, true_and]
  change _ ∧ claimedStore.TransitionAgrees ..
  constructor
  · constructor
    · rintro id p ⟨⟩
    · rintro - - revision - o ⟨⟩
  · intro a stored _ _ _
    obtain ⟨-, rfl⟩ := here _ a stored
    refine ⟨fun _ => ⟨_, lease, by decide⟩, fun id b stored' ne => ?_⟩
    have key := claimedStore.keyed _ _ stored
    exact (ne ((here id b stored').1.trans key.symm)).elim

end Sample

theorem parity_iff_movedOn : (Indexed.empty.replies Sample.runtime (Sample.movedOn 0)).map
      (·.map (·.decrypted Sample.decrypt)) =
    (MemoryStore.empty.replies Sample.runtime (Sample.movedOn 0)).map .ok :=
  (parity_iff Sample.runtime Sample.decrypt (Sample.movedOn 0) Sample.movedOn_issued
    Sample.movedOn_opens).mpr Sample.movedOn_agrees

theorem parity_false : ¬ ∀ (R : Runtime) (decrypt : String → String) (run : List Sent),
    (∀ sent ∈ run, sent.request.Issued) →
    (∀ sent ∈ run, ∀ text, decrypt (sent.encrypt text) = text) →
      (Indexed.empty.replies R run).map (·.map (·.decrypted decrypt)) =
        (MemoryStore.empty.replies R run).map .ok := by
  intro claim
  have same := congrArg Sample.statuses (claim Sample.runtime Sample.decrypt (Sample.movedOn 60000000)
    Sample.movedOn_issued Sample.movedOn_opens)
  obtain ⟨there, here⟩ := Sample.movedOn_late
  rw [there, here] at same
  cases same

end AgentReady.Settlement
