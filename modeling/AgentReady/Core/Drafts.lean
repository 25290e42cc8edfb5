import AgentReady.Core.Stores
import AgentReady.Domain.Catalog

/-!
The coordinator on objects (`packages/core/src/coordinator.ts`).

It assigns to the copy of a record that a store hands out, and has the store take the copy again.

* `answer`: what a call is answered, and the records after it, where records are values.
* `Draft`: a copy that has been assigned to stands for the record as it is to be.
* `perform_served`: over a store that keeps what it owes, a call on objects is answered as the call on values,
  and what it hands out is no object of the store's.
-/

namespace AgentReady

open Objects

/-! ### The coordinator on objects -/

namespace Coordinator

/-- What a call hands out. -/
inductive Handed where
  | new (record : Value)
  | replay (record : Value)
  | conflict (existing : Value) (requestHash : String)
  | done
  | found (record : Option Value)

/-- The objects that are handed out. -/
def Handed.values : Handed → List Value
  | new record | replay record | conflict record _ => [record]
  | done => []
  | found record => record.toList

/-- A call; its request is read as it is made, and its result payload is an object of the caller's. -/
inductive Call (Payload : Type) where
  | begin_ (operationId : String) (request : OperationRequest) (aggregateIdentity : String)
  | transition (operationId : String) (phase : OperationPhase)
  | complete (operationId : String) (outcome : OperationOutcome) (resultRef errorRef : Option String)
      (resultPayload : Option Payload)
  | lookup (operationId : String)

section

variable {σ : Type} (S : StoreMethods σ) (P : Platform) (now : Int) (h : Heap) (data : σ)

def begin_ (operationId : String) (request : OperationRequest) (aggregateIdentity : String) :
    Except String (Handed × Heap × σ) := do
  let requestHash := P.canonicalRequestHash request
  let (h, existing) ← S.get h data operationId
  match existing with
  | none =>
      let record := Value.ref h.length
      let h := h ++ [.obj [
        ("operationId", .str operationId),
        ("aggregateIdentity", .str aggregateIdentity),
        ("operationType", .str request.operationType),
        ("requestHash", .str requestHash),
        ("phase", .str OperationPhase.pending.name),
        ("createdAt", .str (isoString now)),
        ("updatedAt", .str (isoString now))]]
      let (h, data) ← S.set h data operationId record
      return (.new record, h, data)
  | some existing =>
      if Objects.property h existing "requestHash" = some (.str requestHash) then return (.replay existing, h, data)
      else return (.conflict existing requestHash, h, data)

def notFound (operationId : String) : String := s!"Operation {operationId} not found"

def transition (operationId : String) (phase : OperationPhase) : Except String (Handed × Heap × σ) := do
  let (h, found) ← S.get h data operationId
  match found with
  | none => throw (notFound operationId)
  | some record =>
      let h := assign h record "phase" (.str phase.name)
      let h := assign h record "updatedAt" (.str (isoString now))
      let (h, data) ← S.set h data operationId record
      return (.done, h, data)

/-- `if (ref !== undefined) record[key] = ref`. -/
def assignRef (h : Heap) (record : Value) (key : String) (ref : Option String) : Heap :=
  match ref with
  | none => h
  | some s => assign h record key (.str s)

/-- `if (resultPayload !== undefined) record.resultPayload = structuredClone(resultPayload)`. -/
def assignPayload (h : Heap) (record : Value) (resultPayload : Option Value) : Heap :=
  match resultPayload with
  | none => h
  | some payload =>
      let copy := structuredClone h payload
      assign copy.1 record "resultPayload" copy.2

def complete (operationId : String) (outcome : OperationOutcome) (resultRef errorRef : Option String)
    (resultPayload : Option Value) : Except String (Handed × Heap × σ) := do
  let (h, found) ← S.get h data operationId
  match found with
  | none => throw (notFound operationId)
  | some record =>
      let h := assign h record "phase" (.str outcome.phase.name)
      let h := assign h record "outcome" (.str outcome.name)
      let h := assignRef h record "resultRef" resultRef
      let h := assignRef h record "errorRef" errorRef
      let h := assignPayload h record resultPayload
      let h := assign h record "updatedAt" (.str (isoString now))
      let (h, data) ← S.set h data operationId record
      return (.done, h, data)

def lookup (operationId : String) : Except String (Handed × Heap × σ) := do
  let (h, record) ← S.get h data operationId
  return (.found record, h, data)

def perform : Call Value → Except String (Handed × Heap × σ)
  | .begin_ id request aggregate => begin_ S P now h data id request aggregate
  | .transition id phase => transition S now h data id phase
  | .complete id outcome resultRef errorRef payload =>
      complete S now h data id outcome resultRef errorRef payload
  | .lookup id => lookup S h data id

end

end Coordinator

/-! ### Records, as properties -/

/-- The own properties of a record: those that a record begins with, and those that it may get. -/
def OperationRecord.properties (r : OperationRecord Json) : List (String × Option Json) := [
  ("operationId", some (.str r.operationId)),
  ("aggregateIdentity", some (.str r.aggregateIdentity)),
  ("operationType", some (.str r.operationType)),
  ("requestHash", some (.str r.requestHash)),
  ("phase", some (.str r.phase.name)),
  ("createdAt", some (.str (isoString r.createdAt))),
  ("updatedAt", some (.str (isoString r.updatedAt))),
  ("outcome", r.outcome.map fun o => .str o.name),
  ("resultRef", r.resultRef.map .str),
  ("errorRef", r.errorRef.map .str),
  ("resultPayload", r.resultPayload)]

theorem OperationRecord.nodup_properties (r : OperationRecord Json) : (r.properties.map Prod.fst).Nodup := by
  simp only [properties, List.map_cons, List.map_nil]
  decide

def OperationRecord.property (r : OperationRecord Json) (key : String) : Option Json :=
  (OrderedMap.lookup key r.properties).join

theorem OperationRecord.property_of_store {r r' : OperationRecord Json} {key : String} {j : Json}
    (update : r'.properties = OrderedMap.store key (some j) r.properties) (other : String) :
    r'.property other = if other = key then some j else r.property other := by
  rw [property, update]
  split
  · next same => rw [same, OrderedMap.lookup_store_self, Option.join_some]
  · next differ => rw [OrderedMap.lookup_store_of_ne differ, property]

/-- The properties are those of the record, in some order. -/
structure OperationRecord.Written (values : List (String × Json)) (r : OperationRecord Json) : Prop where
  writable : (Json.obj values).Writable
  lookup : ∀ key, OrderedMap.lookup key values = r.property key

theorem writableFields_store {key : String} {j : Json} (writable : j.Writable) :
    ∀ {values : List (String × Json)}, Json.WritableFields values →
      Json.WritableFields (OrderedMap.store key j values)
  | [], _ => ⟨writable, trivial⟩
  | (k, v) :: rest, ⟨one, others⟩ => by
      simp only [OrderedMap.store]
      split
      · exact ⟨writable, others⟩
      · exact ⟨one, writableFields_store writable others⟩

theorem OperationRecord.Written.store {values : List (String × Json)} {r r' : OperationRecord Json} {key : String}
    {j : Json} (written : r.Written values) (writable : j.Writable)
    (update : r'.properties = OrderedMap.store key (some j) r.properties) :
    r'.Written (OrderedMap.store key j values) := by
  constructor
  · exact ⟨OrderedMap.nodup_store written.writable.1, writableFields_store writable written.writable.2⟩
  · intro other
    rw [property_of_store update]
    split
    · next same => rw [same, OrderedMap.lookup_store_self]
    · next differ => rw [OrderedMap.lookup_store_of_ne differ, written.lookup]

/-- The properties that are there are looked up as they are in the table. -/
theorem lookup_present (key : String) : ∀ {table : List (String × Option Json)}, (table.map Prod.fst).Nodup →
    OrderedMap.lookup key (table.filterMap fun p => p.2.map (p.1, ·)) = (OrderedMap.lookup key table).join
  | [], _ => rfl
  | (k, v) :: rest, nodup => by
      have rest_ := lookup_present key (List.nodup_cons.mp nodup).2
      cases v with
      | some v =>
          simp only [List.filterMap_cons, Option.map_some, OrderedMap.lookup, rest_]
          split <;> rfl
      | none =>
          simp only [List.filterMap_cons, Option.map_none, OrderedMap.lookup, rest_]
          split
          · next same =>
              subst same
              rw [OrderedMap.lookup_eq_none (List.nodup_cons.mp nodup).1]
              rfl
          · rfl

/-- A record that was just begun. -/
def OperationRecord.begun {Payload : Type} (P : Platform) (now : Int) (operationId : String)
    (request : OperationRequest) (aggregateIdentity : String) : OperationRecord Payload where
  operationId
  aggregateIdentity
  operationType := request.operationType
  requestHash := P.canonicalRequestHash request
  phase := .pending
  createdAt := now
  updatedAt := now

theorem OperationRecord.written_begun {P : Platform} {now : Int} {operationId : String}
    {request : OperationRequest} {aggregateIdentity : String} :
    (OperationRecord.begun P now operationId request aggregateIdentity).Written [
        ("operationId", .str operationId),
        ("aggregateIdentity", .str aggregateIdentity),
        ("operationType", .str request.operationType),
        ("requestHash", .str (P.canonicalRequestHash request)),
        ("phase", .str OperationPhase.pending.name),
        ("createdAt", .str (isoString now)),
        ("updatedAt", .str (isoString now))] := by
  constructor
  · constructor
    · simp only [List.map_cons, List.map_nil]
      decide
    · simp [Json.WritableFields, Json.Writable]
  · intro key
    exact lookup_present key (nodup_properties (begun P now operationId request aggregateIdentity))

namespace Coordinator

/-! ### What a call does to a record -/

/-- `v` stands for a record. -/
def ReadsRecord (h : Heap) (v : Value) (r : OperationRecord Json) : Prop :=
  ∃ values, Reads h v (.obj values) ∧ r.Written values

/-- `record`, an object made since `h₀`, stands for `r`. -/
structure Draft (h₀ h : Heap) (record : Value) (r : OperationRecord Json) : Prop where
  extends_ : h₀ <+: h
  since : ∃ a, record = .ref a ∧ h₀.length ≤ a
  reads : ReadsRecord h record r

namespace Draft

variable {h₀ h : Heap} {record v : Value} {r r' : OperationRecord Json} {j : Json} {key : String}

theorem extend {h' : Heap} (draft : Draft h₀ h record r) (le : h <+: h') : Draft h₀ h' record r := by
  obtain ⟨values, reads, written⟩ := draft.reads
  exact ⟨draft.extends_.trans le, draft.since, values, reads.extend le, written⟩

theorem set_since {a : Nat} (le : h₀ <+: h) (since : h₀.length ≤ a) (cell : Cell) : h₀ <+: h.set a cell := by
  obtain ⟨rest, rfl⟩ := le
  rw [List.set_append_right _ _ since]
  exact List.prefix_append _ _

theorem assign (draft : Draft h₀ h record r) (own : Reads h v j) (writable : j.Writable)
    (apart : ∀ a, Reach h v a → record ≠ .ref a)
    (update : r'.properties = OrderedMap.store key (some j) r.properties) :
    Draft h₀ (assign h record key v) record r' := by
  obtain ⟨le, ⟨a, rfl, since⟩, values, reads, written⟩ := draft
  refine ⟨?_, ⟨a, rfl, since⟩, OrderedMap.store key j values, ?_, written.store writable update⟩
  · obtain ⟨b, fields, same, here, -⟩ := reads.object
    obtain rfl := Value.ref.inj same
    simp only [Objects.assign, here]
    exact set_since le since _
  · exact reads.assign own fun reach => apart a reach rfl

theorem assign_str (draft : Draft h₀ h record r) (key s : String) (r' : OperationRecord Json)
    (update : r'.properties = OrderedMap.store key (some (.str s)) r.properties) :
    Draft h₀ (Objects.assign h record key (.str s)) record r' := by
  refine draft.assign ⟨0, rfl⟩ trivial ?_ update
  intro a reach
  cases reach

theorem assignRef (draft : Draft h₀ h record r) (key : String) (ref : Option String) (r' : OperationRecord Json)
    (none_ : ref = none → r' = r)
    (update : ∀ s, ref = some s → r'.properties = OrderedMap.store key (some (.str s)) r.properties) :
    Draft h₀ (Coordinator.assignRef h record key ref) record r' := by
  cases ref with
  | none =>
      obtain rfl := none_ rfl
      exact draft
  | some s => exact draft.assign_str key s r' (update s rfl)

theorem assignPayload {payload : Option Value} {payload' : Option Json} (draft : Draft h₀ h record r)
    (reads : Option.Rel (fun v j => Reads h₀ v j ∧ j.Writable) payload payload') (r' : OperationRecord Json)
    (none_ : payload' = none → r' = r)
    (update : ∀ j, payload' = some j → r'.properties = OrderedMap.store "resultPayload" (some j) r.properties) :
    Draft h₀ (Coordinator.assignPayload h record payload) record r' := by
  cases reads with
  | none =>
      obtain rfl := none_ rfl
      exact draft
  | @some v j carried =>
      obtain ⟨depth, clone⟩ := carried.1.extend draft.extends_
      refine (draft.extend (structuredClone_extends h v)).assign (j := j) ⟨depth, ?_⟩ carried.2 ?_ (update j rfl)
      · rw [read_structuredClone, clone]
      · rintro a reach rfl
        obtain ⟨values, reads, -⟩ := draft.reads
        exact absurd (reads.live (.self a)) (not_lt.mpr (apart_structuredClone h v a reach))

end Draft

/-! ### The coordinator on values -/

inductive Answer where
  | begun (result : IdempotencyResult Json)
  | done
  | found (record : Option (OperationRecord Json))
  | thrown (message : String)

/-- What a call is answered, and the records after it, where records are values. -/
def answer (P : Platform) (now : Int) (store : OperationStore Json) : Call Json → Answer × OperationStore Json
  | .begin_ id request aggregate =>
      let begun := OperationStore.begin_ P now store id request aggregate
      (.begun begun.1, begun.2)
  | .transition id phase =>
      match store.get? id with
      | none => (.thrown (notFound id), store)
      | some _ => (.done, OperationStore.transition now store id phase)
  | .complete id outcome resultRef errorRef payload =>
      match store.get? id with
      | none => (.thrown (notFound id), store)
      | some _ => (.done, OperationStore.complete now store id outcome resultRef errorRef payload)
  | .lookup id => (.found (store.get? id), store)

/-- What is handed out stands for the answer. -/
inductive ReadsAs (h : Heap) : Except String Handed → Answer → Prop where
  | new {v r} : ReadsRecord h v r → ReadsAs h (.ok (.new v)) (.begun (.new r))
  | replay {v r} : ReadsRecord h v r → ReadsAs h (.ok (.replay v)) (.begun (.replay r))
  | conflict {v r} (requestHash : String) : ReadsRecord h v r →
      ReadsAs h (.ok (.conflict v requestHash)) (.begun (.conflict r requestHash))
  | done : ReadsAs h (.ok .done) .done
  | found {v r} : Option.Rel (ReadsRecord h) v r → ReadsAs h (.ok (.found v)) (.found r)
  | thrown (message : String) : ReadsAs h (.error message) (.thrown message)

/-- The call on objects is the call on values; its payload is one that JSON can carry. -/
inductive CallReads (h : Heap) : Call Value → Call Json → Prop where
  | begin_ (id request aggregate) : CallReads h (.begin_ id request aggregate) (.begin_ id request aggregate)
  | transition (id phase) : CallReads h (.transition id phase) (.transition id phase)
  | complete {payload payload'} (id outcome resultRef errorRef) :
      Option.Rel (fun v j => Reads h v j ∧ j.Writable) payload payload' →
      CallReads h (.complete id outcome resultRef errorRef payload)
        (.complete id outcome resultRef errorRef payload')
  | lookup (id) : CallReads h (.lookup id) (.lookup id)

section Serving

variable {σ : Type} {S : StoreMethods σ} {Rep : Heap → σ → Set Nat → (String → Option Json) → Prop}
  {P : Platform} {now : Int} {h h' : Heap} {data : σ} {own : Set Nat} {store : OperationStore Json}
  {operationId : String} {record : Value} {r : OperationRecord Json}

/-- The store holds the records of `store`. -/
def Represents (Rep : Heap → σ → Set Nat → (String → Option Json) → Prop) (h : Heap) (data : σ) (own : Set Nat)
    (store : OperationStore Json) : Prop :=
  ∃ m, Rep h data own m ∧ ∀ operationId,
    Option.Rel (fun j r => ∃ values, j = .obj values ∧ r.Written values) (m operationId) (store.get? operationId)

/-- The call did what it is to do, to the records and to the objects. -/
def Served (Rep : Heap → σ → Set Nat → (String → Option Json) → Prop) (h : Heap) (own : Set Nat)
    (store : OperationStore Json) (answered : Answer × OperationStore Json) :
    Except String (Handed × Heap × σ) → Prop
  | .error message => answered = (.thrown message, store)
  | .ok (handed, h', data') => h <+: h' ∧ ReadsAs h' (.ok handed) answered.1 ∧
      ∃ own', Represents Rep h' data' own' answered.2 ∧ (∀ a ∈ own', a ∈ own ∨ h.length ≤ a) ∧
        ∀ v ∈ handed.values, ∀ a, Reach h' v a → h.length ≤ a ∧ a ∉ own'

theorem Represents.extend (keeps : StoreKeeps S Rep) (rep : Represents Rep h data own store) (le : h <+: h') :
    Represents Rep h' data own store := by
  obtain ⟨m, holds, records⟩ := rep
  obtain ⟨rest, rfl⟩ := le
  exact ⟨m, keeps.frame holds fun a mem => List.getElem?_append_left (keeps.live holds a mem), records⟩

theorem Represents.live (keeps : StoreKeeps S Rep) (rep : Represents Rep h data own store) : ∀ a ∈ own, a < h.length := by
  obtain ⟨m, holds, -⟩ := rep
  exact keeps.live holds

theorem get_of_none (keeps : StoreKeeps S Rep) (rep : Represents Rep h data own store)
    (free : store.get? operationId = none) : S.get h data operationId = .ok (h, none) := by
  obtain ⟨m, holds, records⟩ := rep
  have here := records operationId
  rw [free] at here
  cases held : m operationId with
  | none => exact keeps.get_none holds held
  | some j =>
      rw [held] at here
      cases here

theorem get_of_some (keeps : StoreKeeps S Rep) (rep : Represents Rep h data own store)
    (stored : store.get? operationId = some r) :
    ∃ h' v, S.get h data operationId = .ok (h', some v) ∧ Draft h h' v r ∧ Apart h' h.length v := by
  obtain ⟨m, holds, records⟩ := rep
  have here := records operationId
  rw [stored] at here
  cases held : m operationId with
  | none =>
      rw [held] at here
      cases here
  | some j =>
      rw [held] at here
      obtain ⟨values, rfl, written⟩ := Option.rel_some_some.mp here
      obtain ⟨h', v, got, le, reads, apart⟩ := keeps.get_some holds held
      obtain ⟨a, fields, rfl, -, -⟩ := reads.object
      exact ⟨h', .ref a, got, ⟨le, ⟨a, rfl, apart a (.self a)⟩, values, reads, written⟩, apart⟩

/-- A draft is taken. -/
theorem set_draft (operationId : String) (keeps : StoreKeeps S Rep) (rep : Represents Rep h data own store)
    (draft : Draft h h' record r) :
    ∃ h'' data' own', S.set h' data operationId record = .ok (h'', data') ∧ h' <+: h'' ∧
      Represents Rep h'' data' own' (store.set operationId r) ∧ ∀ a ∈ own', a ∈ own ∨ h'.length ≤ a := by
  obtain ⟨m, holds, records⟩ := rep.extend keeps draft.extends_
  obtain ⟨values, reads, written⟩ := draft.reads
  obtain ⟨h'', data', own', done, le, holds', fresh⟩ := keeps.set operationId holds reads written.writable
  refine ⟨h'', data', own', done, le, ⟨_, holds', fun other => ?_⟩, fresh⟩
  by_cases same : other = operationId
  · subst same
    rw [Function.update_self, OrderedMap.get?_set_self]
    exact .some ⟨values, rfl, written⟩
  · rw [Function.update_of_ne same, OrderedMap.get?_set_of_ne _ same]
    exact records other

/-- A property of a record that is a text is read as one. -/
theorem property_of_reads {key s : String} {values : List (String × Json)} (reads : Reads h record (.obj values))
    (written : r.Written values) (holds : r.property key = some (.str s)) :
    Objects.property h record key = some (.str s) := by
  obtain ⟨a, fields, rfl, here, each⟩ := reads.object
  simp only [Objects.property, here]
  have looked := each.lookup key
  rw [written.lookup, holds] at looked
  cases found : OrderedMap.lookup key fields with
  | none =>
      rw [found] at looked
      cases looked
  | some v =>
      rw [found] at looked
      rw [(Option.rel_some_some.mp looked).text]

theorem requestHash_eq_iff {s : String} {values : List (String × Json)} (reads : Reads h record (.obj values))
    (written : r.Written values) : Objects.property h record "requestHash" = some (.str s) ↔ r.requestHash = s := by
  rw [property_of_reads reads written (show r.property "requestHash" = some (.str r.requestHash) from rfl)]
  simp

/-- The record of a new operation is an object of its own. -/
theorem draft_begun (P : Platform) (now : Int) (h : Heap) (operationId : String) (request : OperationRequest)
    (aggregateIdentity : String) : Draft h (h ++ [.obj [
        ("operationId", .str operationId),
        ("aggregateIdentity", .str aggregateIdentity),
        ("operationType", .str request.operationType),
        ("requestHash", .str (P.canonicalRequestHash request)),
        ("phase", .str OperationPhase.pending.name),
        ("createdAt", .str (isoString now)),
        ("updatedAt", .str (isoString now))]]) (.ref h.length)
      (.begun P now operationId request aggregateIdentity) := by
  refine ⟨List.prefix_append _ _, ⟨h.length, rfl, le_rfl⟩, _, ?_, OperationRecord.written_begun⟩
  refine (reads_obj List.getElem?_concat_length).mpr ?_
  repeat' first | exact .nil | refine .cons ⟨rfl, 0, rfl⟩ ?_

theorem begin_served (keeps : StoreKeeps S Rep) (rep : Represents Rep h data own store) (request : OperationRequest)
    (aggregateIdentity : String) :
    Served Rep h own store (answer P now store (.begin_ operationId request aggregateIdentity))
      (begin_ S P now h data operationId request aggregateIdentity) := by
  cases stored : store.get? operationId with
  | none =>
      have draft := draft_begun P now h operationId request aggregateIdentity
      obtain ⟨h', data', own', done, le, rep', fresh⟩ := set_draft operationId keeps rep draft
      obtain ⟨values, reads, written⟩ := draft.reads
      rw [begin_, get_of_none keeps rep stored]
      simp only [bind, Except.bind, done]
      refine ⟨draft.extends_.trans le, ?_, own', ?_, ?_, ?_⟩
      · simp only [answer, OperationStore.begin_, stored]
        exact .new ⟨values, reads.extend le, written⟩
      · simp only [answer, OperationStore.begin_, stored]
        exact rep'
      · intro a mem
        exact (fresh a mem).imp_right fun new => (List.prefix_append h _).length_le.trans new
      · intro v mem a reach
        obtain rfl := List.mem_singleton.mp mem
        have only : a = h.length := by
          have closed : Closed h' {h.length} := by
            rintro b rfl cell here w refers
            obtain ⟨rest, rfl⟩ := le
            rw [List.append_assoc, List.getElem?_append_right le_rfl, Nat.sub_self] at here
            obtain rfl := Option.some.inj here
            simp only [Cell.values, List.map_cons, List.map_nil, List.mem_cons, List.not_mem_nil, or_false] at refers
            rcases refers with rfl | rfl | rfl | rfl | rfl | rfl | rfl <;> trivial
          exact closed.reach reach rfl
        subst only
        refine ⟨le_rfl, fun mem => ?_⟩
        rcases fresh _ mem with old | new
        · exact absurd (rep.live keeps _ old) (lt_irrefl _)
        · simp at new
  | some r =>
      obtain ⟨h', v, got, draft, apart⟩ := get_of_some keeps rep stored
      have away : ∀ a, Reach h' v a → h.length ≤ a ∧ a ∉ own := fun a reach =>
        ⟨apart a reach, fun mem => absurd (rep.live keeps a mem) (not_lt.mpr (apart a reach))⟩
      have held : ∀ w ∈ [v], ∀ a, Reach h' w a → h.length ≤ a ∧ a ∉ own := by
        intro w mem
        obtain rfl := List.mem_singleton.mp mem
        exact away
      obtain ⟨values, reads, written⟩ := draft.reads
      rw [begin_, got]
      simp only [bind, Except.bind, requestHash_eq_iff reads written, answer]
      by_cases same : r.requestHash = P.canonicalRequestHash request
      · rw [if_pos same, OperationStore.begin_replay stored same]
        exact ⟨draft.extends_, .replay ⟨values, reads, written⟩, own, rep.extend keeps draft.extends_,
          fun a mem => .inl mem, held⟩
      · rw [if_neg same, OperationStore.begin_conflict stored same]
        exact ⟨draft.extends_, .conflict _ ⟨values, reads, written⟩, own, rep.extend keeps draft.extends_,
          fun a mem => .inl mem, held⟩

/-- A record that a call has changed is taken, and nothing is handed out. -/
theorem set_served (keeps : StoreKeeps S Rep) (rep : Represents Rep h data own store) (draft : Draft h h' record r) :
    Served Rep h own store (.done, store.set operationId r)
      ((S.set h' data operationId record).map fun taken => (.done, taken.1, taken.2)) := by
  obtain ⟨h'', data', own', done, le, rep', fresh⟩ := set_draft operationId keeps rep draft
  rw [done]
  refine ⟨draft.extends_.trans le, .done, own', rep', fun a mem => ?_, by simp [Handed.values]⟩
  exact (fresh a mem).imp_right draft.extends_.length_le.trans

theorem transition_served (keeps : StoreKeeps S Rep) (rep : Represents Rep h data own store) (phase : OperationPhase) :
    Served Rep h own store (answer P now store (.transition operationId phase))
      (transition S now h data operationId phase) := by
  cases stored : store.get? operationId with
  | none =>
      rw [transition, get_of_none keeps rep stored]
      simp only [answer, stored]
      rfl
  | some r =>
      obtain ⟨h', v, got, draft, -⟩ := get_of_some keeps rep stored
      have phased := draft.assign_str "phase" phase.name { r with phase } rfl
      have dated := phased.assign_str "updatedAt" (isoString now) { r with phase, updatedAt := now } rfl
      rw [transition, got]
      simp only [answer, stored, OperationStore.transition]
      exact set_served keeps rep dated

theorem complete_served {payload : Option Value} {payload' : Option Json} (keeps : StoreKeeps S Rep)
    (rep : Represents Rep h data own store) (outcome : OperationOutcome) (resultRef errorRef : Option String)
    (reads : Option.Rel (fun v j => Reads h v j ∧ j.Writable) payload payload') :
    Served Rep h own store (answer P now store (.complete operationId outcome resultRef errorRef payload'))
      (complete S now h data operationId outcome resultRef errorRef payload) := by
  cases stored : store.get? operationId with
  | none =>
      rw [complete, get_of_none keeps rep stored]
      simp only [answer, stored]
      rfl
  | some r =>
      obtain ⟨h', v, got, draft, -⟩ := get_of_some keeps rep stored
      have phased := draft.assign_str "phase" outcome.phase.name { r with phase := outcome.phase } rfl
      have ended := phased.assign_str "outcome" outcome.name
        { r with phase := outcome.phase, outcome := some outcome } rfl
      have resulted := ended.assignRef "resultRef" resultRef
        { r with phase := outcome.phase, outcome := some outcome, resultRef := resultRef.or r.resultRef }
        (by rintro rfl; rfl) (by rintro s rfl; rfl)
      have erred := resulted.assignRef "errorRef" errorRef
        { r with
          phase := outcome.phase, outcome := some outcome, resultRef := resultRef.or r.resultRef
          errorRef := errorRef.or r.errorRef }
        (by rintro rfl; rfl) (by rintro s rfl; rfl)
      have paid := erred.assignPayload reads
        { r with
          phase := outcome.phase, outcome := some outcome, resultRef := resultRef.or r.resultRef
          errorRef := errorRef.or r.errorRef, resultPayload := payload'.or r.resultPayload }
        (by rintro rfl; rfl) (by rintro j rfl; rfl)
      have dated := paid.assign_str "updatedAt" (isoString now)
        { r with
          phase := outcome.phase, outcome := some outcome, resultRef := resultRef.or r.resultRef
          errorRef := errorRef.or r.errorRef, resultPayload := payload'.or r.resultPayload, updatedAt := now } rfl
      rw [complete, got]
      simp only [answer, stored, OperationStore.complete]
      exact set_served keeps rep dated

theorem lookup_served (keeps : StoreKeeps S Rep) (rep : Represents Rep h data own store) :
    Served Rep h own store (answer P now store (.lookup operationId)) (lookup S h data operationId) := by
  cases stored : store.get? operationId with
  | none =>
      rw [lookup, get_of_none keeps rep stored]
      simp only [answer, stored]
      exact ⟨List.prefix_refl _, .found .none, own, rep, fun a mem => .inl mem, by simp [Handed.values]⟩
  | some r =>
      obtain ⟨h', v, got, draft, apart⟩ := get_of_some keeps rep stored
      rw [lookup, got]
      simp only [answer, stored]
      refine ⟨draft.extends_, .found (.some draft.reads), own, rep.extend keeps draft.extends_,
        fun a mem => .inl mem, ?_⟩
      intro w mem a reach
      obtain rfl := List.mem_singleton.mp mem
      exact ⟨apart a reach, fun mem => absurd (rep.live keeps a mem) (not_lt.mpr (apart a reach))⟩

/-- Every call does what it is to do. -/
theorem perform_served {call : Call Value} {call' : Call Json} (keeps : StoreKeeps S Rep)
    (rep : Represents Rep h data own store) (reads : CallReads h call call') :
    Served Rep h own store (answer P now store call') (perform S P now h data call) := by
  cases reads with
  | begin_ id request aggregate => exact begin_served keeps rep request aggregate
  | transition id phase => exact transition_served keeps rep phase
  | complete id outcome resultRef errorRef carried =>
      exact complete_served keeps rep outcome resultRef errorRef carried
  | lookup id => exact lookup_served keeps rep

end Serving

end Coordinator

end AgentReady
