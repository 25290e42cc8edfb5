import AgentReady.Core.Drafts
import AgentReady.Core.Hashing

/-!
An operation id is taken at most once (`packages/core/src/coordinator.ts`, `packages/core/src/store.ts`).

A program makes calls, and at any time assigns to the objects that it has: those that it made, those that it
passed to a call, and those that it was handed.

* `answerAfter_new`, `answerAfter_again`: what the calls made so far say of the next answer.
* `Program.Run.answered`: over a store that keeps what it owes, every call of a run is answered so.
* `coordinator_at_most_once`: so it is over both stores.
-/

namespace AgentReady

open Objects

namespace Coordinator

/-! ### Histories of calls -/

/-- The records after calls, each at its time, where records are values. -/
def storeAfter (P : Platform) (calls : List (Int × Call Json)) : OperationStore Json :=
  calls.foldl (fun store c => (answer P c.1 store c.2).2) (∅ : OrderedMap _ _)

/-- What a call is answered after others. -/
def answerAfter (P : Platform) (before : List (Int × Call Json)) (now : Int) (call : Call Json) : Answer :=
  (answer P now (storeAfter P before) call).1

/-- The call begins the operation. -/
def Begins (operationId : String) (call : Call Json) : Prop :=
  ∃ request aggregateIdentity, call = .begin_ operationId request aggregateIdentity

/-- No call begins the operation. -/
def Unbegun (operationId : String) (calls : List (Int × Call Json)) : Prop :=
  ∀ c ∈ calls, ¬ Begins operationId c.2

/-- What the call supplies of the operation's record: a phase, or an outcome and what comes with it. -/
def Supplies {α : Type} (operationId : String) (phase : OperationPhase → Option α)
    (completion : OperationOutcome → Option String → Option String → Option Json → Option α) :
    Call Json → Option α
  | .transition id p => if id = operationId then phase p else none
  | .complete id outcome resultRef errorRef payload =>
      if id = operationId then completion outcome resultRef errorRef payload else none
  | _ => none

section

variable {α : Type} {operationId id : String} {p : OperationPhase → Option α}
  {completion : OperationOutcome → Option String → Option String → Option Json → Option α}

@[simp] theorem supplies_begin (request : OperationRequest) (aggregateIdentity : String) :
    Supplies operationId p completion (.begin_ id request aggregateIdentity) = none := rfl

@[simp] theorem supplies_lookup : Supplies operationId p completion (.lookup id) = none := rfl

@[simp] theorem supplies_transition (phase : OperationPhase) :
    Supplies operationId p completion (.transition id phase) = if id = operationId then p phase else none := rfl

@[simp] theorem supplies_complete (outcome : OperationOutcome) (resultRef errorRef : Option String)
    (payload : Option Json) :
    Supplies operationId p completion (.complete id outcome resultRef errorRef payload) =
      if id = operationId then completion outcome resultRef errorRef payload else none := rfl

end

section

variable (operationId : String) (calls : List (Int × Call Json))

/-- What was supplied last. -/
def lastOf {α : Type} (supplies : Int × Call Json → Option α) : Option α := (calls.filterMap supplies).getLast?

def lastPhase : Option OperationPhase :=
  lastOf calls fun c => Supplies operationId some (fun outcome _ _ _ => some outcome.phase) c.2

def lastOutcome : Option OperationOutcome :=
  lastOf calls fun c => Supplies operationId (fun _ => none) (fun outcome _ _ _ => some outcome) c.2

def lastResultRef : Option String :=
  lastOf calls fun c => Supplies operationId (fun _ => none) (fun _ resultRef _ _ => resultRef) c.2

def lastErrorRef : Option String :=
  lastOf calls fun c => Supplies operationId (fun _ => none) (fun _ _ errorRef _ => errorRef) c.2

def lastPayload : Option Json :=
  lastOf calls fun c => Supplies operationId (fun _ => none) (fun _ _ _ payload => payload) c.2

def lastUpdate : Option Int :=
  lastOf calls fun c => Supplies operationId (fun _ => some c.1) (fun _ _ _ _ => some c.1) c.2

/-- The record of an operation, from how it began and what was supplied since. -/
def recordedAs (begun : OperationRecord Json) : OperationRecord Json :=
  { begun with
    phase := (lastPhase operationId calls).getD begun.phase
    outcome := (lastOutcome operationId calls).or begun.outcome
    resultRef := (lastResultRef operationId calls).or begun.resultRef
    errorRef := (lastErrorRef operationId calls).or begun.errorRef
    resultPayload := (lastPayload operationId calls).or begun.resultPayload
    updatedAt := (lastUpdate operationId calls).getD begun.updatedAt }

end

section Histories

variable {P : Platform} {now : Int} {store : OperationStore Json} {operationId : String} {call : Call Json}
  {calls : List (Int × Call Json)} {r begun : OperationRecord Json}

theorem storeAfter_concat (c : Int × Call Json) :
    storeAfter P (calls ++ [c]) = (answer P c.1 (storeAfter P calls) c.2).2 := by
  simp [storeAfter]

theorem lastOf_concat {α : Type} (supplies : Int × Call Json → Option α) (c : Int × Call Json) :
    lastOf (calls ++ [c]) supplies = (supplies c).or (lastOf calls supplies) := by
  rw [lastOf, List.filterMap_append]
  cases here : supplies c with
  | none => simp [here, lastOf]
  | some x => simp [here]

theorem get?_transition {other : String} (phase : OperationPhase) :
    (OperationStore.transition now store operationId phase).get? other =
      if other = operationId then (store.get? other).map fun r => { r with phase, updatedAt := now }
      else store.get? other := by
  by_cases same : other = operationId
  · subst same
    cases stored : store.get? other with
    | none => simp [OperationStore.transition, stored]
    | some r => simp [OperationStore.transition, stored]
  · rw [if_neg same, OperationStore.transition]
    split
    · rfl
    · exact OrderedMap.get?_set_of_ne _ same _

theorem get?_complete {other : String} (outcome : OperationOutcome) (resultRef errorRef : Option String)
    (payload : Option Json) :
    (OperationStore.complete now store operationId outcome resultRef errorRef payload).get? other =
      if other = operationId then (store.get? other).map fun r => { r with
        phase := outcome.phase
        outcome := some outcome
        resultRef := resultRef.or r.resultRef
        errorRef := errorRef.or r.errorRef
        resultPayload := payload.or r.resultPayload
        updatedAt := now }
      else store.get? other := by
  by_cases same : other = operationId
  · subst same
    cases stored : store.get? other with
    | none => simp [OperationStore.complete, stored]
    | some r => simp [OperationStore.complete, stored]
  · rw [if_neg same, OperationStore.get?_complete_of_ne same]

/-- A call that does not begin an operation begins none. -/
theorem get?_answer_of_none (free : store.get? operationId = none) (unbegun : ¬ Begins operationId call) :
    (answer P now store call).2.get? operationId = none := by
  cases call with
  | begin_ id request aggregate =>
      have differ : operationId ≠ id := by
        rintro rfl
        exact unbegun ⟨request, aggregate, rfl⟩
      cases stored : store.get? id with
      | none => simp [answer, OperationStore.begin_, stored, OrderedMap.get?_set_of_ne _ differ, free]
      | some r =>
          by_cases same : r.requestHash = P.canonicalRequestHash request
          · simp [answer, OperationStore.begin_replay stored same, free]
          · simp [answer, OperationStore.begin_conflict stored same, free]
  | transition id phase =>
      simp only [answer]
      split
      · exact free
      · simp [get?_transition, free]
  | complete id outcome resultRef errorRef payload =>
      simp only [answer]
      split
      · exact free
      · simp [get?_complete, free]
  | lookup id => exact free

theorem get?_storeAfter_of_unbegun (unbegun : Unbegun operationId calls) :
    (storeAfter P calls).get? operationId = none := by
  induction calls using List.reverseRecOn with
  | nil => rfl
  | append_singleton calls c ih =>
      rw [storeAfter_concat]
      refine get?_answer_of_none (ih fun c mem => unbegun c (List.mem_append_left _ mem)) ?_
      exact unbegun c (List.mem_append_right _ List.mem_cons_self)

/-- What a call supplies is recorded, and nothing else of a record changes. -/
theorem get?_answer_of_some (c : Int × Call Json)
    (stored : store.get? operationId = some (recordedAs operationId calls begun)) :
    (answer P c.1 store c.2).2.get? operationId = some (recordedAs operationId (calls ++ [c]) begun) := by
  obtain ⟨now, call⟩ := c
  simp only [recordedAs, lastPhase, lastOutcome, lastResultRef, lastErrorRef, lastPayload, lastUpdate,
    lastOf_concat] at stored ⊢
  cases call with
  | begin_ id request aggregate =>
      simp only [supplies_begin, Option.none_or]
      by_cases same : id = operationId
      · subst same
        by_cases hash : (recordedAs id calls begun).requestHash = P.canonicalRequestHash request
        · simpa only [answer, OperationStore.begin_replay stored hash] using stored
        · simpa only [answer, OperationStore.begin_conflict stored hash] using stored
      · cases other : store.get? id with
        | none =>
            simp only [answer, OperationStore.begin_, other]
            rw [OrderedMap.get?_set_of_ne _ (Ne.symm same), stored]
        | some r =>
            by_cases hash : r.requestHash = P.canonicalRequestHash request
            · simpa only [answer, OperationStore.begin_replay other hash] using stored
            · simpa only [answer, OperationStore.begin_conflict other hash] using stored
  | transition id phase =>
      simp only [answer, supplies_transition]
      by_cases same : id = operationId
      · subst same
        simp [stored, get?_transition]
      · simp only [if_neg same, Option.none_or]
        split
        · exact stored
        · rw [get?_transition, if_neg (Ne.symm same), stored]
  | complete id outcome resultRef errorRef payload =>
      simp only [answer, supplies_complete]
      by_cases same : id = operationId
      · subst same
        simp [stored, get?_complete, Option.or_assoc]
      · simp only [if_neg same, Option.none_or]
        split
        · exact stored
        · rw [get?_complete, if_neg (Ne.symm same), stored]
  | lookup id =>
      simp only [answer, supplies_lookup, Option.none_or]
      exact stored

/-- The record of an operation that was begun. -/
theorem get?_storeAfter {old mid : List (Int × Call Json)} {request : OperationRequest} {aggregateIdentity : String}
    (unbegun : Unbegun operationId old) :
    (storeAfter P (old ++ (now, .begin_ operationId request aggregateIdentity) :: mid)).get? operationId =
      some (recordedAs operationId mid (.begun P now operationId request aggregateIdentity)) := by
  induction mid using List.reverseRecOn with
  | nil =>
      rw [storeAfter_concat]
      simp only [answer, OperationStore.begin_, get?_storeAfter_of_unbegun unbegun]
      rw [OrderedMap.get?_set_self]
      rfl
  | append_singleton mid c ih =>
      rw [← List.cons_append, ← List.append_assoc, storeAfter_concat]
      exact get?_answer_of_some c ih

/-- The first call that begins an operation. -/
theorem exists_first (begun : ¬ Unbegun operationId calls) : ∃ old now request aggregateIdentity mid,
    calls = old ++ (now, .begin_ operationId request aggregateIdentity) :: mid ∧ Unbegun operationId old := by
  induction calls with
  | nil => exact absurd (fun c mem => absurd mem List.not_mem_nil) begun
  | cons c calls ih =>
      by_cases first : Begins operationId c.2
      · obtain ⟨request, aggregateIdentity, call⟩ := first
        refine ⟨[], c.1, request, aggregateIdentity, calls, ?_, fun c mem => absurd mem List.not_mem_nil⟩
        rw [← call]
        rfl
      · have later : ¬ Unbegun operationId calls := fun rest => begun (List.forall_mem_cons.mpr ⟨first, rest⟩)
        obtain ⟨old, now, request, aggregateIdentity, mid, rfl, unbegun⟩ := ih later
        exact ⟨c :: old, now, request, aggregateIdentity, mid, rfl, List.forall_mem_cons.mpr ⟨first, unbegun⟩⟩

/-- The first use of an operation id is new. -/
theorem answerAfter_new {request : OperationRequest} {aggregateIdentity : String}
    (unbegun : Unbegun operationId calls) :
    answerAfter P calls now (.begin_ operationId request aggregateIdentity) =
      .begun (.new (.begun P now operationId request aggregateIdentity)) := by
  simp only [answerAfter, answer, OperationStore.begin_, get?_storeAfter_of_unbegun unbegun]
  rfl

/-- A later use replays the record where the requests have one hash, and is a conflict where they have not. -/
theorem answerAfter_again {old mid : List (Int × Call Json)} {request request' : OperationRequest}
    {aggregateIdentity aggregateIdentity' : String} {now' : Int} (unbegun : Unbegun operationId old) :
    answerAfter P (old ++ (now, .begin_ operationId request aggregateIdentity) :: mid) now'
        (.begin_ operationId request' aggregateIdentity') =
      if P.canonicalRequestHash request' = P.canonicalRequestHash request then
        .begun (.replay (recordedAs operationId mid (.begun P now operationId request aggregateIdentity)))
      else .begun (.conflict (recordedAs operationId mid (.begun P now operationId request aggregateIdentity))
        (P.canonicalRequestHash request')) := by
  have stored : (storeAfter P (old ++ (now, .begin_ operationId request aggregateIdentity) :: mid)).get? operationId =
      some (recordedAs operationId mid (.begun P now operationId request aggregateIdentity)) :=
    get?_storeAfter unbegun
  split
  · next same => simp only [answerAfter, answer, OperationStore.begin_replay stored same.symm]
  · next differ => simp only [answerAfter, answer, OperationStore.begin_conflict stored (Ne.symm differ)]

end Histories

/-! ### Programs that make calls -/

/-- A program with a coordinator: its objects, the store's data, and the values that it has. -/
structure Program (σ : Type) where
  heap : Heap
  data : σ
  held : List Value := []

/-- The objects that a program can get at. -/
def Program.known {σ : Type} (p : Program σ) : Set Nat := {a | ∃ v ∈ p.held, Reach p.heap v a}

/-- A call that was made, and what the heap was and what was handed out when it returned. -/
structure Event where
  now : Int
  call : Call Json
  heap : Heap
  handed : Except String Handed

def Event.asked (e : Event) : Int × Call Json := (e.now, e.call)

/-- The payload of a call. -/
def Call.payload : Call Value → Option Value
  | .complete _ _ _ _ payload => payload
  | _ => none

namespace Program

variable {σ : Type} (S : StoreMethods σ) (P : Platform)

/-- The program after a call, and what it was handed. -/
def serve (p : Program σ) (now : Int) (call : Call Value) : Except String Handed × Program σ :=
  match perform S P now p.heap p.data call with
  | .ok (handed, heap, data) => (.ok handed, ⟨heap, data, handed.values ++ p.held⟩)
  | .error message => (.error message, p)

/-- A run over a store that begins empty: objects are made and assigned to, and calls are made. -/
inductive Run (empty : σ) : Program σ → List Event → Prop where
  | start : Run empty ⟨[], empty, []⟩ []
  | make {p : Program σ} {events : List Event} (cell : Cell) : Run empty p events →
      (∀ v ∈ cell.values, v.In p.known) →
      Run empty { p with heap := p.heap ++ [cell], held := .ref p.heap.length :: p.held } events
  | assign {p : Program σ} {events : List Event} (a : Nat) (cell : Cell) : Run empty p events → a ∈ p.known →
      (∀ v ∈ cell.values, v.In p.known) → Run empty { p with heap := p.heap.set a cell } events
  | call {p : Program σ} {events : List Event} (now : Int) (call : Call Value) (call' : Call Json) :
      Run empty p events → (∀ v ∈ call.payload, v.In p.known) → CallReads p.heap call call' →
      Run empty (serve S P p now call).2
        (events ++ [⟨now, call', (serve S P p now call).2.heap, (serve S P p now call).1⟩])

end Program

/-- Every call is answered as the calls before it say. -/
def Answered (P : Platform) (events : List Event) : Prop :=
  ∀ before e, before ++ [e] <+: events →
    ReadsAs e.heap e.handed (answerAfter P (before.map Event.asked) e.now e.call)

section Running

variable {σ : Type} {S : StoreMethods σ} {P : Platform}
  {Rep : Heap → σ → Set Nat → (String → Option Json) → Prop} {p : Program σ} {empty : σ} {events : List Event}

/-- The store holds what the calls so far say, and the program can get at nothing of the store's. -/
def Program.Sound (Rep : Heap → σ → Set Nat → (String → Option Json) → Prop) (store : OperationStore Json)
    (p : Program σ) : Prop :=
  ∃ own, Represents Rep p.heap p.data own store ∧ ∀ a ∈ p.known, a < p.heap.length ∧ a ∉ own

theorem Program.closed_known (p : Program σ) : Closed p.heap p.known := by
  rintro a ⟨v, mem, reach⟩ cell here w refers
  exact (closed_reach p.heap v a reach cell here w refers).mono fun b reach => ⟨v, mem, reach⟩

theorem Program.in_known {v : Value} (mem : v ∈ p.held) : v.In p.known :=
  (in_reach p.heap v).mono fun _ reach => ⟨v, mem, reach⟩

/-- What a program has, it keeps. -/
theorem Program.held_serve {now : Int} {call : Call Value} {v : Value} (mem : v ∈ p.held) :
    v ∈ (p.serve S P now call).2.held := by
  unfold Program.serve
  split
  · exact List.mem_append_right _ mem
  · exact mem

theorem Program.Sound.make {store : OperationStore Json} {cell : Cell} (keeps : StoreKeeps S Rep)
    (sound : p.Sound Rep store) (own_ : ∀ v ∈ cell.values, v.In p.known) :
    Program.Sound Rep store { p with heap := p.heap ++ [cell], held := .ref p.heap.length :: p.held } := by
  obtain ⟨own, rep, apart⟩ := sound
  refine ⟨own, rep.extend keeps (List.prefix_append _ _), ?_⟩
  have fresh : Closed p.heap {p.heap.length} := by
    rintro a rfl
    intro cell here
    rw [List.getElem?_eq_none le_rfl] at here
    cases here
  have closed : Closed (p.heap ++ [cell]) (p.known ∪ {p.heap.length}) :=
    (p.closed_known.union fresh).push fun v mem => (own_ v mem).mono Set.subset_union_left
  have only : ∀ v ∈ Value.ref p.heap.length :: p.held, v.In (p.known ∪ {p.heap.length}) := by
    intro v mem
    rcases List.mem_cons.mp mem with rfl | mem
    · exact .inr rfl
    · exact (Program.in_known mem).mono Set.subset_union_left
  rintro a ⟨v, mem, reach⟩
  rcases closed.reach reach (only v mem) with old | rfl
  · obtain ⟨live, free⟩ := apart a old
    exact ⟨live.trans_le (List.prefix_append _ _).length_le, free⟩
  · exact ⟨by simp, fun mine => absurd (rep.live keeps _ mine) (lt_irrefl _)⟩

theorem Program.Sound.assign {store : OperationStore Json} {a : Nat} {cell : Cell} (keeps : StoreKeeps S Rep)
    (sound : p.Sound Rep store) (known : a ∈ p.known) (own_ : ∀ v ∈ cell.values, v.In p.known) :
    Program.Sound Rep store { p with heap := p.heap.set a cell } := by
  obtain ⟨own, rep, apart⟩ := sound
  refine ⟨own, ?_, ?_⟩
  · obtain ⟨m, holds, records⟩ := rep
    refine ⟨m, keeps.frame holds fun b mine => List.getElem?_set_ne ?_, records⟩
    rintro rfl
    exact (apart a known).2 mine
  · rintro b ⟨v, mem, reach⟩
    have old : b ∈ p.known := (p.closed_known.set own_).reach reach (Program.in_known mem)
    simpa using apart b old

theorem ReadsRecord.live {h : Heap} {v : Value} {r : OperationRecord Json} (reads : ReadsRecord h v r) {a : Nat}
    (reach : Reach h v a) : a < h.length := by
  obtain ⟨values, reads, -⟩ := reads
  exact reads.live reach

/-- What is handed out is there. -/
theorem ReadsAs.live {h : Heap} {handed : Handed} {answered : Answer} (reads : ReadsAs h (.ok handed) answered) :
    ∀ v ∈ handed.values, ∀ a, Reach h v a → a < h.length := by
  intro v mem a reach
  cases reads with
  | new record | replay record | conflict _ record =>
      obtain rfl := List.mem_singleton.mp mem
      exact record.live reach
  | done => cases mem
  | found rel =>
      cases rel with
      | none => cases mem
      | some record =>
          obtain rfl := List.mem_singleton.mp mem
          exact record.live reach

theorem Program.Sound.serve {store : OperationStore Json} {call : Call Value} {call' : Call Json} (now : Int)
    (keeps : StoreKeeps S Rep) (sound : p.Sound Rep store) (reads : CallReads p.heap call call') :
    Program.Sound Rep (answer P now store call').2 (p.serve S P now call).2 ∧
      ReadsAs (p.serve S P now call).2.heap (p.serve S P now call).1 (answer P now store call').1 := by
  obtain ⟨own, rep, apart⟩ := sound
  have served : Served Rep p.heap own store (answer P now store call') (perform S P now p.heap p.data call) :=
    perform_served keeps rep reads
  unfold Program.serve
  cases result : perform S P now p.heap p.data call with
  | error message =>
      rw [result] at served
      have same : answer P now store call' = (.thrown message, store) := served
      rw [same]
      exact ⟨⟨own, rep, apart⟩, .thrown message⟩
  | ok done =>
      obtain ⟨handed, h', data'⟩ := done
      rw [result] at served
      obtain ⟨le, answered, own', rep', fresh, away⟩ := served
      refine ⟨⟨own', rep', ?_⟩, answered⟩
      have closed : Closed h' p.known := by
        obtain ⟨rest, rfl⟩ := le
        exact p.closed_known.of_agree fun a mem => List.getElem?_append_left (apart a mem).1
      rintro a ⟨v, mem, reach⟩
      rcases List.mem_append.mp mem with new | old
      · exact ⟨answered.live v new a reach, (away v new a reach).2⟩
      · obtain ⟨live, free⟩ := apart a (closed.reach reach (Program.in_known old))
        refine ⟨live.trans_le le.length_le, fun mine => ?_⟩
        rcases fresh a mine with mine | past
        · exact free mine
        · exact absurd live (not_lt.mpr past)

/-- Over a store that keeps what it owes, every call of a run is answered as the calls before it say. -/
theorem Program.Run.answered (keeps : StoreKeeps S Rep)
    (begins : Represents Rep [] empty ∅ (∅ : OrderedMap String (OperationRecord Json)))
    (run : Program.Run S P empty p events) :
    p.Sound Rep (storeAfter P (events.map Event.asked)) ∧ Answered P events := by
  induction run with
  | start =>
      refine ⟨⟨∅, begins, ?_⟩, ?_⟩
      · rintro a ⟨v, mem, -⟩
        cases mem
      · intro before e le
        simp at le
  | make cell _ own_ ih => exact ⟨ih.1.make keeps own_, ih.2⟩
  | assign a cell _ known own_ ih => exact ⟨ih.1.assign keeps known own_, ih.2⟩
  | call now call call' _ _ reads ih =>
      obtain ⟨sound, answered⟩ := ih.1.serve (P := P) now keeps reads
      refine ⟨?_, fun before e le => ?_⟩
      · rw [List.map_append, List.map_singleton, storeAfter_concat]
        exact sound
      · rcases List.prefix_concat_iff.mp le with same | le
        · obtain ⟨rfl, last⟩ := List.append_inj' same rfl
          obtain rfl := List.singleton_injective last
          exact answered
        · exact ih.2 before e le

/-- Runs in which the same calls were made were answered alike. -/
theorem Answered.alike {events' : List Event} (answered : Answered P events) (answered' : Answered P events')
    (same : events.map Event.asked = events'.map Event.asked) :
    List.Forall₂ (fun e e' => ∃ a, ReadsAs e.heap e.handed a ∧ ReadsAs e'.heap e'.handed a) events events' := by
  induction events using List.reverseRecOn generalizing events' with
  | nil =>
      obtain rfl := List.map_eq_nil_iff.mp same.symm
      exact .nil
  | append_singleton events e ih =>
      rw [List.map_append, List.map_singleton] at same
      obtain ⟨others, last, rfl, asked, one⟩ := List.map_eq_append_iff.mp same.symm
      obtain ⟨e', rfl, one⟩ := List.map_eq_singleton_iff.mp one
      have others_ := ih (fun before e le => answered before e (le.trans (List.prefix_append _ _)))
        (fun before e le => answered' before e (le.trans (List.prefix_append _ _))) asked.symm
      refine List.rel_append others_ (.cons ?_ .nil)
      have first := answered events e (List.prefix_refl _)
      have second := answered' others e' (List.prefix_refl _)
      obtain ⟨now, call⟩ := Prod.mk.inj (List.singleton_injective one)
      rw [asked, now, call] at second
      exact ⟨_, first, second⟩

/-- A new record is handed out to the first call that begins its operation. -/
theorem Answered.unbegun {before : List Event} {e : Event} {operationId : String} {v : Value}
    (answered : Answered P events) (le : before ++ [e] <+: events) (begins : Begins operationId e.call)
    (new : e.handed = .ok (.new v)) : Unbegun operationId (before.map Event.asked) := by
  obtain ⟨request, aggregate, call⟩ := begins
  have reads := answered before e le
  rw [new, call] at reads
  by_contra begun
  obtain ⟨old, now, request₀, aggregate₀, mid, split, unbegun⟩ := exists_first begun
  rw [split, answerAfter_again unbegun] at reads
  split at reads <;> cases reads

end Running

theorem MemoryOperationStore.begins : Represents MemoryOperationStore.Rep [] (∅ : OrderedMap String Value) ∅
    (∅ : OrderedMap String (OperationRecord Json)) :=
  ⟨_, MemoryOperationStore.empty [], fun _ => .none⟩

theorem EncryptedOperationStore.begins (C : NodeCrypto) (encryptionSecret : String) :
    Represents (EncryptedOperationStore.Rep C encryptionSecret) [] {} ∅
      (∅ : OrderedMap String (OperationRecord Json)) :=
  ⟨_, EncryptedOperationStore.empty C encryptionSecret [], fun _ => .none⟩

end Coordinator

open Coordinator in
/-- Over either store, every call of every run is answered as the calls before it say, and so alike; an operation
is new once, and begun again it is replayed or is a conflict, with how it began and what was supplied last. -/
theorem coordinator_at_most_once (P : Platform) {C : NodeCrypto} (lawful : C.Lawful) (encryptionSecret : String) :
    (∀ p events, Program.Run MemoryOperationStore.methods P (∅ : OrderedMap _ _) p events → Answered P events) ∧
    (∀ p events, Program.Run (EncryptedOperationStore.methods C encryptionSecret) P {} p events →
      Answered P events) ∧
    (∀ events events', Answered P events → Answered P events' →
      events.map Event.asked = events'.map Event.asked →
      List.Forall₂ (fun e e' => ∃ a, ReadsAs e.heap e.handed a ∧ ReadsAs e'.heap e'.handed a) events events') ∧
    (∀ events, Answered P events → ∀ operationId before e v, before ++ [e] <+: events →
      Begins operationId e.call → e.handed = .ok (.new v) → Unbegun operationId (before.map Event.asked)) ∧
    (∀ calls operationId, Unbegun operationId calls → ∀ now request aggregateIdentity,
      answerAfter P calls now (.begin_ operationId request aggregateIdentity) =
        .begun (.new (.begun P now operationId request aggregateIdentity))) ∧
    ∀ old mid operationId now request aggregateIdentity, Unbegun operationId old →
      ∀ now' request' aggregateIdentity',
        answerAfter P (old ++ (now, .begin_ operationId request aggregateIdentity) :: mid) now'
            (.begin_ operationId request' aggregateIdentity') =
          if P.canonicalRequestHash request' = P.canonicalRequestHash request then
            .begun (.replay
              (recordedAs operationId mid (.begun P now operationId request aggregateIdentity)))
          else .begun (.conflict
              (recordedAs operationId mid (.begun P now operationId request aggregateIdentity))
              (P.canonicalRequestHash request')) := by
  refine ⟨?_, ?_, ?_, ?_, ?_, ?_⟩
  · intro p events run
    exact (run.answered MemoryOperationStore.memory_keeps MemoryOperationStore.begins).2
  · intro p events run
    exact (run.answered (EncryptedOperationStore.encrypted_keeps lawful encryptionSecret)
      (EncryptedOperationStore.begins C encryptionSecret)).2
  · intro events events' answered answered' same
    exact answered.alike answered' same
  · intro events answered operationId before e v le begins new
    exact answered.unbegun le begins new
  · intro calls operationId unbegun now request aggregateIdentity
    exact answerAfter_new unbegun
  · intro old mid operationId now request aggregateIdentity unbegun now' request' aggregateIdentity'
    exact answerAfter_again unbegun

/-! ### A run over the encrypted store -/

namespace Sample

/-- A character, as three bytes. -/
def charBytes (c : Char) : List UInt8 :=
  [.ofNat (c.toNat / 65536), .ofNat (c.toNat / 256), .ofNat c.toNat]

def charsOfBytes : List UInt8 → List Char
  | a :: b :: c :: rest => .ofNat (a.toNat * 65536 + b.toNat * 256 + c.toNat) :: charsOfBytes rest
  | _ => []

theorem charsOfBytes_charBytes : ∀ cs : List Char, charsOfBytes (cs.flatMap charBytes) = cs
  | [] => rfl
  | c :: cs => by
      have small : c.toNat < 1114112 := by
        rcases c.valid with low | ⟨-, high⟩
        · exact low.trans (by decide)
        · exact high
      have bytes : (UInt8.ofNat (c.toNat / 65536)).toNat * 65536 + (UInt8.ofNat (c.toNat / 256)).toNat * 256 +
          (UInt8.ofNat c.toNat).toNat = c.toNat := by
        simp only [UInt8.toNat_ofNat']
        omega
      simp only [List.flatMap_cons, charBytes, List.cons_append, List.nil_append, charsOfBytes, bytes]
      rw [Char.ofNat_toNat, charsOfBytes_charBytes cs]

/-- A cipher that hides nothing. -/
def openCrypto : NodeCrypto where
  sha256 s := s.toList.flatMap charBytes
  randomBytes _ n := List.replicate n 0
  cipher _ _ text := (text.toList.flatMap charBytes, List.replicate 16 0)
  decipher _ _ _ bytes := some (String.ofList (charsOfBytes bytes))
  toBase64 bytes := String.ofList (bytes.map fun b => .ofNat b.toNat)
  fromBase64 s := s.toList.map fun c => .ofNat c.toNat

theorem openCrypto_lawful : openCrypto.Lawful where
  length_randomBytes _ n := by simp [openCrypto]
  length_tag _ _ _ := by simp [openCrypto]
  decipher_cipher _ _ text := by simp [openCrypto, charsOfBytes_charBytes]
  fromBase64_toBase64 bytes := by
    have each : ∀ b : UInt8, UInt8.ofNat (Char.ofNat b.toNat).toNat = b := by
      intro b
      have valid : b.toNat.isValidChar := .inl (b.toNat_lt.trans (by decide))
      have same : (Char.ofNat b.toNat).toNat = b.toNat := by
        rw [Char.ofNat, dif_pos valid]
        rfl
      rw [same, UInt8.ofNat_toNat]
    simp [openCrypto, Function.comp_def, each]
  fromBase64_empty := rfl

/-- A quote, its result, and the quote asked for again after the result was assigned to. -/
def quoteRequest : OperationRequest := ⟨"quote.build", [("orderId", .text "o"), ("productId", .text "p")]⟩

end Sample

open Coordinator Sample in
theorem coordinator_at_most_once_quote : ∃ p events,
    Program.Run (EncryptedOperationStore.methods openCrypto "secret") textPlatform {} p events ∧
      events.map Event.asked = [
        (0, .begin_ "op" quoteRequest "o"),
        (1, .complete "op" .success none none (some (.obj [("digest", .str "d")]))),
        (2, .begin_ "op" quoteRequest "o")] ∧
      Answered textPlatform events ∧
      answerAfter textPlatform [
          (0, .begin_ "op" quoteRequest "o"),
          (1, .complete "op" .success none none (some (.obj [("digest", .str "d")])))] 2
          (.begin_ "op" quoteRequest "o") =
        .begun (.replay {
          operationId := "op"
          aggregateIdentity := "o"
          operationType := "quote.build"
          requestHash := textPlatform.canonicalRequestHash quoteRequest
          phase := .completed
          outcome := some .success
          resultPayload := some (.obj [("digest", .str "d")])
          createdAt := 0
          updatedAt := 1 }) := by
  obtain ⟨-, encrypted, -, -, -, again⟩ := coordinator_at_most_once textPlatform openCrypto_lawful "secret"
  have empty : Program.Run (EncryptedOperationStore.methods openCrypto "secret") textPlatform {} ⟨[], {}, []⟩ [] :=
    .start
  have begun := empty.call 0 _ _ (by simp [Coordinator.Call.payload]) (.begin_ "op" quoteRequest "o")
  have made := begun.make (.obj [("digest", .str "d")]) (by simp [Cell.values, Value.In])
  have completed := made.call 1 (.complete "op" .success none none (some (.ref _)))
    (.complete "op" .success none none (some (.obj [("digest", .str "d")])))
    (by
      rintro v ⟨⟩
      exact Program.in_known List.mem_cons_self)
    (.complete "op" .success none none (.some ⟨(reads_obj List.getElem?_concat_length).mpr
      (.cons ⟨rfl, 0, rfl⟩ .nil), by simp [Json.Writable, Json.WritableFields]⟩))
  have assigned := completed.assign _ (.obj [("digest", .str "e")])
    (Program.in_known (v := .ref _) (Program.held_serve List.mem_cons_self)) (by simp [Cell.values, Value.In])
  have replayed := assigned.call 2 _ _ (by simp [Coordinator.Call.payload]) (.begin_ "op" quoteRequest "o")
  refine ⟨_, _, replayed, rfl, encrypted _ _ replayed, ?_⟩
  have answered := again [] [(1, .complete "op" .success none none (some (.obj [("digest", .str "d")])))] "op" 0
    quoteRequest "o" (by simp [Unbegun]) 2 quoteRequest "o"
  rw [if_pos rfl] at answered
  exact answered

end AgentReady
