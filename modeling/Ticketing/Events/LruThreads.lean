import Ticketing.Events.LruCache
import Ticketing.Transactional.Monitor

/-!
# The event cache and its threads

`events/lru_cache.py` calls itself thread-safe: every method takes `self._lock`
around its operations on the dictionary.  Here the methods are programs of these
operations, and any number of threads run them in any order.

## Main Definitions

* `DictStmt` — the operations on `self._cache`, and reading `self.capacity`
* `Operation.method` — the bodies of `get`, `set` and `invalidate`

## Main Results

* `methods_implement` — alone, the bodies do what `LRUCache.call` says
* `lru_linearizable` — together, the threads see a serial run of the cache

## Design Notes

`move_to_end`, `cache[key]` and `popitem` raise `KeyError` where there is nothing
to move, to read or to pop; that they do not is part of what is proved.  `__len__`
takes no lock: it reads a length that may be one too large.
-/

namespace Ticketing.Events

open Collections Transactional Program

variable {K V : Type}

/-! ## The operations on the dictionary -/

inductive DictStmt (K V : Type)
  /-- `key in self._cache`. -/
  | contains (key : K)
  /-- `self._cache.move_to_end(key)`. -/
  | moveToEnd (key : K)
  /-- `self._cache[key]`. -/
  | getItem (key : K)
  /-- `self._cache[key] = value`. -/
  | setItem (key : K) (value : V)
  /-- `len(self._cache)`. -/
  | len
  /-- `self.capacity`. -/
  | capacity
  /-- `self._cache.popitem(last=False)`. -/
  | popItem
  /-- `self._cache.pop(key, None)`. -/
  | pop (key : K)

/-- The answers; `none` where Python raises `KeyError`. -/
@[reducible] def DictStmt.Res : DictStmt K V → Type
  | .contains _ => Bool
  | .moveToEnd _ => Option Unit
  | .getItem _ => Option V
  | .setItem _ _ => Unit
  | .len => ℕ
  | .capacity => ℕ
  | .popItem => Option Unit
  | .pop _ => Unit

/-- The statements of the cache. -/
@[reducible] def dictionary (K V : Type) : Signature := ⟨DictStmt K V, DictStmt.Res⟩

/-- `KeyError`. -/
inductive KeyError
  | keyError
  deriving DecidableEq

section Statements

variable [DecidableEq K]

/-- What one operation does. -/
def DictStmt.apply : (stmt : DictStmt K V) → LRUCache K V → stmt.Res × LRUCache K V
  | .contains key, lru => (decide (key ∈ lru.cache.keys), lru)
  | .moveToEnd key, lru =>
      if key ∈ lru.cache.keys then (some (), { lru with cache := lru.cache.moveToEnd key })
      else (none, lru)
  | .getItem key, lru => (lru.cache.get key, lru)
  | .setItem key value, lru => ((), { lru with cache := lru.cache.set key value })
  | .len, lru => (lru.cache.len, lru)
  | .capacity, lru => (lru.capacity, lru)
  | .popItem, lru =>
      if lru.cache.len = 0 then (none, lru)
      else (some (), { lru with cache := lru.cache.popFirst })
  | .pop key, lru => ((), { lru with cache := lru.cache.pop key })

end Statements

/-! ## The methods -/

/-- Code under the lock of a cache. -/
abbrev Method (K V : Type) := Program (dictionary K V) KeyError

/-- Send one operation. -/
def dict (stmt : DictStmt K V) : Method K V stmt.Res := .send (S := dictionary K V) stmt

/-- An operation that raises `KeyError` without an answer. -/
def orRaise {α : Type} : Option α → Method K V α
  | none => .raise .keyError
  | some value => .done value

/-- The body of `get`. -/
def getMethod (key : K) : Method K V (Option V) := do
  let found ← dict (.contains key)
  if found then
    orRaise (← dict (.moveToEnd key))
    let value ← orRaise (← dict (.getItem key))
    return some value
  else return none

/-- The end of `set`: one pair is evicted where there are too many. -/
def evict : Method K V (Option V) := do
  let size ← dict .len
  let capacity ← dict .capacity
  if size > capacity then
    orRaise (← dict .popItem)
    return none
  else return none

/-- The body of `set`. -/
def setMethod (key : K) (value : V) : Method K V (Option V) := do
  let found ← dict (.contains key)
  if found then
    orRaise (← dict (.moveToEnd key))
    dict (.setItem key value)
    evict
  else
    dict (.setItem key value)
    evict

/-- The body of `invalidate`. -/
def invalidateMethod (key : K) : Method K V (Option V) := do
  dict (.pop key)
  return none

/-- The body that a call runs. -/
def Operation.method : Operation K V → Method K V (Option V)
  | .get key => getMethod key
  | .set key value => setMethod key value
  | .invalidate key => invalidateMethod key

/-! ## The methods alone -/

section Alone

theorem orRaise_plain {α β : Type} (answer : Option α) {next : α → Method K V β}
    (rest : ∀ value, (next value).Plain) : (orRaise answer >>= next).Plain := by
  cases answer with
  | none => exact .raise _
  | some value => exact rest value

theorem evict_plain : (evict : Method K V (Option V)).Plain := by
  refine .call fun size => .call fun capacity => ?_
  change Plain (if size > capacity then _ else _ : Method K V (Option V))
  split
  · exact .call fun popped => orRaise_plain popped fun _ => .done none
  · exact .done none

theorem method_plain (operation : Operation K V) : operation.method.Plain := by
  cases operation with
  | get key =>
      refine .call fun found => ?_
      cases found with
      | false => exact .done none
      | true =>
          exact .call fun moved => orRaise_plain moved fun _ => .call fun item =>
            orRaise_plain item fun value => .done (some value)
  | set key value =>
      refine .call fun found => ?_
      cases found with
      | false => exact .call fun _ => evict_plain
      | true => exact .call fun moved => orRaise_plain moved fun _ => .call fun _ => evict_plain
  | invalidate key => exact .call fun _ => .done none

variable [DecidableEq K]

/-- A cache of the given capacity that is not too full. -/
def Sound (capacity : ℕ) (lru : LRUCache K V) : Prop :=
  lru.capacity = capacity ∧ lru.len ≤ capacity

/-- At most one pair too many. -/
def Bounded (capacity : ℕ) (lru : LRUCache K V) : Prop := lru.cache.len ≤ capacity + 1

/-- `evict` on a cache with at most one pair too many. -/
theorem evict_runs {capacity : ℕ} {lru : LRUCache K V} (same : lru.capacity = capacity)
    (bounded : Bounded capacity lru) :
    evict.perform DictStmt.apply lru = (.ok none,
        if lru.cache.len > lru.capacity then { lru with cache := lru.cache.popFirst } else lru) ∧
      evict.Throughout DictStmt.apply (Bounded capacity) lru := by
  by_cases full : lru.cache.len > lru.capacity
  · have something : lru.cache.len ≠ 0 := by omega
    have popped : Bounded capacity { lru with cache := lru.cache.popFirst } := by
      have length := lru.cache.len_popFirst
      unfold Bounded at bounded ⊢
      simp only
      omega
    simp [evict, dict, send, orRaise, perform, Throughout, DictStmt.apply, full, something,
      bounded, popped]
  · simp [evict, dict, send, perform, Throughout, DictStmt.apply, full, bounded]

/-- `set` after the key has been moved, if it was there. -/
theorem setItem_runs {capacity : ℕ} {lru : LRUCache K V} (same : lru.capacity = capacity)
    {key : K} {value : V} (before : Bounded capacity lru)
    (after : Bounded capacity { lru with cache := lru.cache.set key value }) :
    (dict (.setItem key value) >>= fun _ => evict).perform DictStmt.apply lru = (.ok none,
        let cache := lru.cache.set key value
        if cache.len > lru.capacity then { lru with cache := cache.popFirst }
        else { lru with cache }) ∧
      (dict (.setItem key value) >>= fun _ => evict).Throughout DictStmt.apply (Bounded capacity)
        lru := by
  have rest := @evict_runs _ _ _ capacity { lru with cache := lru.cache.set key value } same after
  exact ⟨rest.1, before, rest.2⟩

/-- **The bodies do what the class says**, raise nothing, and keep within one pair
of the capacity. -/
theorem method_runs {capacity : ℕ} (operation : Operation K V) {lru : LRUCache K V}
    (sound : Sound capacity lru) :
    operation.method.perform DictStmt.apply lru
        = (.ok (lru.call operation).1, (lru.call operation).2) ∧
      operation.method.Throughout DictStmt.apply (Bounded capacity) lru := by
  obtain ⟨same, room⟩ := sound
  have roomy : lru.cache.len ≤ capacity := room
  have bounded : Bounded capacity lru := Nat.le_succ_of_le room
  cases operation with
  | get key =>
      cases held : lru.cache.get key with
      | none =>
          have absent := OrderedDict.get_eq_none.mp held
          rw [LRUCache.call, LRUCache.get_of_miss held]
          simp [Operation.method, getMethod, dict, send, perform, Throughout, DictStmt.apply,
            absent, bounded]
      | some value =>
          have there : key ∈ lru.cache.keys := OrderedDict.mem_keys.mpr ⟨value, held⟩
          have touched : Bounded capacity { lru with cache := lru.cache.touch key value } := by
            have length := lru.cache.len_touch key value
            rw [if_pos there] at length
            exact length.trans_le bounded
          rw [LRUCache.call, LRUCache.get_of_hit held]
          simp [Operation.method, getMethod, dict, send, orRaise, perform, Throughout,
            DictStmt.apply, there, OrderedDict.moveToEnd_of_get held, OrderedDict.get_touch_self,
            bounded, touched]
  | set key value =>
      cases held : lru.cache.get key with
      | none =>
          have absent := OrderedDict.get_eq_none.mp held
          have placed : Bounded capacity { lru with cache := lru.cache.set key value } := by
            have length := lru.cache.len_touch key value
            have moved := lru.cache.moveToEnd_set key value
            rw [if_neg absent] at length moved
            unfold Bounded
            simp only [moved, length]
            omega
          have rest := setItem_runs same bounded placed
          have answer : (lru.call (.set key value)) = (none,
              let cache := lru.cache.set key value
              if cache.len > lru.capacity then { lru with cache := cache.popFirst }
              else { lru with cache }) := by
            simp only [LRUCache.call, LRUCache.set, if_neg absent]
          rw [answer]
          simp only [Operation.method, setMethod, dict, send, call_bind, done_bind, perform,
            Throughout, DictStmt.apply, absent, decide_false, Bool.false_eq_true, if_false]
          exact ⟨rest.1, bounded, rest.2⟩
      | some old =>
          have there : key ∈ lru.cache.keys := OrderedDict.mem_keys.mpr ⟨old, held⟩
          set moved : LRUCache K V := { lru with cache := lru.cache.moveToEnd key } with movedEq
          have length := lru.cache.len_touch key old
          rw [if_pos there] at length
          have before : Bounded capacity moved := by
            unfold Bounded
            rw [movedEq]
            simp only [OrderedDict.moveToEnd_of_get held, length]
            omega
          have placed : Bounded capacity { moved with cache := moved.cache.set key value } := by
            have length' := lru.cache.len_touch key value
            have order := lru.cache.moveToEnd_set key value
            rw [if_pos there] at length' order
            unfold Bounded
            simp only [movedEq, order, length']
            omega
          have rest := @setItem_runs _ _ _ capacity moved same key value before placed
          have answer : (lru.call (.set key value)) = (none,
              let cache := moved.cache.set key value
              if cache.len > moved.capacity then { moved with cache := cache.popFirst }
              else { moved with cache }) := by
            simp only [LRUCache.call, LRUCache.set, if_pos there, movedEq]
          rw [answer]
          simp only [Operation.method, setMethod, dict, send, orRaise, call_bind, done_bind,
            perform, Throughout, DictStmt.apply, there, decide_true, if_true]
          exact ⟨rest.1, bounded, bounded, rest.2⟩
  | invalidate key =>
      have fewer : Bounded capacity { lru with cache := lru.cache.pop key } :=
        (List.length_filter_le _ _).trans bounded
      exact ⟨rfl, bounded, fewer⟩

/-- The methods implement the class. -/
theorem methods_implement (capacity : ℕ) :
    Implements DictStmt.apply Operation.method (LRUCache.call : LRUCache K V → _)
      (Sound capacity) (Bounded capacity) where
  plain := method_plain
  performs operation _ sound := (method_runs operation sound).1
  valid_after operation lru sound := by
    obtain ⟨same, room⟩ := sound
    have kept := LRUCache.call_capacity lru operation
    have fits := LRUCache.len_call_le (same ▸ room) operation
    exact ⟨kept.trans same, fits.trans (kept.trans same).le⟩
  throughout operation _ sound := (method_runs operation sound).2
  bounded_of_valid _ sound := Nat.le_succ_of_le sound.2

end Alone

/-! ## The threads together -/

/-- **The cache is thread-safe.**  Any number of threads call `get`, `set` and
`invalidate` of a new cache, and their dictionary operations are interleaved in
any order.  The calls that have taken effect form a serial run in the order in
which the lock was released, each thread's calls in its own order; a thread that
has ended was answered as in that run, so nothing raises `KeyError`; while the
lock is free the cache is the one the serial run leaves; there is never more than
one pair too many, and none while the lock is free.  One of the threads that have
not ended can always move, and finitely many of them always come to an end. -/
theorem lru_linearizable {ι : Type} [DecidableEq ι] [DecidableEq K] (capacity : ℕ)
    (calls : ι → List (Operation K V))
    {system : System (monitor (dictionary K V)) ι (Guarded ι (LRUCache K V)) KeyError
      (List (Option V))}
    (reached : Reaches (monitorEngine ι DictStmt.apply) (fun _ action => action.fault = none)
      (System.start ⟨none, LRUCache.new capacity⟩ fun agent =>
        client Operation.method (calls agent) []) system) :
    (∃ served : List (ι × Operation K V),
      let serial := replay (fun lru (request : ι × Operation K V) => LRUCache.call lru request.2)
        served (LRUCache.new capacity)
      served.map Prod.fst = turns system.log ∧
      (∀ agent, callsOf agent served <+: calls agent) ∧
      (∀ agent answers, (system.thread agent).program = .done answers →
        callsOf agent served = calls agent ∧
        answers = answersTo (fun request => decide (request.1 = agent)) served serial.1) ∧
      (∀ agent error, (system.thread agent).program ≠ .raise error) ∧
      (system.world.owner = none → system.world.value = serial.2 ∧
        system.world.value.len ≤ capacity) ∧
      system.world.value.len ≤ capacity + 1) ∧
    ((∃ agent, ¬ (system.thread agent).Ended) → ∃ agent after,
      system.step (monitorEngine ι DictStmt.apply) ⟨agent, (), none⟩ = some after) ∧
    (Finite ι → ∃ schedule after, (∀ action ∈ schedule, action.fault = none) ∧
      system.run (monitorEngine ι DictStmt.apply) schedule = some after ∧
      ∀ agent, (after.thread agent).Ended) := by
  have implements := methods_implement (K := K) (V := V) capacity
  have initially : Sound capacity (LRUCache.new capacity : LRUCache K V) := ⟨rfl, Nat.zero_le _⟩
  obtain ⟨served, serves⟩ := monitor_linearizes implements initially reached
  refine ⟨⟨served, serves.turns, fun agent => ?_, fun agent answers => serves.ended,
    fun agent error => ?_, fun free => ?_, serves.within_bounds implements initially⟩,
    serves.moves, fun _ => serves.completes implements initially⟩
  · by_cases owned : system.world.owner = some agent
    · obtain ⟨op, rest, -, program, -⟩ := serves.inside agent owned
      exact ⟨op :: rest, program⟩
    · obtain ⟨rest, program, -⟩ := serves.outside agent owned
      exact ⟨rest, program⟩
  · by_cases owned : system.world.owner = some agent
    · obtain ⟨_, _, body, -, plain, located, -⟩ := serves.inside agent owned
      rw [located]
      intro raised
      cases plain <;> cases raised
    · obtain ⟨rest, -, located⟩ := serves.outside agent owned
      rw [located]
      intro raised
      cases rest <;> cases raised
  · have value := serves.free free
    have sound := implements.valid_serially initially served
    refine ⟨value, ?_⟩
    rw [value]
    exact sound.2

namespace Sample

/-- One thread sets a key and gets it, the other sets another key. -/
def threads : Bool → List (Operation ℕ ℕ)
  | false => [.set 1 10, .get 1]
  | true => [.set 2 20]

/-- The second thread evicts the key of the first one between its calls. -/
def turnsTaken : List (Action Bool Unit KeyError) :=
  List.replicate 6 ⟨false, (), none⟩ ++ List.replicate 7 ⟨true, (), none⟩ ++
    List.replicate 3 ⟨false, (), none⟩

end Sample

theorem lru_linearizable_sample :
    ∃ system : System (monitor (dictionary ℕ ℕ)) Bool (Guarded Bool (LRUCache ℕ ℕ)) KeyError
        (List (Option ℕ)),
      (system.thread false).program.result = some [none, none] ∧
        turns system.log = [false, true, false] ∧
        system.world.value.len ≤ 2 := by
  have executed : ((System.start ⟨none, LRUCache.new 1⟩ fun agent =>
      client Operation.method (Sample.threads agent) []).runWhile
        (monitorEngine Bool DictStmt.apply) (fun _ action => action.fault.isNone)
        Sample.turnsTaken).map
          (fun system => ((system.thread false).program.result, turns system.log))
      = some (some [none, none], [false, true, false]) := by
    decide +kernel
  obtain ⟨system, ran, seen⟩ := Option.map_eq_some_iff.mp executed
  obtain ⟨answered, order⟩ := Prod.mk.inj seen
  have reached : Reaches (monitorEngine Bool DictStmt.apply)
      (fun _ action => action.fault = none) _ system :=
    reaches_of_runWhile (fun _ _ passes => Option.isNone_iff_eq_none.mp passes) ran
  obtain ⟨⟨served, -, -, -, -, -, bounded⟩, -⟩ := lru_linearizable 1 Sample.threads reached
  exact ⟨system, answered, order, bounded⟩

end Ticketing.Events
