import Ticketing.Collections.OrderedDict
import Ticketing.Transactional.Trail

/-!
# The event cache

`events/lru_cache.py`: a least-recently-used cache on top of an ordered dictionary.

## Main Definitions

* `LRUCache`, `LRUCache.get`, `LRUCache.set`, `LRUCache.invalidate` — the class
* `Operation` — one call of it
* `Recency` — what the cache stands for: pairs in the order of their last access
* `Recency.history` — the successful accesses of a run
* `LRUCache.Within` — one cache holds what another one holds, and little less

## Main Results

* `lru_refines` — the cache answers as the list of recent pairs does, stays within its
  capacity, and loses only what has been invalidated or is least recently accessed
* `capacity_monotone` — a larger cache has every hit of a smaller one

## Design Notes

Every method runs under one lock, so the calls of all threads form a sequence.
`get` returns Python's `None` for a key that is not there; a value that is stored
is told apart from it here, whatever it is.
-/

namespace Ticketing.Events

open Collections Transactional

variable {K V : Type}

/-- `LRUCache`. -/
structure LRUCache (K V : Type) where
  capacity : ℕ
  cache : OrderedDict K V

/-- One call of a cache. -/
inductive Operation (K V : Type)
  | get (key : K)
  | set (key : K) (value : V)
  | invalidate (key : K)

namespace LRUCache

/-- `LRUCache(capacity)`. -/
def new (capacity : ℕ) : LRUCache K V := ⟨capacity, .empty⟩

/-- `__len__`. -/
def len (lru : LRUCache K V) : ℕ := lru.cache.len

variable [DecidableEq K]

/-- `get`. -/
def get (lru : LRUCache K V) (key : K) : Option V × LRUCache K V :=
  if key ∉ lru.cache.keys then (none, lru)
  else
    let cache := lru.cache.moveToEnd key
    (cache.get key, { lru with cache })

/-- `set`. -/
def set (lru : LRUCache K V) (key : K) (value : V) : LRUCache K V :=
  let cache := if key ∈ lru.cache.keys then lru.cache.moveToEnd key else lru.cache
  let cache := cache.set key value
  if cache.len > lru.capacity then { lru with cache := cache.popFirst } else { lru with cache }

/-- `invalidate`. -/
def invalidate (lru : LRUCache K V) (key : K) : LRUCache K V :=
  { lru with cache := lru.cache.pop key }

/-- A call, with what it returns. -/
def call (lru : LRUCache K V) : Operation K V → Option V × LRUCache K V
  | .get key => lru.get key
  | .set key value => (none, lru.set key value)
  | .invalidate key => (none, lru.invalidate key)

end LRUCache

/-! ## What the cache stands for -/

/-- Pairs of a key and its value, the least recently accessed one first. -/
abbrev Recency (K V : Type) := List (K × V)

namespace Recency

variable [DecidableEq K]

/-- The pairs of the other keys, then this one. -/
def access (pairs : Recency K V) (key : K) (value : V) : Recency K V :=
  pairs.filter (·.1 ≠ key) ++ [(key, value)]

/-- What an operation does to the pairs: a hit moves its pair to the end, a set puts
its pair there and drops the first pair where there are too many, and a miss
changes nothing. -/
def step (capacity : ℕ) (pairs : Recency K V) : Operation K V → Option V × Recency K V
  | .get key =>
      match (pairs.find? (·.1 = key)).map Prod.snd with
      | none => (none, pairs)
      | some value => (some value, pairs.access key value)
  | .set key value =>
      let placed := pairs.access key value
      (none, if placed.length > capacity then placed.tail else placed)
  | .invalidate key => (none, pairs.filter (·.1 ≠ key))

/-- The key that an operation accesses: a get that misses accesses none. -/
def accessed (pairs : Recency K V) : Operation K V → List K
  | .get key => if key ∈ pairs.map Prod.fst then [key] else []
  | .set key _ => [key]
  | .invalidate _ => []

/-- The successful accesses of a run, in order. -/
def history (capacity : ℕ) : List (Operation K V) → Recency K V → List K
  | [], _ => []
  | operation :: rest, pairs =>
      accessed pairs operation ++ history capacity rest (step capacity pairs operation).2

end Recency

/-! ## One operation -/

section Refinement

variable [DecidableEq K]

namespace LRUCache

theorem get_of_hit {lru : LRUCache K V} {key : K} {value : V}
    (found : lru.cache.get key = some value) :
    lru.get key = (some value, { lru with cache := lru.cache.touch key value }) := by
  have there : key ∈ lru.cache.keys := OrderedDict.mem_keys.mpr ⟨value, found⟩
  rw [get, if_neg (not_not.mpr there)]
  simp only [OrderedDict.moveToEnd_of_get found, OrderedDict.get_touch_self]

theorem get_of_miss {lru : LRUCache K V} {key : K} (missing : lru.cache.get key = none) :
    lru.get key = (none, lru) := by
  rw [get, if_pos (OrderedDict.get_eq_none.mp missing)]

theorem set_eq (lru : LRUCache K V) (key : K) (value : V) :
    lru.set key value =
      if (lru.cache.touch key value).len > lru.capacity then
        { lru with cache := (lru.cache.touch key value).popFirst }
      else { lru with cache := lru.cache.touch key value } := by
  unfold set
  simp only [OrderedDict.moveToEnd_set]

end LRUCache

/-- The cache holds the pairs. -/
def Holds (capacity : ℕ) (lru : LRUCache K V) (pairs : Recency K V) : Prop :=
  lru.capacity = capacity ∧ lru.cache.entries = pairs

/-- **One operation.**  It answers as the list of recent pairs does, and leaves the same. -/
theorem call_refines (capacity : ℕ) (lru : LRUCache K V) (pairs : Recency K V)
    (operation : Operation K V) (holds : Holds capacity lru pairs) :
    (lru.call operation).1 = (Recency.step capacity pairs operation).1 ∧
      Holds capacity (lru.call operation).2 (Recency.step capacity pairs operation).2 := by
  obtain ⟨rfl, rfl⟩ := holds
  cases operation with
  | get key =>
      have lookup : (lru.cache.entries.find? (·.1 = key)).map Prod.snd = lru.cache.get key := rfl
      simp only [LRUCache.call, Recency.step, lookup]
      cases found : lru.cache.get key with
      | none =>
          rw [LRUCache.get_of_miss found]
          exact ⟨rfl, rfl, rfl⟩
      | some value =>
          rw [LRUCache.get_of_hit found]
          exact ⟨rfl, rfl, rfl⟩
  | set key value =>
      rw [LRUCache.call, LRUCache.set_eq]
      by_cases full : (lru.cache.touch key value).len > lru.capacity
      · rw [if_pos full]
        exact ⟨rfl, rfl, (if_pos full).symm⟩
      · rw [if_neg full]
        exact ⟨rfl, rfl, (if_neg full).symm⟩
  | invalidate key => exact ⟨rfl, rfl, rfl⟩

/-! ## Capacity and eviction -/

/-- The operation is a set of a new key in a full cache whose least recently accessed
key is `key`. -/
def Evicts (lru : LRUCache K V) (operation : Operation K V) (key : K) : Prop :=
  ∃ new value, operation = .set new value ∧ new ∉ lru.cache.keys ∧ lru.len = lru.capacity ∧
    lru.cache.keys.head? = some key

namespace LRUCache

/-- A set adds a pair, and takes one away where there are too many. -/
theorem len_set_le {lru : LRUCache K V} (bounded : lru.len ≤ lru.capacity) (key : K) (value : V) :
    (lru.set key value).len ≤ lru.capacity := by
  have length := lru.cache.len_touch key value
  have bounded : lru.cache.len ≤ lru.capacity := bounded
  rw [set_eq]
  split
  -- the touch adds one pair at most, and the pop takes one away
  · show (lru.cache.touch key value).popFirst.len ≤ lru.capacity
    rw [OrderedDict.len_popFirst]
    split at length <;> omega
  · rename_i fits
    exact not_lt.mp fits

theorem call_capacity (lru : LRUCache K V) (operation : Operation K V) :
    (lru.call operation).2.capacity = lru.capacity :=
  (call_refines lru.capacity lru lru.cache.entries operation ⟨rfl, rfl⟩).2.1

/-- No operation exceeds the capacity. -/
theorem len_call_le {lru : LRUCache K V} (bounded : lru.len ≤ lru.capacity)
    (operation : Operation K V) :
    (lru.call operation).2.len ≤ (lru.call operation).2.capacity := by
  rw [call_capacity]
  cases operation with
  | get key =>
      cases found : lru.cache.get key with
      | none =>
          rw [call, get_of_miss found]
          exact bounded
      | some value =>
          rw [call, get_of_hit found]
          show (lru.cache.touch key value).len ≤ lru.capacity
          rw [OrderedDict.len_touch, if_pos (OrderedDict.mem_keys.mpr ⟨value, found⟩)]
          exact bounded
  | set key value => exact len_set_le bounded key value
  | invalidate key => exact (List.length_filter_le _ _).trans bounded

/-- **Eviction.**  Only an invalidated key is lost, or the least recently accessed one
when a new key enters a full cache. -/
theorem lost_key {lru : LRUCache K V} (bounded : lru.len ≤ lru.capacity)
    {operation : Operation K V} {key : K} (there : key ∈ lru.cache.keys)
    (lost : key ∉ (lru.call operation).2.cache.keys) :
    operation = .invalidate key ∨ Evicts lru operation key := by
  cases operation with
  | get other =>
      cases found : lru.cache.get other with
      | none =>
          rw [call, get_of_miss found] at lost
          exact absurd there lost
      | some value =>
          rw [call, get_of_hit found] at lost
          exact absurd (OrderedDict.mem_keys_touch there) lost
  | invalidate other =>
      have same : key = other := by
        by_contra different
        exact lost (OrderedDict.mem_keys_pop.mpr ⟨there, different⟩)
      exact .inl (same ▸ rfl)
  | set new value =>
      have length := lru.cache.len_touch new value
      have bounded' : lru.cache.len ≤ lru.capacity := bounded
      rw [call, set_eq] at lost
      split at lost
      · rename_i full
        by_cases known : new ∈ lru.cache.keys
        · -- a key that is there makes nothing longer
          rw [if_pos known] at length
          omega
        · rw [if_neg known] at length
          refine .inr ⟨new, value, rfl, known, ?_, ?_⟩
          · show lru.cache.len = lru.capacity
            omega
          · have after : ((lru.cache.touch new value).popFirst).keys
                = (lru.cache.keys ++ [new]).tail := by
              have keys := lru.cache.keys_touch new value
              rw [OrderedDict.pop_of_not_mem known] at keys
              show (lru.cache.touch new value).entries.tail.map Prod.fst = _
              rw [List.map_tail]
              exact congrArg List.tail keys
            simp only [after] at lost
            cases order : lru.cache.keys with
            | nil => simp [order] at there
            | cons first rest =>
                rw [order] at there lost
                simp only [List.cons_append, List.tail_cons, List.mem_append, not_or] at lost
                rcases List.mem_cons.mp there with rfl | later
                · rfl
                · exact absurd later lost.1
      · exact absurd (OrderedDict.mem_keys_touch there) lost

end LRUCache

/-! ## Recency -/

namespace Recency

theorem keys_access (pairs : Recency K V) (key : K) (value : V) :
    (pairs.access key value).map Prod.fst = (pairs.map Prod.fst).filter (· ≠ key) ++ [key] := by
  rw [access, List.map_append, List.filter_map]
  rfl

/-- One operation keeps the keys in the order of their last access. -/
theorem step_ordered (capacity : ℕ) {pairs : Recency K V} {past : List K}
    (ordered : (pairs.map Prod.fst).Sublist past.dedup) (operation : Operation K V) :
    ((step capacity pairs operation).2.map Prod.fst).Sublist
      (past ++ accessed pairs operation).dedup := by
  have touched (key : K) (value : V) :
      ((pairs.access key value).map Prod.fst).Sublist (past ++ [key]).dedup := by
    rw [keys_access, dedup_concat]
    exact (ordered.filter _).append (List.Sublist.refl _)
  cases operation with
  | get key =>
      cases found : pairs.find? (·.1 = key) with
      | none =>
          have absent : key ∉ pairs.map Prod.fst := by
            intro there
            obtain ⟨entry, inside, rfl⟩ := List.mem_map.mp there
            simpa using List.find?_eq_none.mp found entry inside
          simpa [step, accessed, found, absent] using ordered
      | some entry =>
          have there : key ∈ pairs.map Prod.fst := by
            have isKey : entry.1 = key := by simpa using List.find?_some found
            exact isKey ▸ List.mem_map_of_mem (List.mem_of_find?_eq_some found)
          simp only [step, accessed, found, if_pos there, Option.map_some]
          exact touched key entry.2
  | set key value =>
      simp only [step, accessed]
      split
      · rw [List.map_tail]
        exact (List.tail_sublist _).trans (touched key value)
      · exact touched key value
  | invalidate key =>
      simp only [step, accessed, List.append_nil]
      exact (List.filter_sublist.map _).trans ordered

/-- Throughout a run the keys stand in the order of their last access. -/
theorem replay_ordered (capacity : ℕ) (operations : List (Operation K V)) {pairs : Recency K V}
    {past : List K} (ordered : (pairs.map Prod.fst).Sublist past.dedup) :
    ((replay (step capacity) operations pairs).2.map Prod.fst).Sublist
      (past ++ history capacity operations pairs).dedup := by
  -- the keys so far are in the order of `past`, whatever follows
  induction operations generalizing pairs past with
  | nil => simpa [history, replay] using ordered
  | cons operation rest ih =>
      have later := ih (step_ordered capacity ordered operation)
      rw [List.append_assoc] at later
      exact later

end Recency

/-- **The cache is an LRU cache.**  In every run it answers as the list of recent pairs
does and holds these pairs; their keys stand in the order of their last successful
access; there are never more than the capacity; and an operation that loses a key
invalidates it, or enters a new key into a full cache where it is the least
recently accessed one. -/
theorem lru_refines (capacity : ℕ) (operations : List (Operation K V)) :
    let cached := replay LRUCache.call operations (LRUCache.new capacity)
    let recent := replay (Recency.step capacity) operations ([] : Recency K V)
    cached.1 = recent.1 ∧ cached.2.cache.entries = recent.2 ∧
      cached.2.cache.keys.Sublist (Recency.history capacity operations ([] : Recency K V)).dedup ∧
      cached.2.len ≤ capacity ∧
      ∀ operation key, key ∈ cached.2.cache.keys →
        key ∉ (cached.2.call operation).2.cache.keys →
          operation = .invalidate key ∨ Evicts cached.2 operation key := by
  intro cached recent
  have empty : Holds capacity (LRUCache.new capacity) ([] : Recency K V) := ⟨rfl, rfl⟩
  obtain ⟨answers, same, entries⟩ :=
    replay_simulates (Holds capacity) (· = ·) (call_refines capacity) operations empty
  have room : (LRUCache.new capacity : LRUCache K V).len ≤ capacity := Nat.zero_le _
  have bounded : cached.2.len ≤ cached.2.capacity :=
    replay_of_step (fun lru : LRUCache K V => lru.len ≤ lru.capacity)
      (fun lru operation bounded => LRUCache.len_call_le bounded operation) operations room
  have nothing : (([] : Recency K V).map Prod.fst).Sublist ([] : List K).dedup :=
    List.Sublist.refl _
  have ordered := Recency.replay_ordered capacity operations nothing
  refine ⟨List.forall₂_eq_eq_eq ▸ answers, entries, ?_, same ▸ bounded,
    fun operation key there lost => LRUCache.lost_key bounded there lost⟩
  rw [OrderedDict.keys, entries]
  exact ordered

/-! ## Two capacities -/

/-- The smaller cache holds nothing that the larger one does not hold, in the same
order, and the larger one has room for what it holds besides. -/
structure LRUCache.Within (small large : LRUCache K V) : Prop where
  pairs : small.cache.entries.Sublist large.cache.entries
  extra : large.len + small.capacity ≤ small.len + large.capacity
  smallBound : small.len ≤ small.capacity
  largeBound : large.len ≤ large.capacity

namespace LRUCache.Within

variable {small large : LRUCache K V}

theorem hit (within : Within small large) {key : K} {value : V}
    (found : small.cache.get key = some value) : large.cache.get key = some value :=
  OrderedDict.get_eq_some.mpr (within.pairs.subset (OrderedDict.get_eq_some.mp found))

omit [DecidableEq K] in
theorem mem_keys (within : Within small large) {key : K} (there : key ∈ small.cache.keys) :
    key ∈ large.cache.keys :=
  (within.pairs.map Prod.fst).subset there

/-- Dropping a key from both. -/
theorem pop_sublist (within : Within small large) (key : K) :
    (small.cache.pop key).entries.Sublist (large.cache.pop key).entries :=
  within.pairs.filter _

/-- Touching a key in both. -/
theorem touch_sublist (within : Within small large) (key : K) (value : V) :
    (small.cache.touch key value).entries.Sublist (large.cache.touch key value).entries :=
  (within.pop_sublist key).append (List.Sublist.refl _)

/-- A get moves its pair in both caches, or in the larger one alone, or in none. -/
theorem get (within : Within small large) (key : K) :
    (∀ value, (small.get key).1 = some value → (large.get key).1 = some value) ∧
      Within (small.get key).2 (large.get key).2 := by
  cases held : small.cache.get key with
  | some value =>
      have held' := within.hit held
      have length := small.cache.len_touch key value
      have length' := large.cache.len_touch key value
      rw [if_pos (OrderedDict.mem_keys.mpr ⟨value, held⟩)] at length
      rw [if_pos (OrderedDict.mem_keys.mpr ⟨value, held'⟩)] at length'
      rw [get_of_hit held, get_of_hit held']
      refine ⟨fun _ returned => returned, within.touch_sublist key value, ?_, ?_, ?_⟩
      · show (large.cache.touch key value).len + _ ≤ (small.cache.touch key value).len + _
        rw [length, length']
        exact within.extra
      · exact length.trans_le within.smallBound
      · exact length'.trans_le within.largeBound
  | none =>
      have absent := OrderedDict.get_eq_none.mp held
      rw [get_of_miss held]
      refine ⟨nofun, ?_⟩
      cases held' : large.cache.get key with
      | none =>
          rw [get_of_miss held']
          exact within
      | some value =>
          have length' := large.cache.len_touch key value
          rw [if_pos (OrderedDict.mem_keys.mpr ⟨value, held'⟩)] at length'
          rw [get_of_hit held']
          refine ⟨?_, ?_, within.smallBound, length'.trans_le within.largeBound⟩
          · -- the smaller cache has no pair to move
            have others := within.pop_sublist key
            rw [OrderedDict.pop_of_not_mem absent] at others
            exact others.trans (List.sublist_append_left _ _)
          · show (large.cache.touch key value).len + _ ≤ small.cache.len + _
            rw [length']
            exact within.extra

/-- Whether the key of a set is new to both caches, to the smaller one alone, or to none. -/
theorem len_touch_cases (within : Within small large) (key : K) (value : V) :
    let placed := (small.cache.touch key value).len
    let placed' := (large.cache.touch key value).len
    placed = small.len ∧ placed' = large.len ∨ placed = small.len + 1 ∧ placed' = large.len ∨
      placed = small.len + 1 ∧ placed' = large.len + 1 := by
  have length := small.cache.len_touch key value
  have length' := large.cache.len_touch key value
  by_cases held : key ∈ small.cache.keys
  · rw [if_pos held] at length
    rw [if_pos (within.mem_keys held)] at length'
    exact .inl ⟨length, length'⟩
  · rw [if_neg held] at length
    by_cases held' : key ∈ large.cache.keys
    · rw [if_pos held'] at length'
      exact .inr (.inl ⟨length, length'⟩)
    · rw [if_neg held'] at length'
      exact .inr (.inr ⟨length, length'⟩)

/-- A set touches its pair in both caches.  Where the larger one drops its first pair,
so does the smaller one. -/
theorem set (within : Within small large) (key : K) (value : V) :
    Within (small.set key value) (large.set key value) := by
  have counts := within.len_touch_cases key value
  have touched := within.touch_sublist key value
  have dropped := (small.cache.touch key value).len_popFirst
  have dropped' := (large.cache.touch key value).len_popFirst
  obtain ⟨-, extra, bound, bound'⟩ := within
  rw [set_eq, set_eq]
  split
  · rename_i full
    split
    · rename_i full'
      refine ⟨touched.tail, ?_, ?_, ?_⟩ <;> simp only [LRUCache.len] at * <;> omega
    · rename_i fits'
      refine ⟨(List.tail_sublist _).trans touched, ?_, ?_, ?_⟩ <;>
        simp only [LRUCache.len] at * <;> omega
  · rename_i fits
    split
    · -- a full larger cache and its extra pairs leave no room in the smaller one
      rename_i full'
      simp only [LRUCache.len] at *
      omega
    · rename_i fits'
      refine ⟨touched, ?_, ?_, ?_⟩ <;> simp only [LRUCache.len] at * <;> omega

theorem invalidate (within : Within small large) (key : K) :
    Within (small.invalidate key) (large.invalidate key) := by
  refine ⟨within.pop_sublist key, ?_, ?_, ?_⟩
  · show (large.cache.pop key).len + small.capacity ≤ (small.cache.pop key).len + large.capacity
    have extra : large.cache.len + small.capacity ≤ small.cache.len + large.capacity := within.extra
    by_cases held : key ∈ small.cache.keys
    · have length := OrderedDict.len_pop_of_mem held
      have length' := OrderedDict.len_pop_of_mem (within.mem_keys held)
      omega
    · rw [OrderedDict.pop_of_not_mem held]
      have shorter : (large.cache.pop key).len ≤ large.cache.len := List.length_filter_le _ _
      omega
  · exact (List.length_filter_le _ _).trans within.smallBound
  · exact (List.length_filter_le _ _).trans within.largeBound

/-- **One operation.**  The larger cache returns what the smaller one returns of a key it
holds, and goes on holding its pairs. -/
theorem call (within : Within small large) (operation : Operation K V) :
    (∀ value, (small.call operation).1 = some value → (large.call operation).1 = some value) ∧
      Within (small.call operation).2 (large.call operation).2 := by
  cases operation with
  | get key => exact within.get key
  | set key value => exact ⟨nofun, within.set key value⟩
  | invalidate key => exact ⟨nofun, within.invalidate key⟩

end LRUCache.Within

/-- **More capacity never costs a hit.**  Of two caches that see the same operations,
the larger one holds every pair of the smaller one after every prefix, and returns
whatever the smaller one returns of a key it holds. -/
theorem capacity_monotone {small large : ℕ} (smaller : small ≤ large)
    (operations : List (Operation K V)) :
    (∀ before, before <+: operations → ∀ key value,
      (replay LRUCache.call before (LRUCache.new small)).2.cache.get key = some value →
        (replay LRUCache.call before (LRUCache.new large)).2.cache.get key = some value) ∧
    List.Forall₂ (fun answer answer' => ∀ value, answer = some value → answer' = some value)
      (replay LRUCache.call operations (LRUCache.new small)).1
      (replay LRUCache.call operations (LRUCache.new large)).1 := by
  have start : LRUCache.Within (LRUCache.new small : LRUCache K V) (LRUCache.new large) :=
    ⟨List.Sublist.refl _, Nat.add_le_add_left smaller 0, Nat.zero_le _, Nat.zero_le _⟩
  have run (operations : List (Operation K V)) :=
    replay_simulates LRUCache.Within
      (fun answer answer' => ∀ value, answer = some value → answer' = some value)
      (fun _ _ operation within => within.call operation) operations start
  exact ⟨fun before _ key value held => (run before).2.hit held, (run operations).1⟩

end Refinement

/-- Two caches with room for one and for two keys: the larger one keeps what it has
been asked for. -/
theorem capacity_monotone_sample :
    let operations : List (Operation String ℕ) :=
      [.set "k1" 1, .set "k2" 2, .get "k1", .set "k3" 3, .get "k1", .get "k3"]
    let small := replay LRUCache.call operations (LRUCache.new 1)
    let large := replay LRUCache.call operations (LRUCache.new 2)
    small.1 = [none, none, none, none, none, some 3] ∧
      large.1 = [none, none, some 1, none, some 1, some 3] ∧
      ∀ key value, small.2.cache.get key = some value → large.2.cache.get key = some value :=
  ⟨by decide, by decide, (capacity_monotone (by decide) _).1 _ (List.prefix_refl _)⟩

end Ticketing.Events
