import Mathlib

/-!
# Caches with expiry

A key-value cache whose entries disappear at an instant of their own.

## Main Definitions

* `Cache` — each key with its value and the instant at which it disappears
* `Cache.live` — what a reader finds under a key at an instant
* `Cache.store`, `Cache.remove` — writing and deleting one key
* `Cache.Records` — what a cache holds was once read from the source it caches

## Design Notes

An entry that has expired stays in the map and is never found again: instants
only grow, so nothing can tell it from a deleted one.
-/

namespace Transactional

/-- A cache: each key with its value and the instant at which it disappears. -/
abbrev Cache (K V T : Type) := K → Option (V × T)

namespace Cache

variable {K V T : Type}

/-- The cache without entries. -/
def empty : Cache K V T := fun _ => none

section Live

variable [LinearOrder T]

/-- The value under `key` that has not expired at `now`. -/
def live (cache : Cache K V T) (now : T) (key : K) : Option V :=
  ((cache key).filter fun entry => now < entry.2).map Prod.fst

theorem live_eq_some {cache : Cache K V T} {now : T} {key : K} {value : V} :
    cache.live now key = some value ↔
      ∃ expiry, cache key = some (value, expiry) ∧ now < expiry := by
  unfold live
  constructor
  · intro found
    obtain ⟨⟨value', expiry⟩, kept, rfl⟩ := Option.map_eq_some_iff.mp found
    obtain ⟨present, alive⟩ := Option.filter_eq_some_iff.mp kept
    exact ⟨expiry, present, of_decide_eq_true alive⟩
  · rintro ⟨expiry, present, alive⟩
    simp [present, alive]

@[simp] theorem live_empty (now : T) (key : K) : (empty : Cache K V T).live now key = none := rfl

/-- What is live later is live now. -/
theorem live_of_le {cache : Cache K V T} {now later : T} {key : K} {value : V}
    (order : now ≤ later) (found : cache.live later key = some value) :
    cache.live now key = some value := by
  obtain ⟨expiry, present, alive⟩ := live_eq_some.mp found
  exact live_eq_some.mpr ⟨expiry, present, order.trans_lt alive⟩

/-- Readers only look at their own key. -/
theorem live_congr {first second : Cache K V T} {key : K} (same : first key = second key)
    (now : T) : first.live now key = second.live now key := by
  unfold live
  rw [same]

end Live

section Write

variable [DecidableEq K]

/-- Write `value` under `key` until `expiry`. -/
def store (cache : Cache K V T) (key : K) (value : V) (expiry : T) : Cache K V T :=
  Function.update cache key (some (value, expiry))

/-- Delete `key`. -/
def remove (cache : Cache K V T) (key : K) : Cache K V T := Function.update cache key none

@[simp] theorem store_self (cache : Cache K V T) (key : K) (value : V) (expiry : T) :
    cache.store key value expiry key = some (value, expiry) := by
  simp [store]

theorem store_of_ne (cache : Cache K V T) {key other : K} (value : V) (expiry : T)
    (different : other ≠ key) : cache.store key value expiry other = cache other := by
  simp [store, different]

@[simp] theorem remove_self (cache : Cache K V T) (key : K) : cache.remove key key = none := by
  simp [remove]

theorem remove_of_ne (cache : Cache K V T) {key other : K} (different : other ≠ key) :
    cache.remove key other = cache other := by
  simp [remove, different]

section Agree

variable [LinearOrder T]

/-- What is found after a deletion. -/
theorem live_remove (cache : Cache K V T) (now : T) (key other : K) :
    (cache.remove key).live now other = if other = key then none else cache.live now other := by
  split_ifs with same
  · rw [same, live, remove_self]
    rfl
  · exact live_congr (remove_of_ne cache same) now

/-- What is found after a write. -/
theorem live_store (cache : Cache K V T) (now : T) (key other : K) (value : V) (expiry : T) :
    (cache.store key value expiry).live now other
      = if other = key then (if now < expiry then some value else none)
        else cache.live now other := by
  split_ifs with same alive
  · rw [same, live_eq_some]
    exact ⟨expiry, store_self .., alive⟩
  · rw [same, live, store_self, Option.filter_some_neg (by simpa using alive)]
    rfl
  · exact live_congr (store_of_ne cache value expiry same) now

/-- Deleting one key or another makes no difference to a reader who finds neither. -/
theorem live_remove_agree (cache : Cache K V T) (key key' : K) (now : T) :
    (∀ other, (cache.remove key).live now other = (cache.remove key').live now other) ↔
      key = key' ∨ cache.live now key = none ∧ cache.live now key' = none := by
  simp only [live_remove]
  constructor
  · intro agree
    by_cases same : key = key'
    · exact .inl same
    · have first := agree key
      have second := agree key'
      rw [if_pos rfl, if_neg same] at first
      rw [if_neg (Ne.symm same), if_pos rfl] at second
      exact .inr ⟨first.symm, second⟩
  · rintro (rfl | ⟨absent, absent'⟩) other
    · rfl
    · split_ifs with isFirst isSecond isSecond
      · rfl
      · rw [isFirst, absent]
      · rw [isSecond, absent']
      · rfl

/-- Writing one value or another under a key makes no difference once it has expired. -/
theorem live_store_agree (cache : Cache K V T) (key : K) (value value' : V) (expiry now : T) :
    (∀ other, (cache.store key value expiry).live now other
        = (cache.store key value' expiry).live now other) ↔ value = value' ∨ expiry ≤ now := by
  simp only [live_store]
  constructor
  · intro agree
    have found := agree key
    rw [if_pos rfl, if_pos rfl] at found
    by_cases alive : now < expiry
    · rw [if_pos alive, if_pos alive] at found
      exact .inl (Option.some.inj found)
    · exact .inr (not_lt.mp alive)
  · rintro (rfl | expired) other
    · rfl
    · rw [if_neg expired.not_gt, if_neg expired.not_gt]

end Agree

end Write

/-! ### Caches of a changing source -/

section Records

/-- Every entry carries the value that `recorded` remembers for its key. -/
def Records (cache : Cache K V T) (recorded : K → Option V) : Prop :=
  ∀ key value expiry, cache key = some (value, expiry) → recorded key = some value

theorem records_empty (recorded : K → Option V) : (empty : Cache K V T).Records recorded :=
  nofun

namespace Records

variable {cache : Cache K V T} {recorded : K → Option V}

/-- A reader finds what was recorded. -/
theorem live [LinearOrder T] (records : cache.Records recorded) {now : T} {key : K} {value : V}
    (found : cache.live now key = some value) : recorded key = some value := by
  obtain ⟨expiry, present, -⟩ := live_eq_some.mp found
  exact records key value expiry present

/-- What is remembered of absent keys does not matter. -/
theorem congr {recorded' : K → Option V} (records : cache.Records recorded)
    (agree : ∀ key value expiry, cache key = some (value, expiry) →
      recorded' key = recorded key) : cache.Records recorded' :=
  fun key value expiry present =>
    (agree key value expiry present).trans (records key value expiry present)

variable [DecidableEq K]

/-- Recording a write keeps up with it. -/
theorem store (records : cache.Records recorded) (key : K) (value : V) (expiry : T) :
    (cache.store key value expiry).Records (Function.update recorded key (some value)) := by
  intro other value' expiry' present
  by_cases same : other = key
  · subst same
    rw [store_self] at present
    cases present
    rw [Function.update_self]
  · rw [store_of_ne _ _ _ same] at present
    rw [Function.update_of_ne same]
    exact records other value' expiry' present

/-- A deletion leaves nothing to remember. -/
theorem remove (records : cache.Records recorded) (key : K) :
    (cache.remove key).Records recorded := by
  intro other value expiry present
  by_cases same : other = key
  · subst same
    rw [remove_self] at present
    cases present
  · rw [remove_of_ne _ same] at present
    exact records other value expiry present

end Records

end Records

end Cache

end Transactional
