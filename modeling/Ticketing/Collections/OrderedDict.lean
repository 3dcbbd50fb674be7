import Mathlib

/-!
# Ordered dictionaries

Python's `OrderedDict`: each key once, in an order that the program controls.

## Main Definitions

* `OrderedDict` — keys with their values, in order
* `OrderedDict.set`, `OrderedDict.moveToEnd`, `OrderedDict.popFirst`, `OrderedDict.pop` — the
  operations of Python's class
* `OrderedDict.touch` — a key with its value at the end

## Main Results

* `find?_eq_some_iff_of_unique` — a search that at most one element passes
* `get_eq_some` — a lookup finds the entry of its key
* `entries_touch`, `moveToEnd_set` — moving a key to the end and storing a value under it

## Design Notes

A dictionary carries the proof that its keys differ, so a lookup has one answer
and an operation that would repeat a key cannot be written.
-/

namespace Collections

/-- Where at most one element can be found, `find?` finds it. -/
theorem find?_eq_some_iff_of_unique {α : Type} {check : α → Bool} {list : List α}
    (unique : ∀ first ∈ list, ∀ second ∈ list, check first → check second → first = second)
    {found : α} : list.find? check = some found ↔ found ∈ list ∧ check found = true := by
  constructor
  · intro first
    exact ⟨List.mem_of_find?_eq_some first, List.find?_some first⟩
  · rintro ⟨inside, passes⟩
    obtain ⟨other, first⟩ := Option.isSome_iff_exists.mp
      (List.find?_isSome.mpr ⟨found, inside, passes⟩)
    rw [first, unique other (List.mem_of_find?_eq_some first) found inside
      (List.find?_some first) passes]

/-- `dedup` keeps the last occurrence of an element. -/
theorem dedup_concat {α : Type} [DecidableEq α] (list : List α) (last : α) :
    (list ++ [last]).dedup = list.dedup.filter (· ≠ last) ++ [last] := by
  induction list with
  | nil => simp
  | cons first rest ih =>
      rw [List.cons_append]
      by_cases again : first ∈ rest
      · rw [List.dedup_cons_of_mem (List.mem_append_left _ again), List.dedup_cons_of_mem again, ih]
      · rw [List.dedup_cons_of_notMem again]
        by_cases same : first = last
        · subst same
          rw [List.dedup_cons_of_mem (by simp), ih]
          simp
        · rw [List.dedup_cons_of_notMem (by simp [again, same]), ih]
          simp [same]

/-- Keys with their values, each key once. -/
structure OrderedDict (K V : Type) where
  entries : List (K × V)
  nodup : (entries.map Prod.fst).Nodup

namespace OrderedDict

variable {K V : Type}

/-- Dictionaries with the same entries are the same. -/
@[ext]
theorem ext {first second : OrderedDict K V} (same : first.entries = second.entries) :
    first = second := by
  cases first
  cases second
  cases same
  rfl

/-- `OrderedDict()`. -/
def empty : OrderedDict K V := ⟨[], List.nodup_nil⟩

/-- The keys, in order. -/
def keys (dict : OrderedDict K V) : List K := dict.entries.map Prod.fst

/-- `len(dict)`. -/
def len (dict : OrderedDict K V) : ℕ := dict.entries.length

/-- `dict.popitem(last=False)`: the first entry goes. -/
def popFirst (dict : OrderedDict K V) : OrderedDict K V where
  entries := dict.entries.tail
  nodup := dict.nodup.sublist ((List.tail_sublist _).map _)

theorem len_popFirst (dict : OrderedDict K V) : dict.popFirst.len = dict.len - 1 :=
  List.length_tail

variable [DecidableEq K]

/-- `dict[key]`, where the key is there. -/
def get (dict : OrderedDict K V) (key : K) : Option V :=
  (dict.entries.find? (·.1 = key)).map Prod.snd

/-- `dict.pop(key, None)`. -/
def pop (dict : OrderedDict K V) (key : K) : OrderedDict K V where
  entries := dict.entries.filter (·.1 ≠ key)
  nodup := dict.nodup.sublist (List.filter_sublist.map _)

/-- The entries of the other keys, then `key` with `value`. -/
def touch (dict : OrderedDict K V) (key : K) (value : V) : OrderedDict K V where
  entries := dict.entries.filter (·.1 ≠ key) ++ [(key, value)]
  nodup := by
    rw [List.map_append, List.nodup_append]
    refine ⟨dict.nodup.sublist (List.filter_sublist.map _), List.nodup_singleton _, ?_⟩
    intro other kept last added
    obtain ⟨entry, found, rfl⟩ := List.mem_map.mp kept
    obtain rfl : last = key := by simpa using added
    simpa using (List.mem_filter.mp found).2

/-- `dict.move_to_end(key)`, where the key is there. -/
def moveToEnd (dict : OrderedDict K V) (key : K) : OrderedDict K V :=
  match dict.get key with
  | none => dict
  | some value => dict.touch key value

/-- `dict[key] = value`: a key that is there keeps its place. -/
def set (dict : OrderedDict K V) (key : K) (value : V) : OrderedDict K V :=
  if key ∈ dict.keys then
    { entries := dict.entries.map fun entry => if entry.1 = key then (key, value) else entry
      nodup := by
        have same : (dict.entries.map fun entry =>
            if entry.1 = key then (key, value) else entry).map Prod.fst
            = dict.entries.map Prod.fst := by
          rw [List.map_map]
          refine List.map_congr_left fun entry _ => ?_
          by_cases isKey : entry.1 = key <;> simp [isKey]
        exact same ▸ dict.nodup }
  else dict.touch key value

/-! ## Lookups -/

theorem get_eq_some {dict : OrderedDict K V} {key : K} {value : V} :
    dict.get key = some value ↔ (key, value) ∈ dict.entries := by
  have unique : ∀ first ∈ dict.entries, ∀ second ∈ dict.entries, decide (first.1 = key) →
      decide (second.1 = key) → first = second := by
    intro first inside second inside' isFirst isSecond
    exact List.inj_on_of_nodup_map dict.nodup inside inside'
      ((of_decide_eq_true isFirst).trans (of_decide_eq_true isSecond).symm)
  simp only [get, Option.map_eq_some_iff, find?_eq_some_iff_of_unique unique, decide_eq_true_eq]
  constructor
  · rintro ⟨entry, ⟨inside, rfl⟩, rfl⟩
    exact inside
  · intro inside
    exact ⟨(key, value), ⟨inside, rfl⟩, rfl⟩

theorem mem_keys {dict : OrderedDict K V} {key : K} :
    key ∈ dict.keys ↔ ∃ value, dict.get key = some value := by
  simp only [keys, List.mem_map, get_eq_some]
  constructor
  · rintro ⟨⟨key', value⟩, inside, rfl⟩
    exact ⟨value, inside⟩
  · rintro ⟨value, inside⟩
    exact ⟨(key, value), inside, rfl⟩

theorem get_eq_none {dict : OrderedDict K V} {key : K} :
    dict.get key = none ↔ key ∉ dict.keys := by
  rw [mem_keys, Option.eq_none_iff_forall_ne_some, not_exists]

/-- Dropping a key that is not there changes nothing. -/
theorem pop_of_not_mem {dict : OrderedDict K V} {key : K} (absent : key ∉ dict.keys) :
    dict.pop key = dict := by
  ext1
  refine List.filter_eq_self.mpr fun entry inside => ?_
  have different : entry.1 ≠ key := by
    rintro rfl
    exact absent (List.mem_map_of_mem inside)
  simpa using different

theorem mem_keys_pop {dict : OrderedDict K V} {key other : K} :
    other ∈ (dict.pop key).keys ↔ other ∈ dict.keys ∧ other ≠ key := by
  simp only [keys, pop, List.mem_map, List.mem_filter, decide_eq_true_eq]
  constructor
  · rintro ⟨entry, ⟨inside, different⟩, rfl⟩
    exact ⟨⟨entry, inside, rfl⟩, different⟩
  · rintro ⟨⟨entry, inside, rfl⟩, different⟩
    exact ⟨entry, ⟨inside, different⟩, rfl⟩

/-- Dropping a key that is there drops one entry. -/
theorem len_pop_of_mem {dict : OrderedDict K V} {key : K} (there : key ∈ dict.keys) :
    (dict.pop key).len + 1 = dict.len := by
  have erased : (dict.pop key).keys = dict.keys.erase key := by
    have nodup : dict.keys.Nodup := dict.nodup
    rw [nodup.erase_eq_filter]
    show (dict.entries.filter _).map Prod.fst = (dict.entries.map Prod.fst).filter _
    rw [List.filter_map]
    congr 1
    refine List.filter_congr fun entry _ => ?_
    by_cases same : entry.1 = key <;> simp [same]
  have shorter := congrArg List.length erased
  have positive : 0 < dict.keys.length := List.length_pos_of_mem there
  rw [List.length_erase_of_mem there] at shorter
  simp only [keys, List.length_map] at shorter positive
  show (dict.pop key).entries.length + 1 = dict.entries.length
  omega

/-! ## Touching a key -/

theorem entries_touch (dict : OrderedDict K V) (key : K) (value : V) :
    (dict.touch key value).entries = (dict.pop key).entries ++ [(key, value)] := rfl

theorem keys_touch (dict : OrderedDict K V) (key : K) (value : V) :
    (dict.touch key value).keys = (dict.pop key).keys ++ [key] := by
  show (_ ++ [(key, value)]).map Prod.fst = _
  rw [List.map_append]
  rfl

/-- Touching a key keeps the other keys. -/
theorem mem_keys_touch {dict : OrderedDict K V} {key other : K} {value : V}
    (there : other ∈ dict.keys) : other ∈ (dict.touch key value).keys := by
  rw [keys_touch, List.mem_append, List.mem_singleton, mem_keys_pop]
  by_cases same : other = key
  · exact .inr same
  · exact .inl ⟨there, same⟩

theorem moveToEnd_of_get {dict : OrderedDict K V} {key : K} {value : V}
    (found : dict.get key = some value) : dict.moveToEnd key = dict.touch key value := by
  rw [moveToEnd, found]

theorem get_touch_self (dict : OrderedDict K V) (key : K) (value : V) :
    (dict.touch key value).get key = some value := by
  rw [get_eq_some, entries_touch]
  exact List.mem_append_right _ (List.mem_singleton_self _)

/-- A new key makes the dictionary longer; a key that is there does not. -/
theorem len_touch (dict : OrderedDict K V) (key : K) (value : V) :
    (dict.touch key value).len = if key ∈ dict.keys then dict.len else dict.len + 1 := by
  have length : (dict.touch key value).len = (dict.pop key).len + 1 := by
    show (_ ++ [(key, value)]).length = _
    rw [List.length_append, List.length_singleton]
    rfl
  rw [length]
  split
  · rename_i there
    exact len_pop_of_mem there
  · rename_i absent
    rw [pop_of_not_mem absent]

/-- Storing a value under the last key. -/
theorem set_touch (dict : OrderedDict K V) (key : K) (old value : V) :
    (dict.touch key old).set key value = dict.touch key value := by
  have there : key ∈ (dict.touch key old).keys := mem_keys.mpr ⟨old, get_touch_self dict key old⟩
  rw [set, if_pos there]
  ext1
  show ((dict.pop key).entries ++ [(key, old)]).map _ = (dict.pop key).entries ++ [(key, value)]
  rw [List.map_append]
  congr 1
  · refine (List.map_congr_left fun entry inside => ?_).trans (List.map_id _)
    have different : entry.1 ≠ key := by simpa using (List.mem_filter.mp inside).2
    rw [if_neg different]
    rfl
  · simp

/-- A key is moved to the end where it is there, and its value stored. -/
theorem moveToEnd_set (dict : OrderedDict K V) (key : K) (value : V) :
    (if key ∈ dict.keys then dict.moveToEnd key else dict).set key value
      = dict.touch key value := by
  split
  · rename_i there
    obtain ⟨old, found⟩ := mem_keys.mp there
    rw [moveToEnd_of_get found, set_touch]
  · rename_i absent
    rw [set, if_neg absent]

end OrderedDict

end Collections
