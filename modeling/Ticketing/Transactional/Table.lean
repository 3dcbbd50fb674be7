import Mathlib

/-!
# Finite tables

A database table seen as a finite partial function from primary keys to rows.

## Main Definitions

* `Table` — finitely many rows, one for each key
* `Table.set` — insert a row, or replace the one stored under its key
* `Table.filterMap` — the table of the rows a partial function keeps
* `Table.filter`, `Table.any` — the rows that pass a check, and whether there is one
* `Table.entries` — the rows in the order of their keys
* `Table.total` — the sum of a measure over the rows

## Design Notes

The finite key set is carried next to the lookup function and tied to it by a
field, so a table can neither list a key it has no row for nor hide a row from
an aggregate.  `Table.total` is what a redundant counter column has to agree
with: its two update laws (`total_set_new`, `total_set`) say how one insert or
one update moves the aggregate.
-/

namespace Transactional

universe u v w

/-- A table: finitely many rows, one for each key in `keys`. -/
structure Table (K : Type u) (V : Type v) where
  /-- The keys that have a row. -/
  keys : Finset K
  /-- The row of a key. -/
  get : K → Option V
  /-- The listed keys are exactly those with a row. -/
  mem_keys : ∀ key, key ∈ keys ↔ (get key).isSome

namespace Table

variable {K : Type u} {V : Type v} {W : Type w}

/-- A table is determined by its lookup function. -/
@[ext]
theorem ext {left right : Table K V} (same : ∀ key, left.get key = right.get key) :
    left = right := by
  have getEq : left.get = right.get := funext same
  have keysEq : left.keys = right.keys := by
    ext key
    rw [left.mem_keys, right.mem_keys, getEq]
  cases left
  cases right
  simp_all

theorem mem_keys_of_get {table : Table K V} {key : K} {row : V}
    (present : table.get key = some row) : key ∈ table.keys := by
  rw [table.mem_keys, present]
  rfl

/-- The table without rows. -/
def empty : Table K V where
  keys := ∅
  get := fun _ => none
  mem_keys := by simp

@[simp] theorem get_empty (key : K) : (empty : Table K V).get key = none := rfl

/-- Store `row` under `key`: an insert when the key is new, otherwise an update. -/
def set [DecidableEq K] (table : Table K V) (key : K) (row : V) : Table K V where
  keys := insert key table.keys
  get := Function.update table.get key (some row)
  mem_keys := by
    intro other
    by_cases same : other = key
    · subst same
      simp
    · simp [same, table.mem_keys]

section Set

variable [DecidableEq K]

@[simp] theorem get_set_self (table : Table K V) (key : K) (row : V) :
    (table.set key row).get key = some row := by
  simp [set]

theorem get_set_of_ne (table : Table K V) {key other : K} (row : V) (different : other ≠ key) :
    (table.set key row).get other = table.get other := by
  simp [set, different]

theorem get_set (table : Table K V) (key other : K) (row : V) :
    (table.set key row).get other = if other = key then some row else table.get other := by
  by_cases same : other = key
  · subst same
    simp
  · rw [get_set_of_ne table row same, if_neg same]

end Set

/-- The rows that `f` keeps, as `f` returns them. -/
def filterMap (table : Table K V) (f : V → Option W) : Table K W where
  keys := table.keys.filter fun key => ((table.get key).bind f).isSome
  get := fun key => (table.get key).bind f
  mem_keys := by
    intro key
    rw [Finset.mem_filter, table.mem_keys]
    cases present : table.get key <;> simp

@[simp] theorem get_filterMap (table : Table K V) (f : V → Option W) (key : K) :
    (table.filterMap f).get key = (table.get key).bind f := rfl

/-- The rows that `keep` keeps. -/
def filter (table : Table K V) (keep : K → V → Bool) : Table K V where
  keys := table.keys.filter fun key => (table.get key).any (keep key)
  get := fun key => (table.get key).filter (keep key)
  mem_keys := by
    intro key
    rw [Finset.mem_filter, table.mem_keys]
    cases present : table.get key <;> simp

@[simp] theorem get_filter (table : Table K V) (keep : K → V → Bool) (key : K) :
    (table.filter keep).get key = (table.get key).filter (keep key) := rfl

theorem get_filter_of_keep {table : Table K V} {keep : K → V → Bool} {key : K}
    (kept : ∀ row, table.get key = some row → keep key row = true) :
    (table.filter keep).get key = table.get key := by
  cases present : table.get key with
  | none => simp [present]
  | some row => simp [Option.filter, present, kept row present]

/-- Some row passes `check`. -/
def any (table : Table K V) (check : V → Bool) : Bool :=
  decide (∃ key ∈ table.keys, (table.get key).any check = true)

/-- Apply `f` to every row. -/
def map (table : Table K V) (f : V → W) : Table K W where
  keys := table.keys
  get := fun key => (table.get key).map f
  mem_keys := by
    intro key
    rw [table.mem_keys, Option.isSome_map]

@[simp] theorem get_map (table : Table K V) (f : V → W) (key : K) :
    (table.map f).get key = (table.get key).map f := rfl

/-! ## Enumeration -/

section Entries

variable [LE K] [DecidableRel (α := K) (· ≤ ·)] [IsTrans K (· ≤ ·)] [Std.Antisymm (α := K) (· ≤ ·)]
  [Std.Total (α := K) (· ≤ ·)]

/-- The keys in increasing order. -/
def sortedKeys (table : Table K V) : List K :=
  Quot.liftOn table.keys.val (List.insertionSort (· ≤ ·)) fun first second same =>
    (((List.perm_insertionSort _ first).trans same).trans
      (List.perm_insertionSort _ second).symm).eq_of_pairwise' (r := (· ≤ ·))
      (List.pairwise_insertionSort _ first) (List.pairwise_insertionSort _ second)

/-- The rows with their keys, in the order of the keys. -/
def entries (table : Table K V) : List (K × V) :=
  table.sortedKeys.filterMap fun key => (table.get key).map (key, ·)

/-- Sorting the keys changes nothing but their order. -/
theorem coe_sortedKeys (table : Table K V) : (table.sortedKeys : Multiset K) = table.keys.val := by
  unfold sortedKeys
  induction table.keys.val using Quot.ind with
  | mk list => exact Quot.sound (List.perm_insertionSort _ list)

theorem mem_sortedKeys {table : Table K V} {key : K} :
    key ∈ table.sortedKeys ↔ key ∈ table.keys := by
  rw [← Multiset.mem_coe, coe_sortedKeys, Finset.mem_val]

theorem nodup_sortedKeys (table : Table K V) : table.sortedKeys.Nodup := by
  rw [← Multiset.coe_nodup, coe_sortedKeys]
  exact table.keys.nodup

/-- The entries are the rows. -/
theorem mem_entries {table : Table K V} {key : K} {row : V} :
    (key, row) ∈ table.entries ↔ table.get key = some row := by
  simp only [entries, List.mem_filterMap, Option.map_eq_some_iff, Prod.mk.injEq]
  constructor
  · rintro ⟨key', -, row', present, rfl, rfl⟩
    exact present
  · intro present
    exact ⟨key, mem_sortedKeys.mpr (mem_keys_of_get present), row, present, rfl, rfl⟩

/-- Each key is listed once. -/
theorem map_fst_entries (table : Table K V) : table.entries.map Prod.fst = table.sortedKeys := by
  unfold entries
  rw [List.map_filterMap]
  calc table.sortedKeys.filterMap (fun key => ((table.get key).map (key, ·)).map Prod.fst)
      = table.sortedKeys.filterMap some := by
        refine List.filterMap_congr fun key listed => ?_
        obtain ⟨row, present⟩ := Option.isSome_iff_exists.mp
          ((table.mem_keys key).mp (mem_sortedKeys.mp listed))
        simp [present]
    _ = table.sortedKeys := List.filterMap_some

theorem nodup_entries (table : Table K V) : (table.entries.map Prod.fst).Nodup :=
  table.map_fst_entries ▸ table.nodup_sortedKeys

/-- The keys under which a query over the table finds a row. -/
def select (table : Table K V) (rows : K → Option W) : List K :=
  table.sortedKeys.filter fun key => (rows key).isSome

theorem pairwise_sortedKeys (table : Table K V) : table.sortedKeys.Pairwise (· ≤ ·) := by
  unfold sortedKeys
  induction table.keys.val using Quot.ind with
  | mk list => exact List.pairwise_insertionSort _ list

/-- **Selection.**  Two queries that find rows under the same keys select the same, whatever
else their tables hold. -/
theorem select_congr {W' : Type w} {first second : Table K V} {rows : K → Option W}
    {rows' : K → Option W'} (within : ∀ key, (rows key).isSome → (first.get key).isSome)
    (within' : ∀ key, (rows' key).isSome → (second.get key).isSome)
    (same : ∀ key, (rows key).isSome = (rows' key).isSome) :
    first.select rows = second.select rows' := by
  have members (key : K) : key ∈ first.select rows ↔ key ∈ second.select rows' := by
    simp only [select, List.mem_filter, mem_sortedKeys, mem_keys]
    constructor
    · rintro ⟨-, found⟩
      have found' := (same key).symm.trans found
      exact ⟨within' key found', found'⟩
    · rintro ⟨-, found⟩
      have found' := (same key).trans found
      exact ⟨within key found', found'⟩
  have perm : (first.select rows).Perm (second.select rows') :=
    (List.perm_ext_iff_of_nodup (first.nodup_sortedKeys.filter _)
      (second.nodup_sortedKeys.filter _)).mpr members
  exact perm.eq_of_pairwise' (first.pairwise_sortedKeys.filter _)
    (second.pairwise_sortedKeys.filter _)

end Entries

/-! ## Aggregates -/

/-- The sum of `measure` over the rows. -/
def total (table : Table K V) (measure : V → ℕ) : ℕ :=
  ∑ key ∈ table.keys, (table.get key).elim 0 measure

@[simp] theorem total_empty (measure : V → ℕ) : (empty : Table K V).total measure = 0 := rfl

/-- One row never exceeds the aggregate it is part of. -/
theorem le_total {table : Table K V} {key : K} {row : V} (measure : V → ℕ)
    (present : table.get key = some row) : measure row ≤ table.total measure := by
  have term : measure row = (table.get key).elim 0 measure := by rw [present]; rfl
  rw [term]
  exact Finset.single_le_sum (f := fun k => (table.get k).elim 0 measure)
    (fun _ _ => Nat.zero_le _) (mem_keys_of_get present)

/-- An aggregate of less in each stored row is less. -/
theorem total_le_total {table : Table K V} {first second : V → ℕ}
    (less : ∀ key row, table.get key = some row → first row ≤ second row) :
    table.total first ≤ table.total second := by
  refine Finset.sum_le_sum fun key _ => ?_
  cases present : table.get key with
  | none => exact le_rfl
  | some row => exact less key row present

/-- A common factor stands in front of an aggregate. -/
theorem total_mul (table : Table K V) (measure : V → ℕ) (factor : ℕ) :
    table.total (fun row => measure row * factor) = table.total measure * factor := by
  unfold total
  rw [Finset.sum_mul]
  refine Finset.sum_congr rfl fun key _ => ?_
  cases table.get key with
  | none => exact (Nat.zero_mul factor).symm
  | some row => rfl

/-- An aggregate is positive when one of the rows counts. -/
theorem total_pos_iff {table : Table K V} {measure : V → ℕ} :
    0 < table.total measure ↔ ∃ key row, table.get key = some row ∧ 0 < measure row := by
  constructor
  · intro positive
    obtain ⟨key, -, counts⟩ := Finset.exists_ne_zero_of_sum_ne_zero positive.ne'
    cases present : table.get key with
    | none => exact absurd (by rw [present]; rfl) counts
    | some row =>
        rw [present] at counts
        exact ⟨key, row, present, Nat.pos_of_ne_zero counts⟩
  · rintro ⟨key, row, present, counts⟩
    exact counts.trans_le (le_total measure present)

/-- Two tables whose rows count the same under each key have the same aggregate. -/
theorem total_eq_of_get {first second : Table K V} {measure measure' : V → ℕ}
    (agree : ∀ key, (first.get key).elim 0 measure = (second.get key).elim 0 measure') :
    first.total measure = second.total measure' := by
  classical
  have listed (table : Table K V) (count : V → ℕ) (keys : Finset K)
      (contained : table.keys ⊆ keys) :
      table.total count = ∑ key ∈ keys, (table.get key).elim 0 count := by
    refine Finset.sum_subset contained fun key _ unlisted => ?_
    rw [table.mem_keys, Option.not_isSome_iff_eq_none] at unlisted
    rw [unlisted]
    rfl
  rw [listed first measure (first.keys ∪ second.keys) Finset.subset_union_left,
    listed second measure' (first.keys ∪ second.keys) Finset.subset_union_right]
  exact Finset.sum_congr rfl fun key _ => agree key

/-- A count over the rows is the length of any list of the keys that count. -/
theorem total_ite_eq_length [DecidableEq K] (table : Table K V) (counts : V → Prop)
    [DecidablePred counts] {listed : List K} (nodup : listed.Nodup)
    (lists : ∀ key, key ∈ listed ↔ ∃ row, table.get key = some row ∧ counts row) :
    (table.total fun row => if counts row then 1 else 0) = listed.length := by
  have contained : listed.toFinset ⊆ table.keys := by
    intro key found
    obtain ⟨row, present, -⟩ := (lists key).mp (List.mem_toFinset.mp found)
    exact mem_keys_of_get present
  rw [← List.toFinset_card_of_nodup nodup, Finset.card_eq_sum_ones, total]
  symm
  calc ∑ _key ∈ listed.toFinset, 1
      = ∑ key ∈ listed.toFinset, (table.get key).elim 0 fun row => if counts row then 1 else 0 := by
        refine Finset.sum_congr rfl fun key found => ?_
        obtain ⟨row, present, counted⟩ := (lists key).mp (List.mem_toFinset.mp found)
        simp [present, counted]
    _ = ∑ key ∈ table.keys, (table.get key).elim 0 fun row => if counts row then 1 else 0 := by
        refine Finset.sum_subset contained fun key _ unlisted => ?_
        cases present : table.get key with
        | none => rfl
        | some row =>
            have ignored : ¬ counts row := fun counted =>
              unlisted (List.mem_toFinset.mpr ((lists key).mpr ⟨row, present, counted⟩))
            simp [ignored]

/-- An aggregate is the sum over the entries. -/
theorem total_eq_sum_entries [LE K] [DecidableRel (α := K) (· ≤ ·)] [IsTrans K (· ≤ ·)]
    [Std.Antisymm (α := K) (· ≤ ·)] [Std.Total (α := K) (· ≤ ·)] (table : Table K V)
    (measure : V → ℕ) :
    table.total measure = (table.entries.map fun entry => measure entry.2).sum := by
  have listed (keys : List K) : (keys.map fun key => (table.get key).elim 0 measure).sum
      = ((keys.filterMap fun key => (table.get key).map (key, ·)).map
          fun entry => measure entry.2).sum := by
    induction keys with
    | nil => rfl
    | cons key rest ih =>
        rw [List.map_cons, List.sum_cons, ih, List.filterMap_cons]
        cases table.get key <;> simp
  calc table.total measure
      = (table.keys.val.map fun key => (table.get key).elim 0 measure).sum := rfl
    _ = (table.sortedKeys.map fun key => (table.get key).elim 0 measure).sum := by
        rw [← table.coe_sortedKeys, Multiset.map_coe, Multiset.sum_coe]
    _ = (table.entries.map fun entry => measure entry.2).sum := listed _

/-- A count over the rows is a count over the entries. -/
theorem total_ite_eq_countP [LE K] [DecidableRel (α := K) (· ≤ ·)] [IsTrans K (· ≤ ·)]
    [Std.Antisymm (α := K) (· ≤ ·)] [Std.Total (α := K) (· ≤ ·)] (table : Table K V)
    (counts : V → Prop) [DecidablePred counts] :
    (table.total fun row => if counts row then 1 else 0)
      = table.entries.countP fun entry => counts entry.2 := by
  rw [total_eq_sum_entries]
  induction table.entries with
  | nil => rfl
  | cons entry rest ih =>
      rw [List.map_cons, List.sum_cons, ih, List.countP_cons]
      by_cases counted : counts entry.2 <;> simp [counted, Nat.add_comm]

section Set

variable [DecidableEq K]

/-- An insert adds the measure of the new row. -/
theorem total_set_new {table : Table K V} {key : K} (measure : V → ℕ) (row : V)
    (absent : table.get key = none) :
    (table.set key row).total measure = table.total measure + measure row := by
  have notMem : key ∉ table.keys := by simp [table.mem_keys, absent]
  have rest : ∀ other ∈ table.keys,
      ((table.set key row).get other).elim 0 measure = (table.get other).elim 0 measure := by
    intro other mem
    have different : other ≠ key := fun same => notMem (same ▸ mem)
    rw [get_set_of_ne table row different]
  calc (table.set key row).total measure
      = ∑ other ∈ insert key table.keys, ((table.set key row).get other).elim 0 measure := rfl
    _ = measure row + ∑ other ∈ table.keys, (table.get other).elim 0 measure := by
        rw [Finset.sum_insert notMem, Finset.sum_congr rfl rest, get_set_self]
        rfl
    _ = table.total measure + measure row := Nat.add_comm _ _

/-- An update exchanges the measure of the old row for that of the new one. -/
theorem total_set {table : Table K V} {key : K} {old : V} (measure : V → ℕ) (row : V)
    (present : table.get key = some old) :
    (table.set key row).total measure + measure old = table.total measure + measure row := by
  have mem : key ∈ table.keys := mem_keys_of_get present
  have keysEq : (table.set key row).keys = table.keys := Finset.insert_eq_of_mem mem
  have rest : ∀ other ∈ table.keys.erase key,
      ((table.set key row).get other).elim 0 measure = (table.get other).elim 0 measure := by
    intro other otherMem
    rw [get_set_of_ne table row (Finset.ne_of_mem_erase otherMem)]
  have newSplit := Finset.add_sum_erase table.keys
    (fun other => ((table.set key row).get other).elim 0 measure) mem
  have oldSplit := Finset.add_sum_erase table.keys
    (fun other => (table.get other).elim 0 measure) mem
  simp only [get_set_self, present, Option.elim_some, Finset.sum_congr rfl rest]
    at newSplit oldSplit
  unfold total
  rw [keysEq]
  omega

end Set

end Table

end Transactional
