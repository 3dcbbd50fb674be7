import Mathlib

/-!
# The Bloom filter

`BloomFilter` of `checkin/bloom_guard.py`.

## Main Definitions

* `BloomFilter` — a bit for each of `size` positions
* `BloomFilter.hashes` — the positions of an item
* `BloomFilter.add`, `BloomFilter.contains` — inserting and asking

## Main Results

* `contains_addAll` — an item is found exactly when each of its positions is a position of an
  added item
* `bits_addAll` — the order and the repetitions of the added items leave no trace
* `membership_by_positions` — both, and what follows from them for later additions

## Design Notes

`digest` stands for the number that the code reads in the first eight digits of a
SHA-256; nothing depends on which function it is.
-/

namespace Ticketing.Checkin

/-- `BloomFilter`. -/
structure BloomFilter where
  size : ℕ
  hashCount : ℕ
  bits : List Bool
  bits_length : bits.length = size

namespace BloomFilter

/-- `BloomFilter(size, hash_count)`. -/
def new (size : ℕ := 100000) (hashCount : ℕ := 3) : BloomFilter where
  size := size
  hashCount := hashCount
  bits := List.replicate size false
  bits_length := List.length_replicate

/-- The array after `bits[pos] = 1` for each position. -/
def mark (bits : List Bool) (positions : List ℕ) : List Bool :=
  positions.foldl (fun bits pos => bits.set pos true) bits

theorem length_mark (bits : List Bool) (positions : List ℕ) :
    (mark bits positions).length = bits.length := by
  unfold mark
  induction positions generalizing bits with
  | nil => rfl
  | cons pos rest ih => exact (ih _).trans List.length_set

section Digest

variable (digest : String → ℕ) (filter : BloomFilter)

/-- `_hashes`. -/
def hashes (item : String) : List ℕ :=
  (List.range filter.hashCount).map fun i => digest (toString i ++ ":" ++ item) % filter.size

/-- `add`. -/
def add (item : String) : BloomFilter where
  size := filter.size
  hashCount := filter.hashCount
  bits := mark filter.bits (filter.hashes digest item)
  bits_length := (length_mark _ _).trans filter.bits_length

/-- `__contains__`. -/
def contains (item : String) : Bool :=
  (filter.hashes digest item).all fun pos => filter.bits[pos]?.getD false

/-- The filter after `add` of each item. -/
def addAll (items : List String) : BloomFilter :=
  items.foldl (fun filter item => filter.add digest item) filter

/-! ## Which bits are set -/

/-- Each position of `item` is a position of one of `items`. -/
def Covers (items : List String) (item : String) : Prop :=
  ∀ pos ∈ filter.hashes digest item, ∃ added ∈ items, pos ∈ filter.hashes digest added

end Digest

variable {digest : String → ℕ} {filter : BloomFilter}

/-- Marking sets the bits at the positions, and no others. -/
theorem getElem?_mark {bits : List Bool} {positions : List ℕ} {pos : ℕ}
    (inside : pos < bits.length) :
    (mark bits positions)[pos]?.getD false
      = (bits[pos]?.getD false || decide (pos ∈ positions)) := by
  induction positions generalizing bits with
  | nil => simp [mark]
  | cons first rest ih =>
      have step : mark bits (first :: rest) = mark (bits.set first true) rest := rfl
      rw [step, ih (by simpa using inside), List.getElem?_set]
      by_cases same : first = pos
      · subst same
        simp [inside]
      · simp [same, Ne.symm same]

/-- A filter with room has room for every position of an item. -/
theorem lt_length_of_hashes (room : 0 < filter.size) {item : String} {pos : ℕ}
    (hashed : pos ∈ filter.hashes digest item) : pos < filter.bits.length := by
  obtain ⟨i, -, rfl⟩ := List.mem_map.mp hashed
  rw [filter.bits_length]
  exact Nat.mod_lt _ room

theorem size_addAll (items : List String) : (filter.addAll digest items).size = filter.size := by
  unfold addAll
  induction items generalizing filter with
  | nil => rfl
  | cons item rest ih => exact ih

theorem addAll_append (items : List String) (item : String) :
    filter.addAll digest (items ++ [item]) = (filter.addAll digest items).add digest item :=
  List.foldl_concat _ _ _ _

theorem hashes_addAll (items : List String) (item : String) :
    (filter.addAll digest items).hashes digest item = filter.hashes digest item := by
  unfold addAll
  induction items generalizing filter with
  | nil => rfl
  | cons first rest ih => exact ih

/-- The bits that are set are those of the added items. -/
theorem bit_addAll (items : List String) {pos : ℕ} (inside : pos < filter.bits.length) :
    (filter.addAll digest items).bits[pos]?.getD false = true ↔
      filter.bits[pos]?.getD false = true ∨ ∃ item ∈ items, pos ∈ filter.hashes digest item := by
  induction items generalizing filter with
  | nil => simp [addAll]
  | cons first rest ih =>
      have step : filter.addAll digest (first :: rest)
          = (filter.add digest first).addAll digest rest := rfl
      have same (item : String) : (filter.add digest first).hashes digest item
          = filter.hashes digest item := rfl
      have room : pos < (filter.add digest first).bits.length := by
        rw [add, length_mark]
        exact inside
      rw [step, ih room]
      simp only [same, List.exists_mem_cons_iff]
      show (mark filter.bits _)[pos]?.getD false = true ∨ _ ↔ _
      rw [getElem?_mark inside]
      simp [or_assoc]

/-- **Membership.**  From an empty filter, an item is found exactly when each of its
positions is a position of an added item. -/
theorem contains_addAll {size hashCount : ℕ} (room : 0 < size) (items : List String)
    (item : String) :
    ((new size hashCount).addAll digest items).contains digest item = true ↔
      (new size hashCount).Covers digest items item := by
  unfold contains Covers
  rw [hashes_addAll, List.all_eq_true]
  refine forall₂_congr fun pos hashed => ?_
  have inside : pos < (new size hashCount).bits.length := lt_length_of_hashes room hashed
  have clear : (new size hashCount).bits[pos]?.getD false = false := by
    simp only [new, List.getElem?_replicate]
    split <;> rfl
  rw [bit_addAll items inside, clear]
  simp

/-! ## Whole histories -/

/-- Filters of one size with the same bits set have the same array. -/
theorem bits_congr {first second : BloomFilter} (sameSize : first.size = second.size)
    (same : ∀ pos < first.bits.length,
      first.bits[pos]?.getD false = true ↔ second.bits[pos]?.getD false = true) :
    first.bits = second.bits := by
  have lengths : first.bits.length = second.bits.length := by
    rw [first.bits_length, second.bits_length, sameSize]
  refine List.ext_getElem lengths fun pos inFirst inSecond => ?_
  have agree := same pos inFirst
  rw [List.getElem?_eq_getElem inFirst, List.getElem?_eq_getElem inSecond] at agree
  exact Bool.eq_iff_iff.mpr agree

/-- **The array depends on the set of items.**  Neither their order nor how often each is
added shows in the bits. -/
theorem bits_addAll {items items' : List String} (same : ∀ item, item ∈ items' ↔ item ∈ items) :
    (filter.addAll digest items').bits = (filter.addAll digest items).bits := by
  have sizes : (filter.addAll digest items').size = (filter.addAll digest items).size := by
    rw [size_addAll, size_addAll]
  refine bits_congr sizes fun pos inside => ?_
  have room : pos < filter.bits.length := by
    rw [BloomFilter.bits_length, size_addAll] at inside
    rw [filter.bits_length]
    exact inside
  rw [bit_addAll items' room, bit_addAll items room]
  exact or_congr_right (exists_congr fun item => and_congr_left fun _ => same item)

theorem addAll_addAll (items later : List String) :
    (filter.addAll digest items).addAll digest later = filter.addAll digest (items ++ later) :=
  List.foldl_append.symm

/-- The positions of an added item are covered by it. -/
theorem covers_of_mem {items : List String} {item : String} (added : item ∈ items) :
    filter.Covers digest items item :=
  fun _ hashed => ⟨item, added, hashed⟩

/-- More items cover more. -/
theorem Covers.mono {items items' : List String} {item : String}
    (covered : filter.Covers digest items item) (more : items ⊆ items') :
    filter.Covers digest items' item := by
  intro pos hashed
  obtain ⟨added, inside, shared⟩ := covered pos hashed
  exact ⟨added, more inside, shared⟩

/-- **The Bloom filter.**  After any sequence of `add` calls on a new filter, an item is found
exactly when each of its positions is one of an added item: so every added item is found, what
is found stays found after further additions, and the bits are the same for every sequence of
the same items. -/
theorem membership_by_positions {size : ℕ} (room : 0 < size) (hashCount : ℕ)
    (digest : String → ℕ) (items : List String) :
    let filter := (new size hashCount).addAll digest items
    (∀ item, filter.contains digest item = true ↔ ∀ pos ∈ filter.hashes digest item,
      ∃ added ∈ items, pos ∈ filter.hashes digest added) ∧
    (∀ item ∈ items, filter.contains digest item = true) ∧
    (∀ item later, filter.contains digest item = true →
      (filter.addAll digest later).contains digest item = true) ∧
    ∀ items', (∀ item, item ∈ items' ↔ item ∈ items) →
      ((new size hashCount).addAll digest items').bits = filter.bits := by
  refine ⟨fun item => ?_, fun item added => ?_, fun item later found => ?_, fun items' same => ?_⟩
  · rw [contains_addAll room]
    simp only [hashes_addAll]
    rfl
  · exact (contains_addAll room items item).mpr (covers_of_mem added)
  · rw [addAll_addAll, contains_addAll room]
    exact ((contains_addAll room items item).mp found).mono (List.subset_append_left items later)
  · exact bits_addAll same

theorem membership_by_positions_sample :
    ((new 7 2).addAll String.length ["QR-1", "QR-22"]).contains String.length "QR-1" = true :=
  (membership_by_positions (by decide) 2 String.length ["QR-1", "QR-22"]).2.1 "QR-1" (by decide)

end BloomFilter

end Ticketing.Checkin
