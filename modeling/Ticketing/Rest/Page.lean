import Mathlib

/-!
# Pages

Pagination by page number, over any list.

## Main Definitions

* `Page` — a page of a list, with its neighbours
* `paginate` — the page that a query asks for

## Main Results

* `paginate_map` — changing the rows changes nothing but the results
* `paginate_first` — without a page number there is always a page

## Design Notes

An empty list has one page.  What a text is read as a number by is a parameter.
-/

namespace Rest

/-- A page of a list. -/
structure Page (α : Type) where
  count : ℕ
  next : Option ℕ
  previous : Option ℕ
  results : List α
  deriving DecidableEq

/-- The page with every result changed. -/
def Page.map {α β : Type} (f : α → β) (page : Page α) : Page β :=
  { page with results := page.results.map f }

/-- `paginator.num_pages`. -/
def numPages (pageSize count : ℕ) : ℕ := (max 1 count + pageSize - 1) / pageSize

/-- The number of the page that a query asks for: the first one where it asks for none. -/
def pageNumber (parseInt : String → Option ℤ) (last : ℕ) : Option String → Option ℤ
  | none => some 1
  | some text => if text = "" then some 1 else if text = "last" then some last else parseInt text

/-- The page `number` of a list, if there is one. -/
def pageAt {α : Type} (pageSize : ℕ) (rows : List α) (number : ℤ) : Option (Page α) :=
  let last := numPages pageSize rows.length
  if 1 ≤ number ∧ number ≤ last then
    some {
      count := rows.length
      next := if number < last then some (number.toNat + 1) else none
      previous := if 1 < number then some (number.toNat - 1) else none
      results := (rows.drop ((number.toNat - 1) * pageSize)).take pageSize }
  else none

/-- `paginate_queryset`; `none` is the answer 404. -/
def paginate {α : Type} (pageSize : ℕ) (parseInt : String → Option ℤ) (page : Option String)
    (rows : List α) : Option (Page α) :=
  (pageNumber parseInt (numPages pageSize rows.length) page).bind (pageAt pageSize rows)

variable {α β : Type} {pageSize : ℕ} {parseInt : String → Option ℤ}

theorem pageAt_map (f : α → β) (rows : List α) (number : ℤ) :
    pageAt pageSize (rows.map f) number = (pageAt pageSize rows number).map (Page.map f) := by
  unfold pageAt
  simp only [List.length_map]
  split
  · simp [Page.map, List.map_take, List.map_drop]
  · rfl

/-- **Serialization.**  The pages of the changed rows are the changed pages. -/
theorem paginate_map (f : α → β) (page : Option String) (rows : List α) :
    paginate pageSize parseInt page (rows.map f)
      = (paginate pageSize parseInt page rows).map (Page.map f) := by
  unfold paginate
  rw [List.length_map]
  cases pageNumber parseInt (numPages pageSize rows.length) page with
  | none => rfl
  | some number => exact pageAt_map f rows number

/-- There is always a first page. -/
theorem paginate_first (parseInt : String → Option ℤ) (room : 0 < pageSize) (rows : List α) :
    ∃ page, paginate pageSize parseInt none rows = some page := by
  have first : 1 ≤ numPages pageSize rows.length := by
    unfold numPages
    rw [Nat.le_div_iff_mul_le room]
    omega
  refine ⟨_, if_pos ⟨le_rfl, ?_⟩⟩
  exact_mod_cast first

end Rest
