import Ticketing.Uuid
import Ticketing.Collections.OrderedDict

/-!
# Companies

The company table of `companies/models.py` and `Company.save`.

## Main Definitions

* `Company`, `CompanyTable` — the rows, one for each id and one for each slug
* `Company.save` — inserting and updating a row

## Design Notes

The table carries the two uniqueness constraints of the database as fields, so
no operation can build a table that violates them.  `slugify` is Django's; it is
a parameter wherever a company is saved.
-/

namespace Ticketing

open Collections

inductive CompanyPlan
  | free
  | starter
  | pro
  | enterprise
  deriving DecidableEq

/-- The text a plan is stored as. -/
def CompanyPlan.value : CompanyPlan → String
  | .free => "free"
  | .starter => "starter"
  | .pro => "pro"
  | .enterprise => "enterprise"

/-- A row of `companies_company`, keyed by its id. -/
structure Company where
  name : String
  slug : String := ""
  owner : Uuid
  plan : CompanyPlan := .free
  timezone : String := "Africa/Nairobi"
  logoUrl : String := ""
  primaryColor : String := "#000000"
  isActive : Bool := true
  deriving DecidableEq

/-- Every text fits its column. -/
def Company.fits (company : Company) : Bool :=
  company.name.length ≤ 200 && company.slug.length ≤ 100 && company.plan.value.length ≤ 20 &&
    company.timezone.length ≤ 50 && company.logoUrl.length ≤ 200 &&
    company.primaryColor.length ≤ 7

/-- The table of companies. -/
structure CompanyTable where
  rows : List (Uuid × Company)
  ids_nodup : (rows.map Prod.fst).Nodup
  slugs_nodup : (rows.map fun row => row.2.slug).Nodup

/-- What the database refuses. -/
inductive CompanyError
  /-- `IntegrityError`: a second row under an id or a slug. -/
  | integrity
  /-- `DataError`: a text too long for its column. -/
  | tooLong
  deriving DecidableEq

namespace CompanyTable

def empty : CompanyTable := ⟨[], List.nodup_nil, List.nodup_nil⟩

/-- The row of an id. -/
def get (table : CompanyTable) (id : Uuid) : Option Company :=
  (table.rows.find? (·.1 = id)).map Prod.snd

/-- `Company.objects.get(slug=slug, is_active=True)`, its id. -/
def activeWith (table : CompanyTable) (slug : String) : Option Uuid :=
  (table.rows.find? fun row => row.2.slug = slug ∧ row.2.isActive).map Prod.fst

/-- `Company.objects.filter(is_active=True).values('id', 'slug')`. -/
def actives (table : CompanyTable) : List (Uuid × String) :=
  (table.rows.filter (·.2.isActive)).map fun row => (row.1, row.2.slug)

/-- INSERT. -/
def insert (table : CompanyTable) (id : Uuid) (company : Company) :
    Except CompanyError CompanyTable :=
  if fresh : id ∉ table.rows.map Prod.fst ∧
      company.slug ∉ table.rows.map fun row => row.2.slug then
    .ok {
      rows := table.rows ++ [(id, company)]
      ids_nodup := by
        rw [List.map_append, List.nodup_append_comm]
        exact List.nodup_cons.mpr ⟨fresh.1, table.ids_nodup⟩
      slugs_nodup := by
        rw [List.map_append, List.nodup_append_comm]
        exact List.nodup_cons.mpr ⟨fresh.2, table.slugs_nodup⟩ }
  else .error .integrity

/-- UPDATE of one row. -/
def update (table : CompanyTable) (id : Uuid) (company : Company) :
    Except CompanyError CompanyTable :=
  if unique : ∀ row ∈ table.rows, row.1 ≠ id → row.2.slug ≠ company.slug then
    .ok {
      rows := table.rows.map fun row => if row.1 = id then (id, company) else row
      ids_nodup := by
        have same : (table.rows.map fun row => if row.1 = id then (id, company) else row).map
            Prod.fst = table.rows.map Prod.fst := by
          rw [List.map_map]
          refine List.map_congr_left fun row _ => ?_
          by_cases isId : row.1 = id <;> simp [isId]
        exact same ▸ table.ids_nodup
      slugs_nodup := by
        rw [List.map_map]
        refine table.ids_nodup.of_map.map_on fun first found second found' same => ?_
        simp only [Function.comp_apply] at same
        by_cases isFirst : first.1 = id
        · by_cases isSecond : second.1 = id
          · exact List.inj_on_of_nodup_map table.ids_nodup found found'
              (isFirst.trans isSecond.symm)
          · rw [if_pos isFirst, if_neg isSecond] at same
            exact absurd same.symm (unique second found' isSecond)
        · by_cases isSecond : second.1 = id
          · rw [if_neg isFirst, if_pos isSecond] at same
            exact absurd same (unique first found isFirst)
          · rw [if_neg isFirst, if_neg isSecond] at same
            exact List.inj_on_of_nodup_map table.slugs_nodup found found' same }
  else .error .integrity

/-- DELETE of one row. -/
def erase (table : CompanyTable) (id : Uuid) : CompanyTable where
  rows := table.rows.filter (·.1 ≠ id)
  ids_nodup := table.ids_nodup.sublist (List.filter_sublist.map _)
  slugs_nodup := table.slugs_nodup.sublist (List.filter_sublist.map _)

end CompanyTable

/-- A company in memory: its id, its fields, and whether it has not been stored yet. -/
structure CompanyInstance where
  id : Uuid
  fields : Company
  adding : Bool

namespace Company

variable (slugify : String → String)

/-- The slug is made from the name where it is missing. -/
def withSlug (company : Company) : Company :=
  if company.slug = "" then { company with slug := slugify company.name } else company

/-- `Company.save`.  A company that has not been stored yet is inserted; an UPDATE
that finds no row is followed by an INSERT. -/
def save (company : CompanyInstance) (table : CompanyTable) :
    Except CompanyError CompanyTable :=
  let fields := company.fields.withSlug slugify
  if fields.fits then
    if company.adding || company.id ∉ table.rows.map Prod.fst then table.insert company.id fields
    else table.update company.id fields
  else .error .tooLong

end Company

/-! ## Lookups -/

namespace CompanyTable

/-- A table is its rows. -/
theorem eq_of_rows {first second : CompanyTable} (same : first.rows = second.rows) :
    first = second := by
  cases first
  cases second
  cases same
  rfl

/-- One row for each id. -/
theorem get_eq_some {table : CompanyTable} {id : Uuid} {company : Company} :
    table.get id = some company ↔ (id, company) ∈ table.rows := by
  have unique : ∀ first ∈ table.rows, ∀ second ∈ table.rows, decide (first.1 = id) →
      decide (second.1 = id) → first = second := by
    intro first inside second inside' isFirst isSecond
    exact List.inj_on_of_nodup_map table.ids_nodup inside inside'
      ((of_decide_eq_true isFirst).trans (of_decide_eq_true isSecond).symm)
  simp only [get, Option.map_eq_some_iff, find?_eq_some_iff_of_unique unique, decide_eq_true_eq]
  constructor
  · rintro ⟨row, ⟨inside, rfl⟩, rfl⟩
    exact inside
  · intro inside
    exact ⟨(id, company), ⟨inside, rfl⟩, rfl⟩

/-- An INSERT adds a row under a new id. -/
theorem get_of_insert {table after : CompanyTable} {id : Uuid} {company : Company}
    (inserted : table.insert id company = .ok after) :
    table.get id = none ∧
      ∀ other, after.get other = if other = id then some company else table.get other := by
  unfold insert at inserted
  split at inserted
  · rename_i fresh
    cases inserted
    have absent : table.get id = none := by
      rw [Option.eq_none_iff_forall_ne_some]
      intro stored found
      exact fresh.1 (List.mem_map_of_mem (get_eq_some.mp found))
    refine ⟨absent, fun other => Option.ext fun row => ?_⟩
    rw [get_eq_some, List.mem_append, List.mem_singleton, ← get_eq_some]
    split
    · rename_i same
      subst same
      simp [absent, eq_comm]
    · rename_i different
      simp [different]
  · cases inserted

/-- One active company for each slug. -/
theorem activeWith_eq_some {table : CompanyTable} {slug : String} {id : Uuid} :
    table.activeWith slug = some id ↔ (id, slug) ∈ table.actives := by
  have unique : ∀ first ∈ table.rows, ∀ second ∈ table.rows,
      decide (first.2.slug = slug ∧ first.2.isActive) →
      decide (second.2.slug = slug ∧ second.2.isActive) → first = second := by
    intro first inside second inside' isFirst isSecond
    exact List.inj_on_of_nodup_map table.slugs_nodup inside inside'
      ((of_decide_eq_true isFirst).1.trans (of_decide_eq_true isSecond).1.symm)
  simp only [activeWith, actives, Option.map_eq_some_iff, find?_eq_some_iff_of_unique unique,
    decide_eq_true_eq, List.mem_map, List.mem_filter]
  constructor
  · rintro ⟨row, ⟨inside, rfl, active⟩, rfl⟩
    exact ⟨row, ⟨inside, active⟩, rfl⟩
  · rintro ⟨row, ⟨inside, active⟩, same⟩
    cases same
    exact ⟨row, ⟨inside, rfl, active⟩, rfl⟩

end CompanyTable

end Ticketing
