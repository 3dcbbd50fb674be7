import Ticketing.Transactional.Cache
import Ticketing.Checkout.Store
import Ticketing.Companies.Models

/-!
# The slug index

`companies/slug_index.py`: a cache from slugs to company ids in front of the
company table.

## Main Definitions

* `Directory` — the table and the cache
* `getCompanyIdBySlug`, `invalidateSlug`, `warmSlugCache` — the functions of the module
* `Operation` — these and `Company.save`
* `Resolves` — every lookup of a run returns the id of the active company
* `Unmoved` — every entry found in a run is of the company it was written for

## Main Results

* `resolves_iff` — a run resolves every slug exactly when no entry it finds has been overtaken
* `moved_slug_resolves` — a slug given to another company

## Design Notes

The keys `company_slug:<slug>` are texts of their own kind; the cache is keyed by
the text after the prefix.  The query of `warm_slug_cache` lists the companies in
the order of the table; their slugs differ, so no other order has another outcome.
-/

namespace Ticketing

open Transactional

/-- `SLUG_CACHE_TTL`. -/
def slugCacheTtl : Time := 3600 * second

/-- The company table and the slug cache. -/
structure Directory where
  companies : CompanyTable
  cache : Cache String String Time

namespace Directory

/-- `get_company_id_by_slug`.  `clock` is read by each cache command in turn. -/
def getCompanyIdBySlug (slug : String) (clock : ℕ → Time) (directory : Directory) :
    Option String × Directory :=
  match directory.cache.live (clock 0) slug with
  | some companyId => (some companyId, directory)
  | none =>
      -- a slug that resolves to nothing is not cached
      match directory.companies.activeWith slug with
      | some id =>
          (some id.str,
            { directory with cache := directory.cache.store slug id.str (clock 1 + slugCacheTtl) })
      | none => (none, directory)

/-- `invalidate_slug`. -/
def invalidateSlug (slug : String) (directory : Directory) : Directory :=
  { directory with cache := directory.cache.remove slug }

/-- The loop of `warm_slug_cache` over `companies`, at its `count`-th round. -/
def warmLoop (clock : ℕ → Time) :
    List (Uuid × String) → ℕ → Cache String String Time → ℕ × Cache String String Time
  | [], count, cache => (count, cache)
  | (id, slug) :: rest, count, cache =>
      warmLoop clock rest (count + 1) (cache.store slug id.str (clock count + slugCacheTtl))

/-- `warm_slug_cache`. -/
def warmSlugCache (clock : ℕ → Time) (directory : Directory) : ℕ × Directory :=
  let (count, cache) := warmLoop clock directory.companies.actives 0 directory.cache
  (count, { directory with cache })

/-- `Company.save`; one that raises changes nothing. -/
def save (slugify : String → String) (company : CompanyInstance) (directory : Directory) :
    Directory :=
  match Company.save slugify company directory.companies with
  | .ok companies => { directory with companies }
  | .error _ => directory

/-- A slug resolves to the id of the company that is active with it. -/
def resolve (directory : Directory) (slug : String) : Option String :=
  (directory.companies.activeWith slug).map Uuid.str

end Directory

/-- A change of a company, or a call of the slug index. -/
inductive Operation
  | save (company : CompanyInstance)
  | get (slug : String) (clock : ℕ → Time)
  | warm (clock : ℕ → Time)
  | invalidate (slug : String)

namespace Operation

variable (slugify : String → String)

/-- What an operation leaves behind. -/
def run : Operation → Directory → Directory
  | .save company, directory => directory.save slugify company
  | .get slug clock, directory => (directory.getCompanyIdBySlug slug clock).2
  | .warm clock, directory => (directory.warmSlugCache clock).2
  | .invalidate slug, directory => directory.invalidateSlug slug

/-- For each slug, the company that was active with it when the cache was last
written under the slug; `written` says so before the operation. -/
def note (operation : Operation) (directory : Directory) (written : String → Option Uuid) :
    String → Option Uuid :=
  match operation with
  | .get slug clock =>
      if (directory.cache.live (clock 0) slug).isSome then written
      else Function.update written slug ((directory.companies.activeWith slug).or (written slug))
  | .warm _ => fun slug => (directory.companies.activeWith slug).or (written slug)
  | _ => written

/-- A lookup returns the id of the company that is active with the slug. -/
def Resolves : List Operation → Directory → Prop
  | [], _ => True
  | operation :: rest, directory =>
      (∀ slug clock, operation = .get slug clock →
        (directory.getCompanyIdBySlug slug clock).1 = directory.resolve slug) ∧
      Resolves rest (operation.run slugify directory)

/-- Whenever a lookup finds an entry, the company active with the slug is the one
that was when the entry was written. -/
def Unmoved : List Operation → Directory → (String → Option Uuid) → Prop
  | [], _, _ => True
  | operation :: rest, directory, written =>
      (∀ slug clock, operation = .get slug clock →
        (directory.cache.live (clock 0) slug).isSome →
          directory.companies.activeWith slug = written slug) ∧
      Unmoved rest (operation.run slugify directory) (operation.note directory written)

/-! ## What the cache holds -/

/-- The cache holds the ids of the companies it was written for. -/
abbrev Holds (directory : Directory) (written : String → Option Uuid) : Prop :=
  directory.cache.Records fun slug => (written slug).map Uuid.str

/-- The loop of `warm_slug_cache` writes every company it is given. -/
theorem records_warmLoop (clock : ℕ → Time) {companies : List (Uuid × String)} {count : ℕ}
    {cache : Cache String String Time} {recorded recorded' : String → Option String}
    (records : cache.Records recorded)
    (listed : ∀ id slug, (id, slug) ∈ companies → recorded' slug = some id.str)
    (others : ∀ slug, slug ∉ companies.map Prod.snd → recorded' slug = recorded slug) :
    (Directory.warmLoop clock companies count cache).2.Records recorded' := by
  induction companies generalizing count cache recorded with
  | nil =>
      exact records.congr fun slug _ _ _ => others slug List.not_mem_nil
  | cons company rest ih =>
      obtain ⟨id, slug⟩ := company
      refine ih (records.store slug id.str _)
        (fun id' slug' later => listed id' slug' (List.mem_cons_of_mem _ later))
        fun slug' absent => ?_
      by_cases same : slug' = slug
      · rw [same, Function.update_self]
        exact listed id slug List.mem_cons_self
      · rw [Function.update_of_ne same]
        refine others slug' fun found => ?_
        rcases List.mem_cons.mp found with isSlug | later
        · exact same isSlug
        · exact absent later

/-- **One operation** keeps the cache at what is noted of it. -/
theorem holds_step (operation : Operation) {directory : Directory}
    {written : String → Option Uuid} (holds : Holds directory written) :
    Holds (operation.run slugify directory) (operation.note directory written) := by
  cases operation with
  | save company =>
      show (directory.save slugify company).cache.Records _
      unfold Directory.save
      split
      · exact holds
      · exact holds
  | get slug clock =>
      simp only [run, Directory.getCompanyIdBySlug, note]
      cases directory.cache.live (clock 0) slug with
      | some companyId => exact holds
      | none =>
          cases active : directory.companies.activeWith slug with
          | none => simpa using holds
          | some id =>
              refine (Cache.Records.store holds slug id.str _).congr fun other _ _ _ => ?_
              by_cases same : other = slug
              · subst same
                simp
              · simp [same]
  | warm clock =>
      refine records_warmLoop clock holds (fun id slug listed => ?_) fun slug absent => ?_
      · have active := CompanyTable.activeWith_eq_some.mpr listed
        simp [note, active]
      · have inactive : directory.companies.activeWith slug = none := by
          cases active : directory.companies.activeWith slug with
          | none => rfl
          | some id =>
              have listed := CompanyTable.activeWith_eq_some.mp active
              exact absurd (List.mem_map_of_mem listed) absent
        simp [note, inactive]
  | invalidate slug => exact holds.remove slug

/-- A lookup is right exactly when it finds no entry of another company. -/
theorem resolves_get_iff {directory : Directory} {written : String → Option Uuid}
    (holds : Holds directory written) (slug : String) (clock : ℕ → Time) :
    (directory.getCompanyIdBySlug slug clock).1 = directory.resolve slug ↔
      ((directory.cache.live (clock 0) slug).isSome →
        directory.companies.activeWith slug = written slug) := by
  unfold Directory.getCompanyIdBySlug Directory.resolve
  cases found : directory.cache.live (clock 0) slug with
  | none =>
      cases directory.companies.activeWith slug <;> simp
  | some companyId =>
      -- the entry names the company that it was written for
      obtain ⟨id, isWritten, rfl⟩ := Option.map_eq_some_iff.mp (holds.live found)
      rw [isWritten]
      simp only [Option.isSome_some, true_imp_iff]
      constructor
      · intro right
        obtain ⟨id', active, same⟩ := Option.map_eq_some_iff.mp right.symm
        rw [active, Uuid.str_injective same]
      · intro unmoved
        rw [unmoved]
        rfl

/-- **Slug resolution.**  In every sequence of company changes and calls of the
slug index, every lookup returns the id of the company that is active with the
slug exactly when every lookup that finds an entry finds the slug with the
company it had when the entry was written. -/
theorem resolves_iff (companies : CompanyTable) (operations : List Operation) :
    Resolves slugify operations ⟨companies, Cache.empty⟩ ↔
      Unmoved slugify operations ⟨companies, Cache.empty⟩ fun _ => none := by
  -- for every directory whose cache holds what is noted of it
  suffices general : ∀ directory written, Holds directory written →
      (Resolves slugify operations directory ↔ Unmoved slugify operations directory written) from
    general _ _ (Cache.records_empty _)
  induction operations with
  | nil => exact fun _ _ _ => Iff.rfl
  | cons operation rest ih =>
      intro directory written holds
      refine and_congr (forall_congr' fun slug => forall_congr' fun clock => ?_)
        (ih _ _ (holds_step slugify operation holds))
      exact imp_congr_right fun _ => resolves_get_iff holds slug clock

end Operation

/-! ### A slug that moves -/

namespace Sample

/-- A company of one owner. -/
def named (name slug : String) : Company := { name, slug, owner := .ofNat 1 }

/-- Two companies, the first of them with the slug `fest`. -/
def companies : CompanyTable where
  rows := [(.ofNat 10, named "Fest" "fest"), (.ofNat 20, named "Other" "other")]
  ids_nodup := by decide
  slugs_nodup := by decide

/-- The slug is looked up; the first company gives it up, the second takes it; it
is looked up again a second later. -/
def move : List Operation :=
  [.get "fest" fun _ => 0,
    .save ⟨.ofNat 10, named "Fest" "fest-archive", false⟩,
    .save ⟨.ofNat 20, named "Other" "fest", false⟩,
    .get "fest" fun _ => second]

end Sample

/-- **Another tenant's slug.**  The second lookup returns the id of the company that
has given the slug up. -/
theorem moved_slug_resolves :
    let before : Directory := ⟨Sample.companies, Cache.empty⟩
    let after := Sample.move.take 3 |>.foldl (fun directory operation => operation.run id directory)
      before
    (after.getCompanyIdBySlug "fest" fun _ => second).1 = some (Uuid.str (.ofNat 10)) ∧
      after.resolve "fest" = some (Uuid.str (.ofNat 20)) ∧
      ¬ Operation.Resolves id Sample.move before := by
  refine ⟨by decide +kernel, by decide +kernel, fun ⟨_, _, _, right, _⟩ => ?_⟩
  have wrong := right "fest" (fun _ => second) rfl
  revert wrong
  decide +kernel

end Ticketing
