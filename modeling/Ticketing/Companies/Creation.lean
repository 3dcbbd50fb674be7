import Ticketing.Companies.SlugIndex

/-!
# Creating companies

`CompanyCreateSerializer.create` of `companies/serializers.py`, called any number of times.  The
slugs come from `Company.save`, which makes them from the names and leaves them as they come out.

## Main Definitions

* `ValidatedData` — what the serializer has accepted
* `Creation`, `Creation.create` — one call
* `AllUsable` — every call stores a company that its slug leads back to
* `WellNamed` — the names make slugs that are there, fit, and belong to nobody else

## Main Results

* `createAll_ok` — what a sequence of calls stores, where all of them succeed
* `usable_iff` — every company is usable exactly when the creations are well named

## Design Notes

The id of a company is drawn by `uuid4` before the row is stored; a creation carries it.  A
creation does not touch the slug cache, so the lookups come after the last of them.
-/

namespace Ticketing

open Transactional

/-! ## The serializer -/

/-- A text between two lengths, without a NUL. -/
def ValidText (least most : ℕ) (text : String) : Prop :=
  least ≤ text.length ∧ text.length ≤ most ∧ '\x00' ∉ text.toList

/-- `validated_data` of `CompanyCreateSerializer`; the name alone is required. -/
structure ValidatedData where
  name : String
  timezone : Option String := none
  logoUrl : Option String := none
  primaryColor : Option String := none
  name_valid : ValidText 1 200 name
  timezone_valid : ∀ text ∈ timezone, ValidText 1 50 text
  logoUrl_valid : ∀ text ∈ logoUrl, ValidText 0 200 text
  primaryColor_valid : ∀ text ∈ primaryColor, ValidText 1 7 text

/-- A call of the serializer by a user, with the id that the company is going to have. -/
structure Creation where
  id : Uuid
  user : Uuid
  data : ValidatedData

namespace Creation

/-- `Company(owner=owner, **validated_data)`. -/
def company (creation : Creation) : CompanyInstance :=
  let defaults : Company := { name := creation.data.name, owner := creation.user }
  { id := creation.id
    fields := { defaults with
      timezone := creation.data.timezone.getD defaults.timezone
      logoUrl := creation.data.logoUrl.getD defaults.logoUrl
      primaryColor := creation.data.primaryColor.getD defaults.primaryColor }
    adding := true }

variable (slugify : String → String)

/-- The company that `create` returns. -/
def stored (creation : Creation) : CompanyInstance :=
  { creation.company with
    fields := creation.company.fields.withSlug slugify
    adding := false }

/-- `CompanyCreateSerializer.create`. -/
def create (creation : Creation) (directory : Directory) :
    Except CompanyError (CompanyInstance × Directory) :=
  match Company.save slugify creation.company directory.companies with
  | .ok companies => .ok (creation.stored slugify, { directory with companies })
  | .error error => .error error

/-- One call after the other; the companies that they return. -/
def createAll : List Creation → Directory → Except CompanyError (List CompanyInstance × Directory)
  | [], directory => .ok ([], directory)
  | creation :: rest, directory => do
      let (company, directory) ← creation.create slugify directory
      let (companies, directory) ← createAll rest directory
      .ok (company :: companies, directory)

/-! ## What is asked of a company -/

/-- The company is stored with a slug of its own, which leads back to it at every time. -/
structure Usable (directory : Directory) (company : CompanyInstance) : Prop where
  found : directory.companies.get company.id = some company.fields
  nonempty : company.fields.slug ≠ ""
  short : company.fields.slug.length ≤ 100
  own : ∀ other row, directory.companies.get other = some row →
    row.slug = company.fields.slug → other = company.id
  resolved : ∀ clock,
    (directory.getCompanyIdBySlug company.fields.slug clock).1 = some company.id.str

/-- Every call succeeds, and every company is usable in the end. -/
def AllUsable (creations : List Creation) (directory : Directory) : Prop :=
  ∃ companies after, createAll slugify creations directory = .ok (companies, after) ∧
    ∀ company ∈ companies, Usable after company

/-- The slug that a creation leads to. -/
def slug (creation : Creation) : String := slugify creation.data.name

/-- The rows can be stored: ids and slugs are new and differ, and the slugs fit. -/
structure Storable (creations : List Creation) (directory : Directory) : Prop where
  ids_differ : (creations.map Creation.id).Nodup
  ids_new : ∀ creation ∈ creations, creation.id ∉ directory.companies.rows.map Prod.fst
  slugs_differ : (creations.map (slug slugify)).Nodup
  slugs_new : ∀ creation ∈ creations,
    creation.slug slugify ∉ directory.companies.rows.map fun row => row.2.slug
  short : ∀ creation ∈ creations, (creation.slug slugify).length ≤ 100

/-- Besides, no slug is empty or still cached for another company. -/
structure WellNamed (creations : List Creation) (directory : Directory) : Prop
    extends Storable slugify creations directory where
  nonempty : ∀ creation ∈ creations, creation.slug slugify ≠ ""
  uncached : ∀ creation ∈ creations, ∀ now companyId,
    directory.cache.live now (creation.slug slugify) = some companyId → companyId = creation.id.str

/-! ## One call -/

/-- The row of a creation. -/
def row (creation : Creation) : Uuid × Company :=
  (creation.id, (creation.stored slugify).fields)

@[simp] theorem stored_id (creation : Creation) : (creation.stored slugify).id = creation.id := rfl

/-- The serializer takes no slug, so `save` makes one. -/
@[simp] theorem stored_slug (creation : Creation) :
    (creation.stored slugify).fields.slug = creation.slug slugify := rfl

@[simp] theorem stored_isActive (creation : Creation) :
    (creation.stored slugify).fields.isActive = true := rfl

variable {slugify}

theorem getD_length_le {given : Option String} (default : String) {least most : ℕ}
    (valid : ∀ text ∈ given, ValidText least most text) (fits : default.length ≤ most) :
    (given.getD default).length ≤ most := by
  cases given with
  | none => exact fits
  | some text => exact (valid text rfl).2.1

/-- Of the validated data only the slug can be too long. -/
theorem stored_fits (creation : Creation) :
    (creation.stored slugify).fields.fits = true ↔ (creation.slug slugify).length ≤ 100 := by
  have timezone := getD_length_le "Africa/Nairobi" creation.data.timezone_valid
    (by decide)
  have logoUrl := getD_length_le "" creation.data.logoUrl_valid (by decide)
  have primaryColor := getD_length_le "#000000" creation.data.primaryColor_valid
    (by decide)
  have name := creation.data.name_valid.2.1
  have plan : CompanyPlan.free.value.length ≤ 20 := by decide
  rw [Company.fits]
  simp only [Bool.and_eq_true, decide_eq_true_eq]
  exact ⟨fun all => all.1.1.1.1.2, fun short => ⟨⟨⟨⟨⟨name, short⟩, plan⟩, timezone⟩, logoUrl⟩,
    primaryColor⟩⟩

/-- **One call** adds the row of the creation, where the row can be added. -/
theorem create_ok {creation : Creation} {directory after : Directory} {company : CompanyInstance} :
    creation.create slugify directory = .ok (company, after) ↔
      (creation.slug slugify).length ≤ 100 ∧
      creation.id ∉ directory.companies.rows.map Prod.fst ∧
      (creation.slug slugify ∉ directory.companies.rows.map fun row => row.2.slug) ∧
      company = creation.stored slugify ∧
      after.companies.rows = directory.companies.rows ++ [creation.row slugify] ∧
      after.cache = directory.cache := by
  have saved : Company.save slugify creation.company directory.companies
      = if (creation.slug slugify).length ≤ 100 then
          directory.companies.insert creation.id (creation.stored slugify).fields
        else .error .tooLong := by
    simp only [← stored_fits]
    rfl
  unfold create
  rw [saved]
  split_ifs with short
  · unfold CompanyTable.insert
    split_ifs with fresh
    · constructor
      · rintro ⟨⟩
        exact ⟨short, fresh.1, fresh.2, rfl, rfl, rfl⟩
      · rintro ⟨-, -, -, rfl, rows, cache⟩
        obtain ⟨companies, cached⟩ := after
        cases cache
        exact congrArg Except.ok (congrArg (Prod.mk _) (congrArg (Directory.mk · _)
          (CompanyTable.eq_of_rows rows.symm)))
    · refine iff_of_false (fun refused => ?_) fun all => fresh ⟨all.2.1, all.2.2.1⟩
      cases refused
  · refine iff_of_false (fun refused => ?_) fun all => short all.1
    cases refused

/-! ## A sequence of calls -/

/-- What can be stored after the first row. -/
theorem storable_cons {creation : Creation} {rest : List Creation} {directory after : Directory}
    (rows : after.companies.rows = directory.companies.rows ++ [creation.row slugify]) :
    Storable slugify (creation :: rest) directory ↔
      (creation.slug slugify).length ≤ 100 ∧
      creation.id ∉ directory.companies.rows.map Prod.fst ∧
      (creation.slug slugify ∉ directory.companies.rows.map fun row => row.2.slug) ∧
      Storable slugify rest after := by
  have ids (id : Uuid) : id ∈ after.companies.rows.map Prod.fst ↔
      id ∈ directory.companies.rows.map Prod.fst ∨ id = creation.id := by
    simp only [rows, List.map_append, List.mem_append, List.map_cons, List.map_nil,
      List.mem_singleton, row]
  have slugs (slug : String) : (slug ∈ after.companies.rows.map fun row => row.2.slug) ↔
      (slug ∈ directory.companies.rows.map fun row => row.2.slug) ∨
        slug = creation.slug slugify := by
    simp only [rows, List.map_append, List.mem_append, List.map_cons, List.map_nil,
      List.mem_singleton, row, stored_slug]
  constructor
  · rintro ⟨idsDiffer, idsNew, slugsDiffer, slugsNew, short⟩
    obtain ⟨idApart, idsDiffer⟩ := List.nodup_cons.mp idsDiffer
    obtain ⟨slugApart, slugsDiffer⟩ := List.nodup_cons.mp slugsDiffer
    obtain ⟨idNew, idsNew⟩ := List.forall_mem_cons.mp idsNew
    obtain ⟨slugNew, slugsNew⟩ := List.forall_mem_cons.mp slugsNew
    obtain ⟨isShort, short⟩ := List.forall_mem_cons.mp short
    refine ⟨isShort, idNew, slugNew, idsDiffer, fun other later => ?_, slugsDiffer,
      fun other later => ?_, short⟩
    · rw [ids, not_or]
      exact ⟨idsNew other later, fun same => idApart (same ▸ List.mem_map_of_mem later)⟩
    · rw [slugs, not_or]
      exact ⟨slugsNew other later, fun same => slugApart (same ▸ List.mem_map_of_mem later)⟩
  · rintro ⟨isShort, idNew, slugNew, idsDiffer, idsNew, slugsDiffer, slugsNew, short⟩
    refine ⟨List.nodup_cons.mpr ⟨fun again => ?_, idsDiffer⟩,
      List.forall_mem_cons.mpr ⟨idNew, fun other later old => ?_⟩,
      List.nodup_cons.mpr ⟨fun again => ?_, slugsDiffer⟩,
      List.forall_mem_cons.mpr ⟨slugNew, fun other later old => ?_⟩,
      List.forall_mem_cons.mpr ⟨isShort, short⟩⟩
    · obtain ⟨other, later, same⟩ := List.mem_map.mp again
      exact idsNew other later ((ids _).mpr (.inr same))
    · exact idsNew other later ((ids _).mpr (.inl old))
    · obtain ⟨other, later, same⟩ := List.mem_map.mp again
      exact slugsNew other later ((slugs _).mpr (.inr same))
    · exact slugsNew other later ((slugs _).mpr (.inl old))

theorem Storable.of_sublist {creations part : List Creation} {directory : Directory}
    (storable : Storable slugify creations directory) (sublist : part.Sublist creations) :
    Storable slugify part directory where
  ids_differ := storable.ids_differ.sublist (sublist.map _)
  ids_new creation inside := storable.ids_new creation (sublist.subset inside)
  slugs_differ := storable.slugs_differ.sublist (sublist.map _)
  slugs_new creation inside := storable.slugs_new creation (sublist.subset inside)
  short creation inside := storable.short creation (sublist.subset inside)

/-- The directory with the rows of the creations. -/
def withRows (directory : Directory) (creations : List Creation)
    (storable : Storable slugify creations directory) : Directory where
  companies := {
    rows := directory.companies.rows ++ creations.map (row slugify)
    ids_nodup := by
      rw [List.map_append, List.map_map]
      refine directory.companies.ids_nodup.append storable.ids_differ fun id old new => ?_
      obtain ⟨creation, inside, rfl⟩ := List.mem_map.mp new
      exact storable.ids_new creation inside old
    slugs_nodup := by
      rw [List.map_append, List.map_map]
      refine directory.companies.slugs_nodup.append storable.slugs_differ fun slug old new => ?_
      obtain ⟨creation, inside, rfl⟩ := List.mem_map.mp new
      exact storable.slugs_new creation inside old }
  cache := directory.cache

/-- **A sequence of calls** adds the rows of the creations, where all of them can be added. -/
theorem createAll_ok {creations : List Creation} {directory after : Directory}
    {companies : List CompanyInstance} :
    createAll slugify creations directory = .ok (companies, after) ↔
      Storable slugify creations directory ∧
      companies = creations.map (stored slugify) ∧
      after.companies.rows = directory.companies.rows ++ creations.map (row slugify) ∧
      after.cache = directory.cache := by
  induction creations generalizing directory companies with
  | nil =>
      constructor
      · rintro ⟨⟩
        exact ⟨⟨List.nodup_nil, nofun, List.nodup_nil, nofun, nofun⟩, rfl, by simp, rfl⟩
      · rintro ⟨-, rfl, rows, cache⟩
        obtain ⟨table, cached⟩ := after
        cases cache
        rw [List.map_nil, List.append_nil] at rows
        exact congrArg Except.ok (congrArg (Prod.mk _) (congrArg (Directory.mk · _)
          (CompanyTable.eq_of_rows rows.symm)))
  | cons creation rest ih =>
      rw [createAll, bind_eq_ok]
      constructor
      · rintro ⟨⟨company, between⟩, first, second⟩
        obtain ⟨⟨later, last⟩, others, ⟨⟩⟩ := bind_eq_ok.mp second
        obtain ⟨short, id, slug, rfl, rows, cache⟩ := create_ok.mp first
        obtain ⟨storable, rfl, rows', cache'⟩ := ih.mp others
        refine ⟨(storable_cons rows).mpr ⟨short, id, slug, storable⟩, rfl, ?_, cache'.trans cache⟩
        rw [rows', rows, List.append_assoc]
        rfl
      · rintro ⟨storable, rfl, rows, cache⟩
        have short := storable.short creation List.mem_cons_self
        have id := storable.ids_new creation List.mem_cons_self
        have slug := storable.slugs_new creation List.mem_cons_self
        have alone := storable.of_sublist (List.singleton_sublist.mpr List.mem_cons_self)
        refine ⟨(creation.stored slugify, withRows directory [creation] alone),
          create_ok.mpr ⟨short, id, slug, rfl, rfl, rfl⟩, bind_eq_ok.mpr
          ⟨(rest.map (stored slugify), after), ih.mpr ⟨?_, rfl, ?_, cache⟩, rfl⟩⟩
        · exact ((storable_cons rfl).mp storable).2.2.2
        · show _ = (directory.companies.rows ++ [creation.row slugify]) ++ _
          rw [rows, List.append_assoc]
          rfl

/-! ## Lookups -/

/-- A company that is active with a slug is found, unless the cache says otherwise. -/
theorem resolved_iff {directory : Directory} {id : Uuid} {slug : String}
    (active : directory.companies.activeWith slug = some id) :
    (∀ clock, (directory.getCompanyIdBySlug slug clock).1 = some id.str) ↔
      ∀ now companyId, directory.cache.live now slug = some companyId → companyId = id.str := by
  unfold Directory.getCompanyIdBySlug
  constructor
  · intro resolved now companyId cached
    have found := resolved fun _ => now
    simp only [cached, Option.some.injEq] at found
    exact found
  · intro uncached clock
    cases cached : directory.cache.live (clock 0) slug with
    | none => simp only [active]
    | some companyId => exact congrArg some (uncached _ _ cached)

/-- **Usable slugs.**  Whatever the companies, the cache and the creations, every call succeeds
and stores a company with a usable slug, if and only if the creations are well named. -/
theorem usable_iff (slugify : String → String) (creations : List Creation)
    (directory : Directory) :
    AllUsable slugify creations directory ↔ WellNamed slugify creations directory := by
  -- the company of a creation is active with its slug, once all of them are stored
  have active {after : Directory} {creation : Creation} (inside : creation ∈ creations)
      (rows : after.companies.rows = directory.companies.rows ++ creations.map (row slugify)) :
      after.companies.activeWith (creation.slug slugify) = some creation.id := by
    refine CompanyTable.activeWith_eq_some.mpr (List.mem_map.mpr
      ⟨creation.row slugify, List.mem_filter.mpr ⟨?_, rfl⟩, rfl⟩)
    rw [rows]
    exact List.mem_append_right _ (List.mem_map_of_mem inside)
  constructor
  · rintro ⟨companies, after, created, usable⟩
    obtain ⟨storable, rfl, rows, cache⟩ := createAll_ok.mp created
    have usable {creation : Creation} (inside : creation ∈ creations) :
        Usable after (creation.stored slugify) := usable _ (List.mem_map_of_mem inside)
    refine ⟨storable, fun creation inside => (usable inside).nonempty, fun creation inside => ?_⟩
    rw [← cache]
    exact (resolved_iff (active inside rows)).mp (usable inside).resolved
  · intro wellNamed
    obtain ⟨after, created⟩ : ∃ after, createAll slugify creations directory
        = .ok (creations.map (stored slugify), after) :=
      ⟨withRows directory creations wellNamed.toStorable,
        createAll_ok.mpr ⟨wellNamed.toStorable, rfl, rfl, rfl⟩⟩
    obtain ⟨-, -, rows, cache⟩ := createAll_ok.mp created
    refine ⟨_, after, created, List.forall_mem_map.mpr fun creation inside => ?_⟩
    have stored : after.companies.get creation.id = some (creation.stored slugify).fields := by
      rw [CompanyTable.get_eq_some, rows]
      exact List.mem_append_right _ (List.mem_map_of_mem inside)
    refine ⟨stored, wellNamed.nonempty creation inside, wellNamed.short creation inside,
      fun other row found same => ?_, (resolved_iff (active inside rows)).mpr ?_⟩
    · have unique := List.inj_on_of_nodup_map after.companies.slugs_nodup
        (CompanyTable.get_eq_some.mp found) (CompanyTable.get_eq_some.mp stored) same
      exact congrArg Prod.fst unique
    · rw [cache]
      exact wellNamed.uncached creation inside

end Creation

/-! ### Names without a slug of their own -/

namespace Sample

/-- Dashes and blanks, which Django's `slugify` runs together. -/
def isGap (letter : Char) : Bool := letter = '-' || letter.isWhitespace

/-- Django's `slugify` on ASCII texts: the lower-case text without its other marks, each gap one
dash, and no dash or underscore at either end. -/
def slugify (value : String) : String :=
  let kept := (value.toList.map Char.toLower).filter fun letter =>
    letter.isAlphanum || letter = '_' || isGap letter
  let joined := kept.foldr (fun letter rest =>
    if isGap letter then if rest.head? = some '-' then rest else '-' :: rest
    else letter :: rest) []
  let isEdge (letter : Char) : Bool := letter = '-' || letter = '_'
  .ofList ((joined.dropWhile isEdge).reverse.dropWhile isEdge).reverse

example : slugify "Nairobi Events Co" = "nairobi-events-co" := by decide +kernel

/-- A company with nothing but a name. -/
def data (name : String) (valid : ValidText 1 200 name) : ValidatedData :=
  { name, name_valid := valid
    timezone_valid := by simp
    logoUrl_valid := by simp
    primaryColor_valid := by simp }

/-- Two companies of one name. -/
def sameName : List Creation :=
  [⟨.ofNat 10, .ofNat 1, data "Nairobi Events Co" (by unfold ValidText; decide)⟩,
    ⟨.ofNat 20, .ofNat 2, data "Nairobi Events Co" (by unfold ValidText; decide)⟩]

/-- A name of three exclamation marks. -/
def marks : List Creation :=
  [⟨.ofNat 10, .ofNat 1, data "!!!" (by unfold ValidText; decide)⟩]

/-- A name of 101 letters. -/
def long : List Creation :=
  [⟨.ofNat 10, .ofNat 1,
    data (.ofList (List.replicate 101 'a')) (by
      simp only [ValidText, String.length_ofList, String.toList_ofList]
      decide)⟩]

/-- No companies yet. -/
def nobody : Directory := ⟨.empty, Cache.empty⟩

end Sample

/-- **Not every name.**  The second company of a name and a name that is longer than a slug are
refused by the database; a name of punctuation leaves an empty slug. -/
theorem names_without_slug :
    let slugs (creations : List Creation) : Except CompanyError (List String) :=
      (Creation.createAll Sample.slugify creations Sample.nobody).map fun result =>
        result.1.map (·.fields.slug)
    (slugs Sample.sameName = .error .integrity ∧ slugs Sample.long = .error .tooLong ∧
      slugs Sample.marks = .ok [""]) ∧
      ∀ creations ∈ [Sample.sameName, Sample.long, Sample.marks],
        ¬ Creation.AllUsable Sample.slugify creations Sample.nobody := by
  intro slugs
  have outcomes : slugs Sample.sameName = .error .integrity ∧
      slugs Sample.long = .error .tooLong ∧ slugs Sample.marks = .ok [""] := by
    decide +kernel
  obtain ⟨taken, tooLong, empty⟩ := outcomes
  refine ⟨⟨taken, tooLong, empty⟩, fun creations inside => ?_⟩
  rintro ⟨companies, after, created, usable⟩
  have isSlugs : slugs creations = .ok (companies.map (·.fields.slug)) := by
    simp only [slugs, created, Except.map]
  simp only [List.mem_cons, List.not_mem_nil, or_false] at inside
  rcases inside with rfl | rfl | rfl
  · cases taken.symm.trans isSlugs
  · cases tooLong.symm.trans isSlugs
  · obtain ⟨company, isCompany, noSlug⟩ : ∃ company ∈ companies, company.fields.slug = "" := by
      refine List.mem_map.mp ?_
      rw [← Except.ok.inj (empty.symm.trans isSlugs)]
      exact List.mem_cons_self
    exact (usable company isCompany).nonempty noSlug

end Ticketing
