import Ticketing.Catalog.Isolation

/-!
# Access to companies

The four ways to a company: the list of `CompanyViewSet`, its detail, its change, and being
its owner or a member.

## Main Definitions

* `AccessStep` — a company is created over the API, or a member is added
* `Lists`, `Retrieves`, `MayChange`, `Belongs` — the four ways
* `AccessAgrees` — they agree

## Main Results

* `lists_iff`, `retrieves_iff`, `not_mayChange` — what each of them comes down to
* `access_agrees_iff` — when they agree

## Design Notes

A change is followed as far as the object: the checks of the view, the lookup in the
queryset, and the permissions of the object.
-/

namespace Ticketing.Catalog

open Transactional Rest

/-! ## States -/

/-- No rows. -/
def Database.empty : Database where
  companies := .empty
  members := ∅
  events := .empty
  dates := .empty
  tiers := .empty
  holds := .empty
  payments := .empty
  tickets := .empty

/-- A company is created over the API, or a row is added to its members. -/
inductive AccessStep
  | create (user : User) (input : Input) (data : CompanyColumns Entry)
  | addMember (member : CompanyMember)

/-- The tables after a step; a member needs a company. -/
def AccessStep.run (slugify : String → String) (db : Database) : AccessStep → Database
  | create user input data => (companyViewSet slugify).serve user input db (.create data)
  | addMember member =>
      if (db.companies.get member.company).isSome then
        { db with members := insert member db.members }
      else db

/-- The tables after a sequence of steps, from empty ones. -/
def reached (slugify : String → String) (steps : List AccessStep) : Database :=
  steps.foldl (AccessStep.run slugify) Database.empty

/-! ## The four ways -/

section Access

variable (slugify : String → String) (db : Database) (user : User) (id : Uuid)

/-- The company is in the user's list. -/
def Lists : Prop :=
  ∃ rows, (companyViewSet slugify).listed user db = .ok rows ∧ (rows id).isSome

/-- The user can retrieve the company. -/
def Retrieves : Prop :=
  ∃ company, (companyViewSet slugify).object .retrieve user id.str db = .ok (id, company)

/-- A `partial_update` of the company passes the queryset and every permission. -/
def MayChange : Prop :=
  ∃ company, (companyViewSet slugify).object .partialUpdate user id.str db = .ok (id, company)

/-- The user owns the company or is a member of it. -/
def Belongs : Prop :=
  (∃ company, db.companies.get id = some company ∧ company.owner = user.id) ∨
    db.isMember id user.id = true

/-- The four ways to a company agree. -/
structure AccessAgrees : Prop where
  lists_retrieves : Lists slugify db user id ↔ Retrieves slugify db user id
  retrieves_mayChange : Retrieves slugify db user id ↔ MayChange slugify db user id
  mayChange_belongs : MayChange slugify db user id ↔ Belongs db user id

end Access

section Rules

variable {slugify : String → String} {db : Database} {user : User} {id : Uuid}
  {company : Company}

/-- The active companies that the user is a member of. -/
def visibleTo (db : Database) (user : User) (id : Uuid) : Option Company :=
  (db.companies.get id).filter fun company => db.isMember id user.id && company.isActive

/-- They are the queryset of the view. -/
theorem getQueryset_eq :
    (companyViewSet slugify).getQueryset db user = .ok (visibleTo db user) := rfl

/-- An active company is visible to its members. -/
theorem visibleTo_eq (present : db.companies.get id = some company)
    (active : company.isActive = true) :
    visibleTo db user id = if db.isMember id user.id then some company else none := by
  rw [visibleTo, present, Option.filter_some, active, Bool.and_true]

/-- A user who sees an active company is a member of it. -/
theorem isMember_of_visibleTo (present : db.companies.get id = some company)
    (active : company.isActive = true) (inside : (visibleTo db user id).isSome = true) :
    db.isMember id user.id = true := by
  rw [visibleTo_eq present active] at inside
  by_contra outside
  rw [if_neg outside] at inside
  cases inside

/-- Reading takes an authenticated user. -/
theorem allows_read_iff {action : Action} (reads : action = .list ∨ action = .retrieve) :
    (companyViewSet slugify).Allows user action ↔ user.isAuthenticated = true := by
  rcases reads with rfl | rfl <;>
    simp [ViewSet.Allows, companyViewSet, isAuthenticated, method]

/-- A company is in the list of its members. -/
theorem lists_iff (present : db.companies.get id = some company)
    (active : company.isActive = true) :
    Lists slugify db user id ↔ user.isAuthenticated = true ∧ db.isMember id user.id = true := by
  unfold Lists
  simp only [ViewSet.listed_eq_ok, allows_read_iff (Or.inl rfl), getQueryset_eq]
  constructor
  · rintro ⟨rows, ⟨known, same⟩, inside⟩
    cases same
    exact ⟨known, isMember_of_visibleTo present active inside⟩
  · rintro ⟨known, member⟩
    refine ⟨_, ⟨known, rfl⟩, ?_⟩
    rw [visibleTo_eq present active, if_pos member]
    rfl

/-- A company can be retrieved by its members. -/
theorem retrieves_iff (present : db.companies.get id = some company)
    (active : company.isActive = true) :
    Retrieves slugify db user id ↔
      user.isAuthenticated = true ∧ db.isMember id user.id = true := by
  unfold Retrieves
  simp only [ViewSet.object_eq_ok, allows_read_iff (Or.inr rfl)]
  constructor
  · rintro ⟨found, known, finds⟩
    obtain ⟨rows, queried, inside⟩ := finds.visible
    rw [getQueryset_eq] at queried
    cases queried
    refine ⟨known, isMember_of_visibleTo present active ?_⟩
    rw [inside]
    rfl
  · rintro ⟨known, member⟩
    refine ⟨company, known, ?_, ⟨_, getQueryset_eq, ?_⟩, ?_⟩
    · exact Uuid.parse_str id
    · rw [visibleTo_eq present active, if_pos member]
    · intro permission asked
      rw [List.mem_singleton.mp asked]
      rfl

/-- Nobody can change a company. -/
theorem not_mayChange : ¬ MayChange slugify db user id := by
  rintro ⟨found, changes⟩
  exact not_finds_company (ViewSet.object_eq_ok.mp changes).2

end Rules

/-- **Access.**  In every state reached by creating companies and adding members, the ways
to an active company agree for a user exactly when the user neither owns it nor is a
member of it. -/
theorem access_agrees_iff (slugify : String → String) (steps : List AccessStep) (user : User)
    {id : Uuid} {company : Company}
    (present : (reached slugify steps).companies.get id = some company)
    (active : company.isActive = true) :
    AccessAgrees slugify (reached slugify steps) user id ↔
      company.owner ≠ user.id ∧ (reached slugify steps).isMember id user.id = false := by
  have belongs : Belongs (reached slugify steps) user id ↔
      company.owner = user.id ∨ (reached slugify steps).isMember id user.id = true := by
    simp [Belongs, present]
  constructor
  · intro agrees
    have stranger := mt agrees.mayChange_belongs.mpr not_mayChange
    rw [belongs, not_or, Bool.not_eq_true] at stranger
    exact stranger
  · rintro ⟨notOwner, notMember⟩
    have unseen : ¬ (user.isAuthenticated = true ∧
        (reached slugify steps).isMember id user.id = true) := by
      simp [notMember]
    constructor
    · rw [lists_iff present active, retrieves_iff present active]
    · rw [retrieves_iff present active]
      exact iff_of_false unseen not_mayChange
    · rw [belongs]
      exact iff_of_false not_mayChange (by simp [notOwner, notMember])

namespace Sample

/-- The first organizer creates a company; later the second user becomes a member of it. -/
def steps : List AccessStep :=
  [.create organizer ⟨0, id 10⟩ ⟨.given "Alpha", .missing, .missing, .missing⟩,
    .addMember ⟨id 10, id 2⟩]

/-- The company that is created. -/
def alpha : Company := { name := "Alpha", slug := "alpha", owner := id 1 }

/-- The slugs of the companies below. -/
def slugify (_ : String) : String := "alpha"

theorem alpha_reached : (reached slugify steps).companies.get (id 10) = some alpha := by
  decide +kernel

end Sample

theorem access_agrees_iff_sample :
    AccessAgrees Sample.slugify (reached Sample.slugify Sample.steps) Sample.organizer
        (Sample.id 10) ↔
      Sample.alpha.owner ≠ Sample.organizer.id ∧
        (reached Sample.slugify Sample.steps).isMember (Sample.id 10) Sample.organizer.id = false :=
  access_agrees_iff Sample.slugify Sample.steps Sample.organizer Sample.alpha_reached rfl

/-- **Locked out.**  The owner does not see the company just created; the member sees it;
neither can change it. -/
theorem owner_locked_out :
    Belongs (reached Sample.slugify Sample.steps) Sample.organizer (Sample.id 10) ∧
      ¬ Lists Sample.slugify (reached Sample.slugify Sample.steps) Sample.organizer
        (Sample.id 10) ∧
      Lists Sample.slugify (reached Sample.slugify Sample.steps) { id := Sample.id 2 }
        (Sample.id 10) ∧
      ¬ MayChange Sample.slugify (reached Sample.slugify Sample.steps) { id := Sample.id 2 }
        (Sample.id 10) := by
  refine ⟨Or.inl ⟨Sample.alpha, Sample.alpha_reached, rfl⟩, ?_, ?_, not_mayChange⟩
  · rw [lists_iff Sample.alpha_reached rfl]
    decide +kernel
  · rw [lists_iff Sample.alpha_reached rfl]
    decide +kernel

end Ticketing.Catalog
