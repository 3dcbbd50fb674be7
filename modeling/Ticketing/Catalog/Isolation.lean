import Ticketing.Catalog.Views
import Ticketing.Transactional.Trail

/-!
# Tenant isolation

What an organizer's requests can do to the companies of others.

## Main Definitions

* `Database.foreign`, `Database.foreignEvent` — a company the user neither owns nor is a member
  of, and an event of one
* `Isolated` — the rows of foreign companies are as they were, and no tier has come to them
* `Database.outside` — everything that belongs to foreign companies
* `Request.Keeps` — a request to `TicketTierViewSet` that leaves foreign tiers alone

## Main Results

* `company_keeps`, `event_keeps` — the viewsets of companies and events isolate the tenants
* `writes_isolated_iff` — a run of requests isolates them exactly when each of its requests to
  the tiers keeps its condition
* `tiers_of_another_company` — requests that reach over

## Design Notes

Companies and events are looked up among those of the user; tiers are looked up
among all active ones, and their event among all events.  That a row is foreign
depends on rows that no request changes, so `outside` is an observer's view and a
run is judged step by step.
-/

namespace Ticketing.Catalog

open Transactional Rest

namespace Database

/-- A company that the user neither owns nor is a member of. -/
def foreign (db : Database) (user company : Uuid) : Bool :=
  (db.companies.get company).any fun row => row.owner ≠ user && !db.isMember company user

/-- An event of a foreign company. -/
def foreignEvent (db : Database) (user event : Uuid) : Bool :=
  (db.events.get event).any fun row => db.foreign user row.company

end Database

/-- Between `before` and `after`, nothing that belongs to a foreign company of `user`
has changed, and no tier has been added to its events. -/
structure Isolated (user : Uuid) (before after : Database) : Prop where
  companies : ∀ id company, before.companies.get id = some company →
    before.foreign user id = true → after.companies.get id = some company
  events : ∀ id event, before.events.get id = some event →
    before.foreign user event.company = true → after.events.get id = some event
  tiers : ∀ id tier, before.tiers.get id = some tier →
    before.foreignEvent user tier.event = true → after.tiers.get id = some tier
  added : ∀ id tier, after.tiers.get id = some tier →
    before.foreignEvent user tier.event = true →
      ∃ old, before.tiers.get id = some old ∧ old.event = tier.event

/-! ## The condition on a request -/

/-- A change of a tier of a foreign company, or to an event of one, writes what is
there already. -/
def KeepsChange (user : User) (db : Database) (eventId : Option String) (action : Action)
    (pk : String) (data : TierColumns Entry) : Prop :=
  (ticketTierViewSet eventId).Allows user action →
    ∀ id tier fields, (ticketTierViewSet eventId).Finds user action pk db id tier →
      (ticketTierViewSet eventId).validate action db data = some fields →
        (db.foreignEvent user.id tier.event = true ∨
          ∃ event, fields.event = some event ∧ db.foreignEvent user.id event = true) →
            fields.write tier = tier

/-- A request to the tiers leaves those of foreign companies alone. -/
def Request.Keeps (user : User) (db : Database) : Request × Input → Prop
  | (.tier eventId (.create data), input) =>
      (ticketTierViewSet eventId).Allows user .create →
        ∀ fields event, (ticketTierViewSet eventId).validate .create db data = some fields →
          fields.event = some event → db.foreignEvent user.id event = true →
            (db.tiers.get input.uuid).isSome
  | (.tier eventId (.update pk data), _) => KeepsChange user db eventId .update pk data
  | (.tier eventId (.partialUpdate pk data), _) =>
      KeepsChange user db eventId .partialUpdate pk data
  | (.tier eventId (.destroy pk), _) =>
      (ticketTierViewSet eventId).Allows user .destroy →
        ∀ id tier, (ticketTierViewSet eventId).Finds user .destroy pk db id tier →
          db.foreignEvent user.id tier.event = true → db.protectsTiers (· = id) = true
  | _ => True

/-! ## The outside -/

/-- The rows that belong to foreign companies. -/
@[ext]
structure Outside where
  companies : Uuid → Option Company
  events : Uuid → Option Event
  tiers : Uuid → Option TicketTier

/-- What belongs to the foreign companies of `user`. -/
def Database.outside (db : Database) (user : Uuid) : Outside where
  companies id := (db.companies.get id).filter fun _ => db.foreign user id
  events id := (db.events.get id).filter fun event => db.foreign user event.company
  tiers id := (db.tiers.get id).filter fun tier => db.foreignEvent user tier.event

section Outside

variable {user : Uuid} {db before after : Database}

theorem foreignEvent_eq (event : Uuid) :
    db.foreignEvent user event = ((db.outside user).events event).isSome := by
  cases stored : db.events.get event with
  | none => simp [Database.outside, Database.foreignEvent, stored]
  | some row => simp [Database.outside, Database.foreignEvent, stored]

/-- The events of the outside are the foreign ones. -/
theorem foreignEvent_of_same (events : (after.outside user).events = (before.outside user).events)
    (event : Uuid) : after.foreignEvent user event = before.foreignEvent user event := by
  rw [foreignEvent_eq, foreignEvent_eq, events]

/-- Two outsides with the same companies and events have the same foreign tiers when
no foreign tier has changed, gone or come. -/
theorem isolated_iff (companies : (after.outside user).companies = (before.outside user).companies)
    (events : (after.outside user).events = (before.outside user).events) :
    Isolated user before after ↔ after.outside user = before.outside user := by
  have event := foreignEvent_of_same events
  constructor
  · intro isolated
    -- a foreign tier afterwards was there before, and the other way round
    refine Outside.ext companies events (funext fun id => Option.ext fun tier => ?_)
    simp only [Database.outside, Option.filter_eq_some_iff, event]
    constructor
    · rintro ⟨stored, foreign⟩
      obtain ⟨old, before', same⟩ := isolated.added id tier stored foreign
      have kept := isolated.tiers id old before' (same ▸ foreign)
      rw [stored] at kept
      exact ⟨Option.some.inj kept ▸ before', foreign⟩
    · rintro ⟨stored, foreign⟩
      exact ⟨isolated.tiers id tier stored foreign, foreign⟩
  · intro same
    have tiers (id : Uuid) : (after.outside user).tiers id = (before.outside user).tiers id := by
      rw [same]
    refine ⟨fun id company stored foreign => ?_, fun id event stored foreign => ?_,
      fun id tier stored foreign => ?_, fun id tier stored foreign => ?_⟩
    · have kept : (after.outside user).companies id = some company := by
        rw [companies]
        exact Option.filter_eq_some_iff.mpr ⟨stored, foreign⟩
      exact (Option.filter_eq_some_iff.mp kept).1
    · have kept : (after.outside user).events id = some event := by
        rw [events]
        exact Option.filter_eq_some_iff.mpr ⟨stored, foreign⟩
      exact (Option.filter_eq_some_iff.mp kept).1
    · have kept : (after.outside user).tiers id = some tier := by
        rw [tiers]
        exact Option.filter_eq_some_iff.mpr ⟨stored, foreign⟩
      exact (Option.filter_eq_some_iff.mp kept).1
    · have kept : (before.outside user).tiers id = some tier := by
        rw [← tiers]
        exact Option.filter_eq_some_iff.mpr ⟨stored, (event _).trans foreign⟩
      exact ⟨tier, (Option.filter_eq_some_iff.mp kept).1, rfl⟩

/-- Where companies and members are the same rows, so are the foreign companies. -/
theorem foreign_of_same (user : Uuid) (companies : after.companies = before.companies)
    (members : after.members = before.members) (company : Uuid) :
    after.foreign user company = before.foreign user company := by
  unfold Database.foreign Database.isMember
  rw [companies, members]

/-- A change of events and tiers keeps the outside when it keeps the foreign events,
and the tiers of these. -/
theorem outside_of_same (companies : after.companies = before.companies)
    (members : after.members = before.members)
    (events : ∀ id, ((after.events.get id).filter fun event => before.foreign user event.company)
      = (before.events.get id).filter fun event => before.foreign user event.company)
    (tiers : ∀ id, ((after.tiers.get id).filter fun tier => before.foreignEvent user tier.event)
      = (before.tiers.get id).filter fun tier => before.foreignEvent user tier.event) :
    after.outside user = before.outside user := by
  have foreign := foreign_of_same user companies members
  have sameEvents : (after.outside user).events = (before.outside user).events := by
    funext id
    simp only [Database.outside, foreign]
    exact events id
  have event := foreignEvent_of_same sameEvents
  refine Outside.ext ?_ sameEvents (funext fun id => ?_)
  · funext id
    simp only [Database.outside, foreign, companies]
  · simp only [Database.outside, event]
    exact tiers id

/-- An event of a company that is not foreign may change and go. -/
theorem events_of_own {id : Uuid} {event : Event} (stored : before.events.get id = some event)
    (own : before.foreign user event.company = false)
    (same : ∀ other, other ≠ id → after.events.get other = before.events.get other)
    (there : ∀ changed, after.events.get id = some changed → changed.company = event.company)
    (other : Uuid) :
    ((after.events.get other).filter fun event => before.foreign user event.company)
      = (before.events.get other).filter fun event => before.foreign user event.company := by
  by_cases isId : other = id
  · subst isId
    have none : (after.events.get other).filter
        (fun event => before.foreign user event.company) = none := by
      rw [Option.filter_eq_none_iff]
      intro changed stored'
      simp [there changed stored', own]
    rw [none, stored]
    simp [Option.filter, own]
  · rw [same other isId]

/-! ## Companies and events -/

/-- A company that the user has created is not foreign, and makes no other one so. -/
theorem outside_of_created {id : Uuid} {company : Company} {companies : CompanyTable}
    (owned : company.owner = user) (inserted : db.companies.insert id company = .ok companies) :
    ({ db with companies } : Database).outside user = db.outside user := by
  obtain ⟨absent, get⟩ := CompanyTable.get_of_insert inserted
  have foreign (other : Uuid) :
      ({ db with companies } : Database).foreign user other = db.foreign user other := by
    unfold Database.foreign
    rw [get]
    by_cases same : other = id
    · subst same
      simp [absent, owned]
    · rw [if_neg same]
      rfl
  have rows : (({ db with companies } : Database).outside user).companies
      = (db.outside user).companies := by
    funext other
    simp only [Database.outside, foreign, get]
    by_cases same : other = id
    · subst same
      simp [Option.filter, absent, Database.foreign]
    · rw [if_neg same]
  have events : (({ db with companies } : Database).outside user).events
      = (db.outside user).events := by
    simp only [Database.outside, foreign]
  have event := foreignEvent_of_same events
  refine Outside.ext rows events (funext fun other => ?_)
  simp only [Database.outside, event]

end Outside

/-- A request keeps the outside when serving it does. -/
theorem serve_outside {Row Data Fields : Type}
    {view : ViewSet User Input Database Uuid Row Data Fields DatabaseError} {user : User}
    {input : Input} {db : Database} {call : Call Data} :
    (view.serve user input db call).outside user.id = db.outside user.id ↔
      ∀ after, view.dispatch user input db call = .ok after →
        after.outside user.id = db.outside user.id :=
  ViewSet.serve_iff (fun after : Database => after.outside user.id = db.outside user.id) rfl

/-- A permission that asks an object for its company never lets a company pass. -/
theorem not_finds_company {slugify : String → String} {user : User} {db : Database} {id : Uuid}
    {company : Company} {pk : String} :
    ¬ (companyViewSet slugify).Finds user .partialUpdate pk db id company := by
  intro found
  have permitted := found.permitted (isCompanyMember Company.company) (by simp [companyViewSet])
  cases permitted

/-- **Companies are isolated.**  A request to `CompanyViewSet` leaves all foreign rows
as they are. -/
theorem company_keeps (slugify : String → String) (user : User) (input : Input) (db : Database)
    (call : Call (CompanyColumns Entry)) :
    ((companyViewSet slugify).serve user input db call).outside user.id = db.outside user.id := by
  refine serve_outside.mpr fun after served => ?_
  cases call with
  | create data =>
      -- the new company belongs to the user who has created it
      obtain ⟨-, fields, -, created⟩ := ViewSet.dispatch_create.mp served
      obtain ⟨companies, saved, rfl⟩ := map_eq_ok.mp created
      have saved := mapError_eq_ok.mp saved
      simp only [Company.save, Bool.true_or, if_true] at saved
      split at saved
      · refine outside_of_created ?_ saved
        unfold Company.withSlug
        split <;> rfl
      · cases saved
  | update pk data =>
      obtain ⟨⟨-, refused⟩, -⟩ := ViewSet.change_eq_ok.mp served
      exact absurd refused (by simp [companyViewSet, method])
  -- no company ever passes `IsCompanyMember`
  | partialUpdate pk data =>
      obtain ⟨-, id, company, found, -⟩ := ViewSet.change_eq_ok.mp served
      exact absurd found not_finds_company
  | destroy pk =>
      obtain ⟨⟨-, refused⟩, -⟩ := ViewSet.dispatch_destroy.mp served
      exact absurd refused (by simp [companyViewSet, method])

/-- An event that the organizer looks up is of a company of theirs. -/
theorem own_of_finds {user : User} {action : Action} {pk : String} {db : Database} {id : Uuid}
    {event : Event} (found : organizerEventViewSet.Finds user action pk db id event) :
    db.events.get id = some event ∧ db.foreign user.id event.company = false := by
  obtain ⟨rows, queried, visible⟩ := found.visible
  cases queried
  obtain ⟨stored, owned⟩ := Option.filter_eq_some_iff.mp visible
  refine ⟨stored, ?_⟩
  cases row : db.companies.get event.company with
  | none => simp [Database.foreign, row]
  | some company =>
      have owner : company.owner = user.id := by simpa [row] using owned
      simp [Database.foreign, row, owner]

/-- `update` and `partial_update` of an event keep its company. -/
theorem event_change_keeps {user : User} {action : Action} {pk : String}
    {data : EventColumns Entry} {db after : Database}
    (changed : organizerEventViewSet.change action user pk data db = .ok after) :
    after.outside user.id = db.outside user.id := by
  obtain ⟨-, id, event, found, fields, -, written⟩ := ViewSet.change_eq_ok.mp changed
  obtain ⟨stored, own⟩ := own_of_finds found
  cases written
  refine outside_of_same rfl rfl (events_of_own stored own ?_ ?_) fun _ => rfl
  · intro other different
    exact Table.get_set_of_ne _ _ different
  · intro row there
    rw [Table.get_set_self] at there
    cases there
    rfl

/-- Deleting an event of one's own takes no foreign tier with it. -/
theorem event_delete_keeps {user : Uuid} {db after : Database} {id : Uuid} {event : Event}
    (stored : db.events.get id = some event) (own : db.foreign user event.company = false)
    (deleted : db.deleteEvents (· = id) = .ok after) : after.outside user = db.outside user := by
  obtain ⟨rest, tiers, rfl⟩ := map_eq_ok.mp deleted
  unfold Database.deleteTiers at tiers
  split at tiers
  · cases tiers
  · cases tiers
    refine outside_of_same rfl rfl (events_of_own stored own ?_ ?_) fun other => ?_
    · intro other different
      exact Table.get_filter_of_keep fun _ _ => by simp [different]
    · intro changed there
      simp at there
    · -- a tier that goes is of the event that goes
      cases present : db.tiers.get other with
      | none => simp [present]
      | some tier =>
          by_cases ofEvent : tier.event = id
          · simp [Option.filter, Database.foreignEvent, Database.tierOf, present, ofEvent, stored,
              own]
          · simp [Option.filter, Database.tierOf, present, ofEvent]

/-- **Events are isolated.**  A request to `OrganizerEventViewSet` leaves all foreign
rows as they are. -/
theorem event_keeps (user : User) (input : Input) (db : Database)
    (call : Call (EventColumns Entry)) :
    (organizerEventViewSet.serve user input db call).outside user.id = db.outside user.id := by
  refine serve_outside.mpr fun after served => ?_
  cases call with
  | create data =>
      -- no company is passed, and its column takes no null
      obtain ⟨-, fields, -, created⟩ := ViewSet.dispatch_create.mp served
      cases created
  | update pk data => exact event_change_keeps served
  | partialUpdate pk data => exact event_change_keeps served
  | destroy pk =>
      obtain ⟨-, id, event, found, deleted⟩ := ViewSet.dispatch_destroy.mp served
      obtain ⟨stored, own⟩ := own_of_finds found
      exact event_delete_keeps stored own deleted

/-! ## Tiers -/

section Tiers

variable {user : Uuid} {db : Database}

/-- A change of the tiers keeps the outside exactly when it keeps the foreign tiers. -/
theorem outside_tiers_iff {tiers : Table Uuid TicketTier} {holds : Table Uuid CheckoutHold} :
    ({ db with tiers, holds } : Database).outside user = db.outside user ↔
      ∀ id, ((tiers.get id).filter fun tier => db.foreignEvent user tier.event)
        = (db.tiers.get id).filter fun tier => db.foreignEvent user tier.event := by
  constructor
  · intro same id
    exact congrFun (congrArg Outside.tiers same) id
  · intro tiers
    exact outside_of_same rfl rfl (fun _ => rfl) tiers

/-- Writing one row under `id` keeps what `keep` sees exactly when the row does. -/
theorem filter_set_iff {tiers : Table Uuid TicketTier} {id : Uuid} {tier : TicketTier}
    {keep : TicketTier → Bool} :
    (∀ other, ((tiers.set id tier).get other).filter keep = (tiers.get other).filter keep) ↔
      (some tier).filter keep = (tiers.get id).filter keep := by
  constructor
  · intro same
    have here := same id
    rw [Table.get_set_self] at here
    exact here
  · intro here other
    by_cases isId : other = id
    · subst isId
      rw [Table.get_set_self, here]
    · rw [Table.get_set_of_ne _ _ isId]

/-- Two rows look the same when they are, or when neither is seen. -/
theorem filter_some_iff {old new : TicketTier} {keep : TicketTier → Bool} :
    (some new).filter keep = (some old).filter keep ↔
      (keep old = true ∨ keep new = true → new = old) := by
  cases before : keep old <;> cases after : keep new <;> simp [Option.filter, before, after]
  · intro same
    rw [same, before] at after
    cases after
  · rintro rfl
    rw [before] at after
    cases after

end Tiers

/-- A tier in the queryset is stored. -/
theorem stored_of_finds {eventId : Option String} {user : User} {action : Action} {pk : String}
    {db : Database} {id : Uuid} {tier : TicketTier}
    (found : (ticketTierViewSet eventId).Finds user action pk db id tier) :
    db.tiers.get id = some tier := by
  obtain ⟨rows, queried, visible⟩ := found.visible
  have active : ∀ tier, (db.tiers.get id).filter (·.isActive) = some tier →
      db.tiers.get id = some tier := fun tier kept => (Option.filter_eq_some_iff.mp kept).1
  simp only [ticketTierViewSet, tierQueryset] at queried
  split at queried
  · cases queried
    exact active tier visible
  · cases queried
    exact active tier visible
  · split at queried
    · cases queried
    · cases queried
      exact active tier (Option.filter_eq_some_iff.mp visible).1

/-- Validated data make a tier, of the event they name. -/
theorem create_of_validate {data : TierColumns Entry} {db : Database} {fields : TierColumns Option}
    (validated : data.validate false db = some fields) :
    ∃ event tier, fields.event = some event ∧ fields.create = some tier ∧ tier.event = event := by
  simp only [TierColumns.validate, Option.bind_eq_bind, Option.bind_eq_some_iff, Option.pure_def,
    Option.some.injEq] at validated
  obtain ⟨event, named, _, _, _, _, price, priced, _, _, total, counted, _, _, _, _, _, _, _, _,
    _, _, rfl⟩ := validated
  obtain ⟨event, rfl, -⟩ := Entry.validate_required named
  obtain ⟨price, rfl, -⟩ := Entry.validate_required priced
  obtain ⟨total, rfl, -⟩ := Entry.validate_required counted
  exact ⟨event, _, rfl, rfl, rfl⟩

/-- A `create` keeps the outside exactly when it names no foreign event, or draws an
id that is taken. -/
theorem tier_create_iff {eventId : Option String} {user : User} {input : Input} {db : Database}
    {data : TierColumns Entry} :
    ((ticketTierViewSet eventId).serve user input db (.create data)).outside user.id
        = db.outside user.id ↔
      Request.Keeps user db (.tier eventId (.create data), input) := by
  rw [serve_outside]
  constructor
  · intro kept allowed fields event validated named foreign
    by_contra fresh
    obtain ⟨event', tier, named', made, ofEvent⟩ := create_of_validate validated
    obtain rfl : event = event' := Option.some.inj (named.symm.trans named')
    have created : (ticketTierViewSet eventId).performCreate user input fields db
        = .ok { db with tiers := db.tiers.set input.uuid tier } := by
      simp only [ticketTierViewSet, Database.insertTier, made, if_neg fresh]
    have same := filter_set_iff.mp (outside_tiers_iff.mp
      (kept _ (ViewSet.dispatch_create.mpr ⟨allowed, fields, validated, created⟩)))
    simp [Option.filter, Option.not_isSome_iff_eq_none.mp fresh, ofEvent, foreign] at same
  · intro keeps after served
    obtain ⟨allowed, fields, validated, created⟩ := ViewSet.dispatch_create.mp served
    obtain ⟨event, tier, named, made, ofEvent⟩ := create_of_validate validated
    simp only [ticketTierViewSet, Database.insertTier, made] at created
    split at created
    · cases created
    · rename_i fresh
      cases created
      refine outside_tiers_iff.mpr (filter_set_iff.mpr ?_)
      have own : db.foreignEvent user.id tier.event = false := by
        rw [← Bool.not_eq_true, ofEvent]
        intro foreign
        exact fresh (keeps allowed fields event validated named foreign)
      simp [Option.filter, Option.not_isSome_iff_eq_none.mp fresh, own]

/-- The event after a change is foreign only where the old one or the named one is. -/
theorem foreign_write_iff {user : Uuid} {db : Database} {fields : TierColumns Option}
    {tier : TicketTier} :
    (db.foreignEvent user tier.event = true ∨
        db.foreignEvent user (fields.write tier).event = true) ↔
      (db.foreignEvent user tier.event = true ∨
        ∃ event, fields.event = some event ∧ db.foreignEvent user event = true) := by
  have written : (fields.write tier).event = fields.event.getD tier.event := rfl
  rw [written]
  cases fields.event with
  | none => simp
  | some event => simp

/-- An `update` or `partial_update` keeps the outside exactly when it changes no
foreign tier, and makes none. -/
theorem tier_change_iff {eventId : Option String} {user : User} {db : Database} {action : Action}
    {pk : String} {data : TierColumns Entry} :
    (∀ after, (ticketTierViewSet eventId).change action user pk data db = .ok after →
        after.outside user.id = db.outside user.id) ↔
      KeepsChange user db eventId action pk data := by
  constructor
  · intro kept allowed id tier fields found validated foreign
    have same := filter_set_iff.mp (outside_tiers_iff.mp
      (kept _ (ViewSet.change_eq_ok.mpr ⟨allowed, id, tier, found, fields, validated, rfl⟩)))
    rw [stored_of_finds found] at same
    exact filter_some_iff.mp same (foreign_write_iff.mpr foreign)
  · intro keeps after changed
    obtain ⟨allowed, id, tier, found, fields, validated, written⟩ :=
      ViewSet.change_eq_ok.mp changed
    cases written
    refine outside_tiers_iff.mpr (filter_set_iff.mpr ?_)
    rw [stored_of_finds found]
    refine filter_some_iff.mpr fun foreign => ?_
    exact keeps allowed id tier fields found validated (foreign_write_iff.mp foreign)

/-- A `destroy` keeps the outside exactly when its tier is not foreign, or protected. -/
theorem tier_destroy_iff {eventId : Option String} {user : User} {input : Input} {db : Database}
    {pk : String} :
    ((ticketTierViewSet eventId).serve user input db (.destroy pk)).outside user.id
        = db.outside user.id ↔
      Request.Keeps user db (.tier eventId (.destroy pk), input) := by
  rw [serve_outside]
  constructor
  · intro kept allowed id tier found foreign
    by_contra free
    have deleted : (ticketTierViewSet eventId).performDestroy id db
        = .ok { db with
          tiers := db.tiers.filter fun other _ => !decide (other = id)
          holds := db.holds.filter fun _ hold => !decide (hold.tierId = id) } := by
      simp only [ticketTierViewSet, Database.deleteTiers, if_neg free]
    have same := outside_tiers_iff.mp
      (kept _ (ViewSet.dispatch_destroy.mpr ⟨allowed, id, tier, found, deleted⟩)) id
    simp [Option.filter, stored_of_finds found, foreign] at same
  · intro keeps after served
    obtain ⟨allowed, id, tier, found, deleted⟩ := ViewSet.dispatch_destroy.mp served
    simp only [ticketTierViewSet, Database.deleteTiers] at deleted
    split at deleted
    · cases deleted
    · rename_i free
      cases deleted
      have own : db.foreignEvent user.id tier.event = false := by
        rw [← Bool.not_eq_true]
        intro foreign
        exact free (keeps allowed id tier found foreign)
      refine outside_tiers_iff.mpr fun other => ?_
      by_cases isId : other = id
      · subst isId
        simp [Option.filter, stored_of_finds found, own]
      · rw [Table.get_filter_of_keep fun _ _ => by simp [isId]]

/-! ## Runs -/

/-- A request keeps the outside exactly when it keeps its condition. -/
theorem Request.outside_iff (slugify : String → String) (user : User) (db : Database)
    (request : Request × Input) :
    (Request.serve slugify user db request).outside user.id = db.outside user.id ↔
      Request.Keeps user db request := by
  obtain ⟨request, input⟩ := request
  cases request with
  | company call => exact iff_of_true (company_keeps slugify user input db call) trivial
  | event call => exact iff_of_true (event_keeps user input db call) trivial
  | tier eventId call =>
      cases call with
      | create data => exact tier_create_iff
      | update pk data => exact serve_outside.trans tier_change_iff
      | partialUpdate pk data => exact serve_outside.trans tier_change_iff
      | destroy pk => exact tier_destroy_iff

/-- A request to the tiers writes no other table that decides what is foreign. -/
theorem tier_writes (eventId : Option String) (user : User) (input : Input) (db : Database)
    (call : Call (TierColumns Entry)) :
    let after := (ticketTierViewSet eventId).serve user input db call
    after.companies = db.companies ∧ after.members = db.members ∧ after.events = db.events := by
  have changed {action : Action} {pk : String} {data : TierColumns Entry} {after : Database}
      (served : (ticketTierViewSet eventId).change action user pk data db = .ok after) :
      after.companies = db.companies ∧ after.members = db.members ∧ after.events = db.events := by
    obtain ⟨-, id, tier, -, fields, -, written⟩ := ViewSet.change_eq_ok.mp served
    cases written
    exact ⟨rfl, rfl, rfl⟩
  refine (ViewSet.serve_iff (fun after : Database => after.companies = db.companies ∧
    after.members = db.members ∧ after.events = db.events) ⟨rfl, rfl, rfl⟩).mpr
    fun after served => ?_
  cases call with
  | create data =>
      obtain ⟨-, fields, -, created⟩ := ViewSet.dispatch_create.mp served
      simp only [ticketTierViewSet, Database.insertTier] at created
      split at created
      · cases created
      · split at created
        · cases created
        · cases created
          exact ⟨rfl, rfl, rfl⟩
  | update pk data => exact changed served
  | partialUpdate pk data => exact changed served
  | destroy pk =>
      obtain ⟨-, id, tier, -, deleted⟩ := ViewSet.dispatch_destroy.mp served
      simp only [ticketTierViewSet, Database.deleteTiers] at deleted
      split at deleted
      · cases deleted
      · cases deleted
        exact ⟨rfl, rfl, rfl⟩

/-- No request changes a foreign company or event, nor adds one. -/
theorem Request.keeps_events (slugify : String → String) (user : User) (db : Database)
    (request : Request × Input) :
    let after := Request.serve slugify user db request
    (after.outside user.id).companies = (db.outside user.id).companies ∧
      (after.outside user.id).events = (db.outside user.id).events := by
  obtain ⟨request, input⟩ := request
  cases request with
  | company call =>
      have same := company_keeps slugify user input db call
      exact ⟨congrArg Outside.companies same, congrArg Outside.events same⟩
  | event call =>
      have same := event_keeps user input db call
      exact ⟨congrArg Outside.companies same, congrArg Outside.events same⟩
  | tier eventId call =>
      obtain ⟨companies, members, events⟩ := tier_writes eventId user input db call
      have foreign := foreign_of_same user.id companies members
      simp only [Request.serve, Database.outside, foreign, companies, events, and_self]

/-- **Tenant isolation of writes.**  Throughout a run of requests of a user, the rows
of foreign companies are as they were at the start and no tier has come to them,
if and only if each request to the tiers keeps its condition. -/
theorem writes_isolated_iff (slugify : String → String) (user : User)
    (requests : List (Request × Input)) (db : Database) :
    (∀ later ∈ trail (Request.serve slugify user) requests db, Isolated user.id db later) ↔
      EachStep (Request.serve slugify user) (Request.Keeps user) requests db := by
  rw [← view_constant_iff (·.outside user.id) (Request.outside_iff slugify user)]
  have fixed := trail_of_step
    (fun later => (later.outside user.id).companies = (db.outside user.id).companies ∧
      (later.outside user.id).events = (db.outside user.id).events)
    (fun state request same =>
      have step := Request.keeps_events slugify user state request
      ⟨step.1.trans same.1, step.2.trans same.2⟩) requests ⟨rfl, rfl⟩
  refine forall₂_congr fun later inside => ?_
  exact isolated_iff (fixed later inside).1 (fixed later inside).2

/-! ### Reaching over -/

namespace Sample

/-- Fixed identifiers. -/
abbrev id (n : ℕ) : Uuid := .ofNat n

/-- The first organizer. -/
def organizer : User := { id := id 1, role := .organizer }

/-- A tier of the second organizer's event. -/
def vip : TicketTier := { event := id 200, quantityTotal := 100, name := "VIP", price := 500000 }

/-- Two companies of two organizers; the second has an event with a tier. -/
def catalog : Database where
  companies :=
    { rows := [(id 10, { name := "Alpha", slug := "alpha", owner := id 1 }),
        (id 20, { name := "Beta", slug := "beta", owner := id 2 })]
      ids_nodup := by decide
      slugs_nodup := by decide }
  members := {⟨id 10, id 1⟩, ⟨id 20, id 2⟩}
  events := Table.empty.set (id 200)
    { company := id 20, title := "Secret", venueName := "Venue B", createdAt := 0 }
  dates := .empty
  tiers := Table.empty.set (id 2000) vip
  holds := .empty
  payments := .empty
  tickets := .empty

/-- No field is given. -/
def nothing : TierColumns Entry :=
  ⟨.missing, .missing, .missing, .missing, .missing, .missing, .missing, .missing, .missing,
    .missing, .missing⟩

/-- A new tier of the other organizer's event. -/
def create : Request × Input :=
  (.tier none (.create { nothing with
    event := .given (id 200), name := .given "Free", price := .given 0,
    quantityTotal := .given 10 }), ⟨0, id 2001⟩)

/-- A new price for the other organizer's tier. -/
def reprice : Request × Input :=
  (.tier none (.partialUpdate (id 2000).str { nothing with price := .given 0 }), ⟨0, id 2001⟩)

/-- The other organizer's tier is deleted. -/
def destroy : Request × Input := (.tier none (.destroy (id 2000).str), ⟨0, id 2001⟩)

end Sample

/-- **Another tenant's tiers.**  An organizer adds a tier to an event of a foreign
company, changes the price of its tier, and deletes it. -/
theorem tiers_of_another_company :
    Sample.catalog.foreign Sample.organizer.id (Sample.id 20) = true ∧
      ∀ request ∈ [Sample.create, Sample.reprice, Sample.destroy],
        ¬ Isolated Sample.organizer.id Sample.catalog
          (Request.serve (fun name => name) Sample.organizer Sample.catalog request) := by
  have changed {after : Database} (isolated : Isolated Sample.organizer.id Sample.catalog after) :
      after.tiers.get (Sample.id 2000) = some Sample.vip :=
    isolated.tiers _ _ (by decide +kernel) (by decide +kernel)
  refine ⟨by decide +kernel, ?_⟩
  simp only [List.forall_mem_cons]
  refine ⟨fun isolated => ?_, fun isolated => ?_, fun isolated => ?_, List.forall_mem_nil _⟩
  · -- the new tier has no old one under its id
    obtain ⟨old, stored, -⟩ := isolated.added (Sample.id 2001)
      { event := Sample.id 200, quantityTotal := 10, name := "Free", price := 0 }
      (by decide +kernel) (by decide +kernel)
    have absent : Sample.catalog.tiers.get (Sample.id 2001) = none := by decide +kernel
    rw [absent] at stored
    cases stored
  · have kept := changed isolated
    revert kept
    decide +kernel
  · have kept := changed isolated
    revert kept
    decide +kernel

end Ticketing.Catalog
