import Ticketing.Catalog.Models

/-!
# The viewsets of the catalog

`companies/views.py`, `events/views.py` (the organizer's side) and
`inventory/views.py`, with the serializers they write through.

## Main Definitions

* `CompanyColumns`, `EventColumns`, `TierColumns` — the writable fields of the serializers
* `companyViewSet`, `organizerEventViewSet`, `ticketTierViewSet` — the viewsets
* `Request` — a request that writes, to one of the three

## Design Notes

The same columns stand for the request data (`Entry`) and for the validated data
(`Option`: a field that is absent is not written).  What a field reads has been
stripped and parsed already; the checks that remain are the lengths and bounds, the
required fields and the lookup of a foreign key.  Responses are left out but for the reason
of a refusal.
-/

namespace Ticketing.Catalog

open Transactional Rest

/-- What a request takes from its surroundings: the clock, and the next random identifier. -/
structure Input where
  now : Time
  uuid : Uuid

/-! ## Fields -/

/-- A `CharField` with `max_length`. -/
def text (maxLength : ℕ) (value : String) : Bool := value ≠ "" && value.length ≤ maxLength

/-- A text with `max_length` that may be blank. -/
def blankText (maxLength : ℕ) (value : String) : Bool := value.length ≤ maxLength

/-- A decimal with two places, in hundredths. -/
def decimal (maxDigits : ℕ) (value : ℤ) : Bool := value.natAbs < 10 ^ maxDigits

/-- A `PositiveIntegerField`: the serializer takes the bound from the column. -/
def positiveInteger (value : ℕ) : Bool := value ≤ 2147483647

/-- A field without checks of its own. -/
def unchecked {α : Type} (_ : α) : Bool := true

/-! ## Companies -/

/-- The writable fields of `CompanySerializer` and `CompanyCreateSerializer`. -/
structure CompanyColumns (F : Type → Type) where
  name : F String
  timezone : F String
  logoUrl : F String
  primaryColor : F String

namespace CompanyColumns

/-- `is_valid` of both serializers. -/
def validate (isPartial : Bool) (data : CompanyColumns Entry) : Option (CompanyColumns Option) := do
  return {
    name := ← data.name.validate (!isPartial) (text 200)
    timezone := ← data.timezone.validate false (text 50)
    logoUrl := ← data.logoUrl.validate false (blankText 200)
    primaryColor := ← data.primaryColor.validate false (text 7) }

/-- The company with the validated values. -/
def write (fields : CompanyColumns Option) (company : Company) : Company :=
  { company with
    name := fields.name.getD company.name
    timezone := fields.timezone.getD company.timezone
    logoUrl := fields.logoUrl.getD company.logoUrl
    primaryColor := fields.primaryColor.getD company.primaryColor }

end CompanyColumns

/-- The HTTP method of an action. -/
def method : Action → String
  | .list => "get"
  | .retrieve => "get"
  | .create => "post"
  | .update => "put"
  | .partialUpdate => "patch"
  | .destroy => "delete"

/-- `Company.save`, on the tables. -/
def Database.saveCompany (slugify : String → String) (company : CompanyInstance) (db : Database) :
    Except DatabaseError Database :=
  ((Company.save slugify company db.companies).mapError .ofCompany).map fun companies =>
    { db with companies }

/-- A `Company` has no attribute `company`. -/
def Company.company (_ : Company) : Option Uuid := none

/-- `CompanyViewSet`. -/
def companyViewSet (slugify : String → String) :
    ViewSet User Input Database Uuid Company (CompanyColumns Entry) (CompanyColumns Option)
      DatabaseError where
  parseKey := Uuid.parse
  isAuthenticated := User.isAuthenticated
  methods action := ["get", "post", "patch", "head", "options"].contains (method action)
  getPermissions
    | .create => [isAuthenticated, isOrganizer]
    | .update | .partialUpdate | .destroy => [isAuthenticated, isCompanyMember Company.company]
    | _ => [isAuthenticated]
  getQueryset db user := .ok fun id =>
    (db.companies.get id).filter fun company => db.isMember id user.id && company.isActive
  validate action _ data := data.validate (action = .partialUpdate)
  performCreate user input fields db :=
    -- `CompanyCreateSerializer.create` passes the owner, and adds no membership
    let company := fields.write { name := "", owner := user.id }
    db.saveCompany slugify { id := input.uuid, fields := company, adding := true }
  performUpdate id company fields db :=
    db.saveCompany slugify { id, fields := fields.write company, adding := false }
  performDestroy := Database.deleteCompany

/-! ## Events -/

/-- The writable fields of `EventSerializer`. -/
structure EventColumns (F : Type → Type) where
  title : F String
  description : F String
  venueName : F String
  venueAddress : F String
  capacity : F ℕ
  status : F EventStatus
  coverImageUrl : F String
  timezone : F String

namespace EventColumns

/-- `is_valid` of `EventSerializer`. -/
def validate (isPartial : Bool) (data : EventColumns Entry) : Option (EventColumns Option) := do
  return {
    title := ← data.title.validate (!isPartial) (text 300)
    description := ← data.description.validate false unchecked
    venueName := ← data.venueName.validate (!isPartial) (text 200)
    venueAddress := ← data.venueAddress.validate false unchecked
    capacity := ← data.capacity.validate false positiveInteger
    status := ← data.status.validate false unchecked
    coverImageUrl := ← data.coverImageUrl.validate false (blankText 200)
    timezone := ← data.timezone.validate false (text 50) }

/-- The event with the validated values. -/
def write (fields : EventColumns Option) (event : Event) : Event :=
  { event with
    title := fields.title.getD event.title
    description := fields.description.getD event.description
    venueName := fields.venueName.getD event.venueName
    venueAddress := fields.venueAddress.getD event.venueAddress
    capacity := fields.capacity.getD event.capacity
    status := fields.status.getD event.status
    coverImageUrl := fields.coverImageUrl.getD event.coverImageUrl
    timezone := fields.timezone.getD event.timezone }

/-- A new event of `company`; the company's column does not take a null. -/
def create (fields : EventColumns Option) (company : Option Uuid) (now : Time) : Option Event :=
  company.map fun company =>
    fields.write { company, title := "", venueName := "", createdAt := now }

end EventColumns

/-- INSERT of an event. -/
def Database.insertEvent (id : Uuid) (event : Option Event) (db : Database) :
    Except DatabaseError Database :=
  match event with
  | none => .error .integrity
  | some event =>
      if (db.events.get id).isSome then .error .integrity
      else .ok { db with events := db.events.set id event }

/-- `OrganizerEventViewSet`.  `serializer.save()` passes no company, and the
serializer reads none. -/
def organizerEventViewSet :
    ViewSet User Input Database Uuid Event (EventColumns Entry) (EventColumns Option)
      DatabaseError where
  parseKey := Uuid.parse
  isAuthenticated := User.isAuthenticated
  getPermissions _ := [isAuthenticated, isOrganizer]
  getQueryset db user := .ok fun id => (db.events.get id).filter fun event =>
    (db.companies.get event.company).any (·.owner = user.id)
  validate action _ data := data.validate (action = .partialUpdate)
  performCreate _ input fields db := db.insertEvent input.uuid (fields.create none input.now)
  performUpdate id event fields db :=
    .ok { db with events := db.events.set id (fields.write event) }
  performDestroy id db := db.deleteEvents (· = id)

/-! ## Ticket tiers -/

/-- The writable fields of `TicketTierSerializer`. -/
structure TierColumns (F : Type → Type) where
  event : F Uuid
  name : F String
  description : F String
  price : F ℤ
  currency : F String
  quantityTotal : F ℕ
  maxPerOrder : F ℕ
  saleStartsAt : F (Option Time)
  saleEndsAt : F (Option Time)
  isActive : F Bool
  sortOrder : F ℕ

namespace TierColumns

/-- `is_valid` of `TicketTierSerializer`: any event there is may be named. -/
def validate (isPartial : Bool) (db : Database) (data : TierColumns Entry) :
    Option (TierColumns Option) := do
  return {
    event := ← data.event.validate (!isPartial) fun event => (db.events.get event).isSome
    name := ← data.name.validate (!isPartial) (text 100)
    description := ← data.description.validate false unchecked
    price := ← data.price.validate (!isPartial) (decimal 10)
    currency := ← data.currency.validate false (text 3)
    quantityTotal := ← data.quantityTotal.validate (!isPartial) positiveInteger
    maxPerOrder := ← data.maxPerOrder.validate false positiveInteger
    saleStartsAt := ← data.saleStartsAt.validate false unchecked
    saleEndsAt := ← data.saleEndsAt.validate false unchecked
    isActive := ← data.isActive.validate false unchecked
    sortOrder := ← data.sortOrder.validate false positiveInteger }

/-- The tier with the validated values. -/
def write (fields : TierColumns Option) (tier : TicketTier) : TicketTier :=
  { tier with
    event := fields.event.getD tier.event
    name := fields.name.getD tier.name
    description := fields.description.getD tier.description
    price := fields.price.getD tier.price
    currency := fields.currency.getD tier.currency
    quantityTotal := fields.quantityTotal.getD tier.quantityTotal
    maxPerOrder := fields.maxPerOrder.getD tier.maxPerOrder
    saleStartsAt := fields.saleStartsAt.getD tier.saleStartsAt
    saleEndsAt := fields.saleEndsAt.getD tier.saleEndsAt
    isActive := fields.isActive.getD tier.isActive
    sortOrder := fields.sortOrder.getD tier.sortOrder }

/-- A new tier; the columns without a default do not take a null. -/
def create (fields : TierColumns Option) : Option TicketTier := do
  let event ← fields.event
  let price ← fields.price
  let quantityTotal ← fields.quantityTotal
  return fields.write { event, price, quantityTotal, name := "" }

end TierColumns

/-- INSERT of a tier, whose event the serializer has looked up. -/
def Database.insertTier (id : Uuid) (tier : Option TicketTier) (db : Database) :
    Except DatabaseError Database :=
  match tier with
  | none => .error .integrity
  | some tier =>
      if (db.tiers.get id).isSome then .error .integrity
      else .ok { db with tiers := db.tiers.set id tier }

/-- `TicketTierViewSet.get_queryset`: the active tiers, those of one event where the
query asks for it. -/
def tierQueryset (eventId : Option String) (db : Database) :
    Except DatabaseError (Uuid → Option TicketTier) :=
  let active := fun id => (db.tiers.get id).filter (·.isActive)
  match eventId with
  | none => .ok active
  -- an empty `event_id` is falsy
  | some "" => .ok active
  | some eventId =>
      match Uuid.parse eventId with
      | none => .error (.invalidUuid eventId)
      | some event => .ok fun id => (active id).filter (·.event = event)

/-- `TicketTierViewSet`, where the query parameter `event_id` is `eventId`. -/
def ticketTierViewSet (eventId : Option String) :
    ViewSet User Input Database Uuid TicketTier (TierColumns Entry) (TierColumns Option)
      DatabaseError where
  parseKey := Uuid.parse
  isAuthenticated := User.isAuthenticated
  getPermissions
    | .create | .update | .partialUpdate | .destroy => [isAuthenticated, isOrganizer]
    | _ => [allowAny]
  getQueryset db _ := tierQueryset eventId db
  validate action db data := data.validate (action = .partialUpdate) db
  performCreate _ input fields db := db.insertTier input.uuid fields.create
  performUpdate id tier fields db := .ok { db with tiers := db.tiers.set id (fields.write tier) }
  performDestroy id db := db.deleteTiers (· = id)

/-! ## Requests -/

/-- A request that writes. -/
inductive Request
  | company (call : Call (CompanyColumns Entry))
  | event (call : Call (EventColumns Entry))
  | tier (eventId : Option String) (call : Call (TierColumns Entry))

/-- The tables after a request of `user`. -/
def Request.serve (slugify : String → String) (user : User) (db : Database)
    (request : Request × Input) : Database :=
  match request with
  | (.company call, input) => (companyViewSet slugify).serve user input db call
  | (.event call, input) => organizerEventViewSet.serve user input db call
  | (.tier eventId call, input) => (ticketTierViewSet eventId).serve user input db call

end Ticketing.Catalog
