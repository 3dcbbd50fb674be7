import Ticketing.Rest.ViewSet
import Ticketing.Companies.Models
import Ticketing.Checkout.Store

/-!
# The catalog

Users, companies with their members, events and ticket tiers: the models that
organizers maintain over the API, what deleting one of their rows takes with it,
and the permissions of `core/permissions.py`.

## Main Definitions

* `User`, `CompanyMember`, `Event`, `EventDate`, `TicketTier` — the rows
* `Database` — the tables
* `Database.deleteTiers`, `Database.deleteEvents`, `Database.deleteCompany` — `delete()`, with
  the `on_delete` of every foreign key that is followed
* `isAuthenticated`, `isOrganizer`, `isCompanyMember` — the permissions

## Design Notes

Columns that no modelled function reads are left out.  Of payments and tickets
only the foreign keys count here: they are what protects a row from deletion.
A hold is named by its token.
-/

namespace Ticketing.Catalog

open Transactional Rest

/-! ## Rows -/

inductive UserRole
  | organizer
  | staff
  | attendee
  deriving DecidableEq

/-- The text a role is stored as. -/
def UserRole.value : UserRole → String
  | .organizer => "organizer"
  | .staff => "staff"
  | .attendee => "attendee"

/-- `request.user`. -/
structure User where
  id : Uuid
  isAuthenticated : Bool := true
  role : UserRole := .attendee

/-- A row of `companies_member`; a user is a member of a company once at most. -/
structure CompanyMember where
  company : Uuid
  user : Uuid
  deriving DecidableEq

inductive EventStatus
  | draft
  | published
  | cancelled
  | completed
  deriving DecidableEq

/-- A row of `events_event`, keyed by its id. -/
structure Event where
  company : Uuid
  title : String
  description : String := ""
  venueName : String
  venueAddress : String := ""
  capacity : ℕ := 0
  status : EventStatus := .draft
  coverImageUrl : String := ""
  timezone : String := "Africa/Nairobi"
  createdAt : Time
  deriving DecidableEq

/-- A row of `events_date`, keyed by its id. -/
structure EventDate where
  event : Uuid
  startDatetime : Time
  endDatetime : Time
  doorsOpen : Option Time := none
  label : String := ""

/-- A row of `inventory_tier`, keyed by its id: the counters, and what is offered. -/
structure TicketTier extends Ticketing.TicketTier where
  name : String
  description : String := ""
  /-- In hundredths. -/
  price : ℤ
  currency : String := "KES"
  maxPerOrder : ℕ := 10
  saleStartsAt : Option Time := none
  saleEndsAt : Option Time := none
  isActive : Bool := true
  sortOrder : ℕ := 0
  deriving DecidableEq

/-- `TicketTier.is_on_sale`, where `timezone.now()` is `now`. -/
def TicketTier.isOnSale (tier : TicketTier) (now : Time) : Bool :=
  if tier.saleStartsAt.any (now < ·) then false
  else if tier.saleEndsAt.any (now > ·) then false
  else tier.isActive && 0 < tier.quantityAvailable

/-- The foreign keys of a row of `payments_payment`. -/
structure PaymentKeys where
  hold : Option Uuid
  company : Uuid

/-- The foreign keys of a row of `tickets_ticket`. -/
structure TicketKeys where
  hold : Option Uuid
  tier : Uuid

/-- The tables. -/
structure Database where
  companies : CompanyTable
  members : Finset CompanyMember
  events : Table Uuid Event
  dates : Table Uuid EventDate
  tiers : Table Uuid TicketTier
  holds : Table Uuid CheckoutHold
  payments : Table Uuid PaymentKeys
  tickets : Table Uuid TicketKeys

/-- What the database and Django's models refuse. -/
inductive DatabaseError
  /-- `IntegrityError`: a second row under a key, a missing value. -/
  | integrity
  /-- `DataError`: a text too long for its column. -/
  | tooLong
  /-- `ProtectedError`: a row that other rows need. -/
  | protectedRow
  /-- `ValidationError`: the text is not a UUID. -/
  | invalidUuid (text : String)
  deriving DecidableEq

/-- What the database refuses of a company. -/
def DatabaseError.ofCompany : CompanyError → DatabaseError
  | .integrity => .integrity
  | .tooLong => .tooLong

namespace Database

/-- `CompanyMember.objects.filter(company=company, user=user).exists()`. -/
def isMember (db : Database) (company user : Uuid) : Bool := decide (⟨company, user⟩ ∈ db.members)

/-! ## Deletion -/

/-- The hold with this token is of a tier in `gone`. -/
def holdOf (db : Database) (gone : Uuid → Bool) (token : Uuid) : Bool :=
  (db.holds.get token).any fun hold => gone hold.tierId

/-- A ticket of a tier in `gone`, or a payment or a ticket for a hold of one, forbids
the deletion of these tiers. -/
def protectsTiers (db : Database) (gone : Uuid → Bool) : Bool :=
  db.tickets.any (fun ticket => gone ticket.tier || ticket.hold.any (db.holdOf gone)) ||
    db.payments.any fun payment => payment.hold.any (db.holdOf gone)

/-- `delete()` of the tiers in `gone`: their holds go with them. -/
def deleteTiers (gone : Uuid → Bool) (db : Database) : Except DatabaseError Database :=
  if db.protectsTiers gone then .error .protectedRow
  else .ok { db with
    tiers := db.tiers.filter fun id _ => !gone id
    holds := db.holds.filter fun _ hold => !gone hold.tierId }

/-- The tier is of an event in `gone`. -/
def tierOf (db : Database) (gone : Uuid → Bool) (id : Uuid) : Bool :=
  (db.tiers.get id).any fun tier => gone tier.event

/-- `delete()` of the events in `gone`: their dates and tiers go with them. -/
def deleteEvents (gone : Uuid → Bool) (db : Database) : Except DatabaseError Database :=
  (db.deleteTiers (db.tierOf gone)).map fun rest =>
    { rest with
      events := db.events.filter fun id _ => !gone id
      dates := db.dates.filter fun _ date => !gone date.event }

/-- `delete()` of a company: its members and events go with it. -/
def deleteCompany (id : Uuid) (db : Database) : Except DatabaseError Database :=
  if db.payments.any fun payment => payment.company = id then .error .protectedRow
  else (db.deleteEvents fun event => (db.events.get event).any (·.company = id)).map fun rest =>
    { rest with
      companies := db.companies.erase id
      members := db.members.filter (·.company ≠ id) }

end Database

/-! ## Permissions -/

section Permissions

variable {Row : Type}

/-- `IsAuthenticated`. -/
def isAuthenticated : Permission User Database Row where
  hasPermission user := user.isAuthenticated

/-- `AllowAny`. -/
def allowAny : Permission User Database Row where

/-- `IsOrganizer`. -/
def isOrganizer : Permission User Database Row where
  message := some "Organizer role required."
  hasPermission user := user.isAuthenticated && user.role.value == "organizer"

/-- `IsCompanyMember`; `company` is the attribute of that name, where the object has one. -/
def isCompanyMember (company : Row → Option Uuid) : Permission User Database Row where
  message := some "Not a member of this company."
  hasObjectPermission db user row := (company row).any fun company => db.isMember company user.id

end Permissions

end Ticketing.Catalog
