import Ticketing.Catalog.Views
import Ticketing.Rest.Page

/-!
# What the public reads

`PublicEventListView` of `events/views.py` and the reading side of `TicketTierViewSet` of
`inventory/views.py`, with what their serializers show.

## Main Definitions

* `Surroundings` — what an answer depends on besides the tables
* `EventData`, `TierData` — what is shown of an event, and of a tier
* `publicEvents` — the queryset of `PublicEventListView` behind its filters
* `PublicRequest`, `respond` — an anonymous request, and its answer

## Design Notes

The database returns the rows of a query in an order of its own, which may depend on the
rows it has found; what the query asks to be sorted is sorted after that.  What the
framework makes of a search text, and what `icontains` means to the database, are parameters.
-/

namespace Ticketing.Catalog

open Transactional Rest

/-! ## Surroundings -/

/-- What an answer depends on besides the tables. -/
structure Surroundings where
  /-- `timezone.now()`. -/
  now : Time
  /-- The order in which the database returns the rows with these ids. -/
  order : List Uuid → List Uuid
  order_perm : ∀ ids, (order ids).Perm ids
  /-- `int(text)`. -/
  parseInt : String → Option ℤ
  /-- `SearchFilter.get_search_terms`; `none` for a text it refuses. -/
  searchTerms : String → Option (List String)
  searchTerms_empty : searchTerms "" = some []
  /-- `column__icontains=term`. -/
  icontains : String → String → Bool

/-- `PAGE_SIZE`. -/
def pageSize : ℕ := 20

/-- An anonymous visitor. -/
def anonymous : User := { id := .ofNat 0, isAuthenticated := false }

section Answers

variable (surroundings : Surroundings)

/-- The rows that a query finds, in the order of the database. -/
def fetch {V W : Type} (table : Table Uuid V) (rows : Uuid → Option W) : List (Uuid × W) :=
  (surroundings.order (table.select rows)).filterMap fun id => (rows id).map (id, ·)

/-- The page of a list that a query asks for, serialized. -/
def answerPage {Row Data : Type} (page : Option String) (serialize : Row → Data)
    (rows : List Row) : Except (Refusal DatabaseError) (Page Data) :=
  match paginate pageSize surroundings.parseInt page rows with
  | none => .error .notFound
  | some found => .ok (found.map serialize)

/-! ## Events -/

/-- The fields of `EventDateSerializer`. -/
structure DateData where
  id : Uuid
  startDatetime : Time
  endDatetime : Time
  doorsOpen : Option Time
  label : String
  deriving DecidableEq

/-- The fields of `EventSerializer`. -/
structure EventData where
  id : Uuid
  company : Uuid
  title : String
  description : String
  venueName : String
  venueAddress : String
  capacity : ℕ
  status : EventStatus
  coverImageUrl : String
  timezone : String
  dates : List DateData
  createdAt : Time
  deriving DecidableEq

/-- `EventDateSerializer`. -/
def dateData (row : Uuid × EventDate) : DateData where
  id := row.1
  startDatetime := row.2.startDatetime
  endDatetime := row.2.endDatetime
  doorsOpen := row.2.doorsOpen
  label := row.2.label

/-- The dates of an event. -/
def Database.datesOf (db : Database) (event : Uuid) (id : Uuid) : Option EventDate :=
  (db.dates.get id).filter (·.event = event)

/-- `event.dates.all()`, by `Meta.ordering` sorted by their start. -/
def dates (db : Database) (event : Uuid) : List (Uuid × EventDate) :=
  (fetch surroundings db.dates (db.datesOf event)).mergeSort fun first second =>
    first.2.startDatetime ≤ second.2.startDatetime

/-- `EventSerializer`. -/
def eventData (db : Database) (row : Uuid × Event) : EventData where
  id := row.1
  company := row.2.company
  title := row.2.title
  description := row.2.description
  venueName := row.2.venueName
  venueAddress := row.2.venueAddress
  capacity := row.2.capacity
  status := row.2.status
  coverImageUrl := row.2.coverImageUrl
  timezone := row.2.timezone
  dates := (dates surroundings db row.1).map dateData
  createdAt := row.2.createdAt

/-- The query parameters that `PublicEventListView` reads. -/
structure EventQuery where
  company : Option String := none
  search : Option String := none
  page : Option String := none

/-- `Event.objects.filter(status=EventStatus.PUBLISHED)`. -/
def Database.publishedEvent (db : Database) (id : Uuid) : Option Event :=
  (db.events.get id).filter (·.status = .published)

/-- Each term is part of the title or of the name of the venue. -/
def matchesAll (terms : List String) (event : Event) : Bool :=
  terms.all fun term =>
    surroundings.icontains event.title term || surroundings.icontains event.venueName term

/-- `DjangoFilterBackend` with the field `company`: an empty text filters nothing, any other
has to name a company. -/
def filterCompany (db : Database) (company : Option String) (rows : Uuid → Option Event) :
    Except (Refusal DatabaseError) (Uuid → Option Event) :=
  match company with
  | none => .ok rows
  | some text =>
      if text = "" then .ok rows
      else
        -- a `ModelChoiceFilter` looks the company up, inactive ones included
        match (Uuid.parse text).filter fun id => (db.companies.get id).isSome with
        | none => .error .invalid
        | some company => .ok fun id => (rows id).filter (·.company = company)

/-- `SearchFilter`. -/
def filterSearch (search : Option String) (rows : Uuid → Option Event) :
    Except (Refusal DatabaseError) (Uuid → Option Event) :=
  match surroundings.searchTerms (search.getD "") with
  | none => .error .invalid
  | some terms => .ok fun id => (rows id).filter (matchesAll surroundings terms)

/-- `filter_queryset(get_queryset())` of `PublicEventListView`. -/
def publicEvents (query : EventQuery) (db : Database) :
    Except (Refusal DatabaseError) (Uuid → Option Event) := do
  let rows ← filterCompany db query.company db.publishedEvent
  filterSearch surroundings query.search rows

/-- `PublicEventListView.list`. -/
def listEvents (query : EventQuery) (db : Database) :
    Except (Refusal DatabaseError) (Page EventData) := do
  let rows ← publicEvents surroundings query db
  answerPage surroundings query.page (eventData surroundings db) (fetch surroundings db.events rows)

/-- `PublicEventListView.retrieve`. -/
def retrieveEvent (pk : String) (query : EventQuery) (db : Database) :
    Except (Refusal DatabaseError) EventData := do
  let rows ← publicEvents surroundings query db
  match (Uuid.parse pk).bind fun id => (rows id).map (id, ·) with
  | none => .error .notFound
  | some row => .ok (eventData surroundings db row)

/-! ## Tiers -/

/-- The fields of `TicketTierSerializer`. -/
structure TierData where
  id : Uuid
  event : Uuid
  name : String
  description : String
  price : ℤ
  currency : String
  quantityTotal : ℕ
  quantityAvailable : ℤ
  maxPerOrder : ℕ
  saleStartsAt : Option Time
  saleEndsAt : Option Time
  isActive : Bool
  isOnSale : Bool
  sortOrder : ℕ
  deriving DecidableEq

/-- `TicketTierSerializer`. -/
def tierData (row : Uuid × TicketTier) : TierData where
  id := row.1
  event := row.2.event
  name := row.2.name
  description := row.2.description
  price := row.2.price
  currency := row.2.currency
  quantityTotal := row.2.quantityTotal
  quantityAvailable := row.2.quantityAvailable
  maxPerOrder := row.2.maxPerOrder
  saleStartsAt := row.2.saleStartsAt
  saleEndsAt := row.2.saleEndsAt
  isActive := row.2.isActive
  isOnSale := row.2.isOnSale surroundings.now
  sortOrder := row.2.sortOrder

/-- `Meta.ordering` of the tiers: by `sort_order`, then by `price`. -/
def sortedBefore (first second : ℕ × ℤ) : Bool :=
  first.1 < second.1 || (first.1 = second.1 && first.2 ≤ second.2)

/-- `TicketTierViewSet.list`, for a visitor. -/
def listTiers (eventId page : Option String) (db : Database) :
    Except (Refusal DatabaseError) (Page TierData) := do
  let rows ← (ticketTierViewSet eventId).listed anonymous db
  answerPage surroundings page (tierData surroundings)
    ((fetch surroundings db.tiers rows).mergeSort fun first second =>
      sortedBefore (first.2.sortOrder, first.2.price) (second.2.sortOrder, second.2.price))

/-- `TicketTierViewSet.retrieve`, for a visitor. -/
def retrieveTier (pk : String) (eventId : Option String) (db : Database) :
    Except (Refusal DatabaseError) TierData := do
  let row ← (ticketTierViewSet eventId).object .retrieve anonymous pk db
  return tierData surroundings row

/-! ## Requests -/

/-- An anonymous request that reads, with the query parameters that are looked at. -/
inductive PublicRequest
  | listEvents (query : EventQuery)
  | retrieveEvent (pk : String) (query : EventQuery)
  | listTiers (eventId page : Option String)
  | retrieveTier (pk : String) (eventId : Option String)

/-- The answer to an anonymous request. -/
inductive PublicResponse
  | events (answer : Except (Refusal DatabaseError) (Page EventData))
  | event (answer : Except (Refusal DatabaseError) EventData)
  | tiers (answer : Except (Refusal DatabaseError) (Page TierData))
  | tier (answer : Except (Refusal DatabaseError) TierData)

/-- The answer to a request. -/
def respond (db : Database) : PublicRequest → PublicResponse
  | .listEvents query => .events (listEvents surroundings query db)
  | .retrieveEvent pk query => .event (retrieveEvent surroundings pk query db)
  | .listTiers eventId page => .tiers (listTiers surroundings eventId page db)
  | .retrieveTier pk eventId => .tier (retrieveTier surroundings pk eventId db)

end Answers

end Ticketing.Catalog
