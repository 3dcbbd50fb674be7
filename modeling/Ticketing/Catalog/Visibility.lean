import Ticketing.Catalog.Isolation
import Ticketing.Catalog.Public

/-!
# What the public can tell apart

Two states of the tables that differ in unpublished events only, seen through the anonymous
requests.

## Main Definitions

* `AgreeOnPublished` — the states agree on the published events
* `shownTier`, `hiddenTier` — what is shown of a tier at all, and of a tier of an unpublished
  event

## Main Results

* `answerPage_congr`, `fetch_map_congr` — an answer depends on what is shown of the rows
* `listEvents_congr`, `retrieveEvent_congr` — the events
* `listTiers_congr`, `retrieveTier_congr` — the tiers
* `unpublished_invisible_iff` — when no request tells the states apart

## Design Notes

What a list of tiers shows is a function of `shownTier`, and what is shown is what the
states agree on together with what is hidden.
-/

namespace Ticketing.Catalog

open Transactional Rest

namespace Database

/-- The event is published. -/
def isPublished (db : Database) (id : Uuid) : Bool := (db.publishedEvent id).isSome

/-- The dates of published events. -/
def publishedDate (db : Database) (id : Uuid) : Option EventDate :=
  (db.dates.get id).filter fun date => db.isPublished date.event

/-- The tiers of published events. -/
def publishedTier (db : Database) (id : Uuid) : Option TicketTier :=
  (db.tiers.get id).filter fun tier => db.isPublished tier.event

end Database

/-- Two states that agree on the published events, their companies, dates and tiers. -/
structure AgreeOnPublished (first second : Database) : Prop where
  events : ∀ id, first.publishedEvent id = second.publishedEvent id
  companies : ∀ id event, first.publishedEvent id = some event →
    first.companies.get event.company = second.companies.get event.company
  dates : ∀ id, first.publishedDate id = second.publishedDate id
  tiers : ∀ id, first.publishedTier id = second.publishedTier id

section Answers

variable {surroundings : Surroundings}

/-! ## Lists -/

/-- Serializing first and paginating later gives the same answer. -/
theorem answerPage_eq {Row Data : Type} (page : Option String) (serialize : Row → Data)
    (rows : List Row) :
    answerPage surroundings page serialize rows
      = (paginate pageSize surroundings.parseInt page (rows.map serialize)).elim
          (.error .notFound) .ok := by
  rw [answerPage, paginate_map]
  cases paginate pageSize surroundings.parseInt page rows with
  | none => rfl
  | some found => rfl

/-- An answer depends on what is shown of the rows. -/
theorem answerPage_congr {Row Row' Data : Type} {page : Option String} {serialize : Row → Data}
    {serialize' : Row' → Data} {rows : List Row} {rows' : List Row'}
    (same : rows.map serialize = rows'.map serialize') :
    answerPage surroundings page serialize rows
      = answerPage surroundings page serialize' rows' := by
  rw [answerPage_eq, answerPage_eq, same]

/-- What is shown of the rows that a query finds depends on what is shown of each. -/
theorem fetch_map_congr {V W W' Data : Type} {first second : Table Uuid V}
    {rows : Uuid → Option W} {rows' : Uuid → Option W'} {serialize : Uuid × W → Data}
    {serialize' : Uuid × W' → Data}
    (within : ∀ id, (rows id).isSome → (first.get id).isSome)
    (within' : ∀ id, (rows' id).isSome → (second.get id).isSome)
    (same : ∀ id, (rows id).map (fun row => serialize (id, row))
      = (rows' id).map fun row => serialize' (id, row)) :
    (fetch surroundings first rows).map serialize
      = (fetch surroundings second rows').map serialize' := by
  have present (id : Uuid) : (rows id).isSome = (rows' id).isSome := by
    have some := congrArg Option.isSome (same id)
    rwa [Option.isSome_map, Option.isSome_map] at some
  rw [fetch, fetch, Table.select_congr within within' present, List.map_filterMap,
    List.map_filterMap]
  refine List.filterMap_congr fun id _ => ?_
  rw [Option.map_map, Option.map_map]
  exact same id

/-- Two queries that find the same rows fetch the same. -/
theorem fetch_congr {V W : Type} {first second : Table Uuid V} {rows : Uuid → Option W}
    (within : ∀ id, (rows id).isSome → (first.get id).isSome)
    (within' : ∀ id, (rows id).isSome → (second.get id).isSome) :
    fetch surroundings first rows = fetch surroundings second rows := by
  rw [fetch, fetch, Table.select_congr within within' fun _ => rfl]

/-! ## Single objects -/

/-- Serializing what is found, if anything is. -/
theorem bind_found {Row Data : Type} (serialize : Row → Data) (found : Option Row) :
    (found.elim (Except.error Refusal.notFound) Except.ok : Except (Refusal DatabaseError) Row).bind
        (fun row => .ok (serialize row))
      = (found.map serialize).elim (.error .notFound) .ok := by
  cases found with
  | none => rfl
  | some row => rfl

/-- Serializing the row that an identifier names. -/
theorem map_named {Row Data : Type} (serialize : Uuid × Row → Data) (named : Option Uuid)
    (rows : Uuid → Option Row) :
    (named.bind fun id => (rows id).map (id, ·)).map serialize
      = named.bind fun id => (rows id).map fun row => serialize (id, row) := by
  rw [Option.map_bind]
  simp only [Function.comp_def, Option.map_map]

/-! ## Events -/

section Events

variable {first second : Database} {query : EventQuery}

/-- Filters find nothing new. -/
theorem isSome_of_filter {V : Type} {row : Option V} {keep : V → Bool}
    (found : (row.filter keep).isSome) : row.isSome := by
  cases row with
  | none => exact found
  | some row => rfl

/-- The filters of `PublicEventListView` leave published events. -/
theorem publishedEvent_of_publicEvents {db : Database} {rows : Uuid → Option Event} {id : Uuid}
    {event : Event} (queried : publicEvents surroundings query db = .ok rows)
    (found : rows id = some event) : db.publishedEvent id = some event := by
  obtain ⟨ofCompany, filtered, searched⟩ := bind_eq_ok.mp queried
  have inCompany : ofCompany id = some event := by
    unfold filterSearch at searched
    split at searched
    · cases searched
    · cases searched
      exact (Option.filter_eq_some_iff.mp found).1
  unfold filterCompany at filtered
  split at filtered
  · cases filtered
    exact inCompany
  · split at filtered
    · cases filtered
      exact inCompany
    · split at filtered
      · cases filtered
      · cases filtered
        exact (Option.filter_eq_some_iff.mp inCompany).1

/-- The queryset depends on the published events, and on which companies there are. -/
theorem publicEvents_congr (agree : AgreeOnPublished first second)
    (companies : ∀ id, (first.companies.get id).isSome = (second.companies.get id).isSome) :
    publicEvents surroundings query first = publicEvents surroundings query second := by
  have published : first.publishedEvent = second.publishedEvent := funext agree.events
  unfold publicEvents filterCompany
  simp only [published, companies]

/-- The dates of a published event are those of a published event in either state. -/
theorem datesOf_congr (agree : AgreeOnPublished first second) {event : Uuid}
    (published : first.isPublished event = true) : first.datesOf event = second.datesOf event := by
  have published' : second.isPublished event = true := by
    rw [Database.isPublished, ← agree.events]
    exact published
  -- a date of a published event is a published date, in either state
  have ofPublished {db : Database} (known : db.isPublished event = true) (id : Uuid) :
      db.datesOf event id = (db.publishedDate id).filter (·.event = event) := by
    rw [Database.datesOf, Database.publishedDate, Option.filter_filter]
    cases db.dates.get id with
    | none => rfl
    | some date =>
        by_cases same : date.event = event
        · simp [Option.filter_some, same, known]
        · simp [Option.filter_some, same]
  funext id
  rw [ofPublished published, ofPublished published', agree.dates]

/-- A published event is shown alike. -/
theorem eventData_congr (agree : AgreeOnPublished first second) {id : Uuid} {event : Event}
    (published : first.publishedEvent id = some event) :
    eventData surroundings first (id, event) = eventData surroundings second (id, event) := by
  have known : first.isPublished id = true := by
    rw [Database.isPublished, published]
    rfl
  have sameDates : dates surroundings first id = dates surroundings second id := by
    unfold dates
    rw [datesOf_congr agree known]
    refine congrArg (List.mergeSort · _) (fetch_congr (fun date found => ?_) fun date found => ?_)
    · rw [← datesOf_congr agree known] at found
      exact isSome_of_filter found
    · exact isSome_of_filter found
  simp only [eventData, sameDates]

/-- **Lists of events.** -/
theorem listEvents_congr (agree : AgreeOnPublished first second)
    (companies : ∀ id, (first.companies.get id).isSome = (second.companies.get id).isSome) :
    listEvents surroundings query first = listEvents surroundings query second := by
  unfold listEvents
  rw [← publicEvents_congr agree companies]
  cases queried : publicEvents surroundings query first with
  | error refusal => rfl
  | ok rows =>
      have published {id : Uuid} {event : Event} (found : rows id = some event) :
          first.publishedEvent id = some event := publishedEvent_of_publicEvents queried found
      refine answerPage_congr (fetch_map_congr (fun id found => ?_) (fun id found => ?_)
        fun id => ?_)
      · obtain ⟨event, found⟩ := Option.isSome_iff_exists.mp found
        exact isSome_of_filter (Option.isSome_iff_exists.mpr ⟨event, published found⟩)
      · obtain ⟨event, found⟩ := Option.isSome_iff_exists.mp found
        have published' := (agree.events id).symm.trans (published found)
        exact isSome_of_filter (Option.isSome_iff_exists.mpr ⟨event, published'⟩)
      · exact Option.map_congr fun event found => eventData_congr agree (published found)

/-- What is shown of the event that the queryset has under the identifier. -/
theorem retrieveEvent_eq (pk : String) (db : Database) :
    retrieveEvent surroundings pk query db
      = (publicEvents surroundings query db).bind fun rows =>
          ((Uuid.parse pk).bind fun id =>
            (rows id).map fun event => eventData surroundings db (id, event)).elim
              (.error .notFound) .ok := by
  unfold retrieveEvent
  cases publicEvents surroundings query db with
  | error refusal => rfl
  | ok rows =>
      simp only [bind, Except.bind, ← map_named]
      cases (Uuid.parse pk).bind fun id => (rows id).map (id, ·) with
      | none => rfl
      | some row => rfl

/-- **Single events.** -/
theorem retrieveEvent_congr (agree : AgreeOnPublished first second)
    (companies : ∀ id, (first.companies.get id).isSome = (second.companies.get id).isSome)
    (pk : String) :
    retrieveEvent surroundings pk query first = retrieveEvent surroundings pk query second := by
  rw [retrieveEvent_eq, retrieveEvent_eq, ← publicEvents_congr agree companies]
  cases queried : publicEvents surroundings query first with
  | error refusal => rfl
  | ok rows =>
      have shown (id : Uuid) : (rows id).map (fun event => eventData surroundings first (id, event))
          = (rows id).map fun event => eventData surroundings second (id, event) :=
        Option.map_congr fun event found =>
          eventData_congr agree (publishedEvent_of_publicEvents queried found)
      simp only [Except.bind, shown]

end Events

/-! ## Tiers -/

section Tiers

variable (surroundings)

/-- What is shown of a tier: nothing unless it is active. -/
def shownTier (db : Database) (id : Uuid) : Option TierData :=
  ((db.tiers.get id).filter (·.isActive)).map fun tier => tierData surroundings (id, tier)

/-- What is shown of a tier of an unpublished event. -/
def hiddenTier (db : Database) (id : Uuid) : Option TierData :=
  (shownTier surroundings db id).filter fun shown => !db.isPublished shown.event

variable {surroundings} {first second : Database}

/-- What is shown of the tier of a published event is on record among those. -/
theorem shownTier_published (db : Database) (id : Uuid) :
    (shownTier surroundings db id).filter (fun shown => db.isPublished shown.event)
      = ((db.publishedTier id).filter (·.isActive)).map
          fun tier => tierData surroundings (id, tier) := by
  unfold shownTier Database.publishedTier
  cases db.tiers.get id with
  | none => rfl
  | some tier =>
      cases active : tier.isActive <;> cases published : db.isPublished tier.event <;>
        simp [Option.filter_some, active, published, tierData]

/-- Two options with the same two halves are the same. -/
theorem eq_of_filters {α : Type} {left right : Option α} {keep keep' : α → Bool}
    (agree : ∀ value, keep value = keep' value)
    (kept : left.filter keep = right.filter keep')
    (dropped : (left.filter fun value => !keep value) = right.filter fun value => !keep' value) :
    left = right := by
  have same : keep = keep' := funext agree
  subst same
  cases left with
  | none =>
      cases right with
      | none => rfl
      | some value => cases holds : keep value <;> simp [Option.filter_some, holds] at kept dropped
  | some value =>
      cases right with
      | none => cases holds : keep value <;> simp [Option.filter_some, holds] at kept dropped
      | some value' =>
          cases holds : keep value <;> cases holds' : keep value' <;>
            simp_all [Option.filter_some]

/-- The states agree on what is shown of tiers exactly when they agree on what is hidden. -/
theorem shownTier_iff (agree : AgreeOnPublished first second) :
    (∀ id, shownTier surroundings first id = shownTier surroundings second id) ↔
      ∀ id, hiddenTier surroundings first id = hiddenTier surroundings second id := by
  have published (event : Uuid) : first.isPublished event = second.isPublished event := by
    rw [Database.isPublished, agree.events]
    rfl
  constructor
  · intro same id
    unfold hiddenTier
    rw [same id]
    simp only [published]
  · intro same id
    refine eq_of_filters (fun shown => published shown.event) ?_ (same id)
    rw [shownTier_published, shownTier_published, agree.tiers]

/-- The queryset of the tiers is the same selection of what is active in every state, or
the same refusal. -/
theorem tierQueryset_cases (eventId : Option String) :
    (∃ error, ∀ db, tierQueryset eventId db = .error error) ∨
      ∃ keep : Uuid → Bool, ∀ db, tierQueryset eventId db = .ok fun id =>
        ((db.tiers.get id).filter (·.isActive)).filter fun tier => keep tier.event := by
  have everything (db : Database) : (fun id => (db.tiers.get id).filter (·.isActive))
      = fun id => ((db.tiers.get id).filter (·.isActive)).filter fun _ => true := by
    funext id
    cases (db.tiers.get id).filter (·.isActive) with
    | none => rfl
    | some tier => rfl
  unfold tierQueryset
  split
  · exact Or.inr ⟨fun _ => true, fun db => congrArg Except.ok (everything db)⟩
  · exact Or.inr ⟨fun _ => true, fun db => congrArg Except.ok (everything db)⟩
  · next eventId _ =>
      cases Uuid.parse eventId with
      | none => exact Or.inl ⟨.invalidUuid eventId, fun _ => rfl⟩
      | some event => exact Or.inr ⟨fun other => other = event, fun _ => rfl⟩

/-- The tiers that a query selects. -/
def selectedTiers (keep : Uuid → Bool) (db : Database) (id : Uuid) : Option TicketTier :=
  ((db.tiers.get id).filter (·.isActive)).filter fun tier => keep tier.event

/-- What is shown of a selected tier is selected of what is shown. -/
theorem map_selectedTiers (keep : Uuid → Bool) (db : Database) (id : Uuid) :
    (selectedTiers keep db id).map (fun tier => tierData surroundings (id, tier))
      = (shownTier surroundings db id).filter fun shown => keep shown.event := by
  unfold selectedTiers shownTier
  cases (db.tiers.get id).filter (·.isActive) with
  | none => rfl
  | some tier =>
      cases kept : keep tier.event <;> simp [Option.filter_some, kept, tierData]

/-- A visitor passes the permissions of a list. -/
theorem listed_tiers (eventId : Option String) (db : Database) :
    (ticketTierViewSet eventId).listed anonymous db = (tierQueryset eventId db).mapError .server :=
  rfl

/-- **Lists of tiers.** -/
theorem listTiers_congr
    (same : ∀ id, shownTier surroundings first id = shownTier surroundings second id)
    (eventId page : Option String) :
    listTiers surroundings eventId page first = listTiers surroundings eventId page second := by
  unfold listTiers
  rw [listed_tiers, listed_tiers]
  rcases tierQueryset_cases eventId with ⟨error, refused⟩ | ⟨keep, found⟩
  · rw [refused, refused]
    rfl
  · rw [found, found]
    -- sorting reads two fields that are shown
    have sorted (rows : List (Uuid × TicketTier)) :
        (rows.mergeSort fun first second =>
            sortedBefore (first.2.sortOrder, first.2.price)
              (second.2.sortOrder, second.2.price)).map (tierData surroundings)
          = (rows.map (tierData surroundings)).mergeSort fun first second =>
              sortedBefore (first.sortOrder, first.price) (second.sortOrder, second.price) :=
      List.map_mergeSort fun _ _ _ _ => rfl
    refine answerPage_congr ?_
    rw [sorted, sorted]
    refine congrArg (List.mergeSort · _) (fetch_map_congr (fun id kept => ?_) (fun id kept => ?_)
      fun id => ?_)
    · exact isSome_of_filter (isSome_of_filter kept)
    · exact isSome_of_filter (isSome_of_filter kept)
    · show (selectedTiers keep first id).map _ = (selectedTiers keep second id).map _
      rw [map_selectedTiers, map_selectedTiers, same]

/-- A visitor finds the tier that the queryset has under the identifier. -/
theorem retrieveTier_eq (pk : String) (eventId : Option String) (db : Database) :
    retrieveTier surroundings pk eventId db
      = ((tierQueryset eventId db).mapError .server).bind fun rows =>
          ((Uuid.parse pk).bind fun id =>
            (rows id).map fun tier => tierData surroundings (id, tier)).elim
              (.error .notFound) .ok := by
  have passed : (ticketTierViewSet eventId).initial anonymous .retrieve = .ok () := rfl
  have looked := @ViewSet.object_of_allows _ _ _ _ _ _ _ _ (ticketTierViewSet eventId) anonymous
    .retrieve pk db (ViewSet.initial_eq_ok.mp passed) fun permission asked row => by
      rw [List.mem_singleton.mp asked]
      rfl
  unfold retrieveTier
  rw [looked]
  show (((tierQueryset eventId db).mapError Refusal.server).bind _ >>= _) = _
  cases (tierQueryset eventId db).mapError Refusal.server with
  | error refusal => rfl
  | ok rows =>
      refine (bind_found (tierData surroundings) _).trans ?_
      rw [map_named]
      rfl

/-- **Single tiers.** -/
theorem retrieveTier_congr
    (same : ∀ id, shownTier surroundings first id = shownTier surroundings second id)
    (pk : String) (eventId : Option String) :
    retrieveTier surroundings pk eventId first = retrieveTier surroundings pk eventId second := by
  rw [retrieveTier_eq, retrieveTier_eq]
  rcases tierQueryset_cases eventId with ⟨error, refused⟩ | ⟨keep, found⟩
  · rw [refused, refused]
  · have rows (db : Database) : tierQueryset eventId db = .ok (selectedTiers keep db) := found db
    rw [rows, rows]
    simp only [Except.mapError, Except.bind, map_selectedTiers, same]

/-- Retrieving a tier shows what is shown of it. -/
theorem retrieveTier_shown (db : Database) (id : Uuid) :
    retrieveTier surroundings id.str none db
      = (shownTier surroundings db id).elim (.error .notFound) .ok := by
  rw [retrieveTier_eq, Uuid.parse_str]
  rfl

end Tiers

/-! ## All requests -/

variable (surroundings) in
/-- Filtering by a company works for those there are. -/
theorem listEvents_company_iff (db : Database) (id : Uuid) :
    (∃ page, listEvents surroundings { company := some id.str } db = .ok page) ↔
      (db.companies.get id).isSome := by
  have filtered (rows : Uuid → Option Event) : filterCompany db (some id.str) rows
      = if (db.companies.get id).isSome then .ok fun event => (rows event).filter (·.company = id)
        else .error .invalid := by
    simp only [filterCompany, if_neg id.str_ne_empty, Uuid.parse_str, Option.filter_some]
    cases (db.companies.get id).isSome with
    | true => rfl
    | false => rfl
  have searched (rows : Uuid → Option Event) :
      filterSearch surroundings none rows = .ok fun event => (rows event).filter fun _ => true := by
    simp only [filterSearch, Option.getD_none, surroundings.searchTerms_empty]
    rfl
  unfold listEvents publicEvents
  rw [filtered]
  cases (db.companies.get id).isSome with
  | false => exact iff_of_false (fun ⟨page, answered⟩ => by cases answered) Bool.false_ne_true
  | true =>
      refine iff_of_true ?_ rfl
      simp only [if_true]
      show ∃ page, (filterSearch surroundings none _).bind _ = .ok page
      rw [searched]
      show ∃ page, answerPage surroundings none _ _ = .ok page
      obtain ⟨page, found⟩ := paginate_first surroundings.parseInt
        (show 0 < pageSize by decide) ((fetch surroundings db.events fun event =>
          ((db.publishedEvent event).filter (·.company = id)).filter fun _ => true).map
            (eventData surroundings db))
      refine ⟨page, ?_⟩
      rw [answerPage_eq, found]
      rfl

end Answers

/-- **Visibility.**  Of two states that agree on the published events, no anonymous request
tells one from the other exactly when the active tiers of unpublished events look the same in
both, and both have the same companies to filter by. -/
theorem unpublished_invisible_iff (surroundings : Surroundings) {first second : Database}
    (agree : AgreeOnPublished first second) :
    (∀ request, respond surroundings first request = respond surroundings second request) ↔
      (∀ id, hiddenTier surroundings first id = hiddenTier surroundings second id) ∧
        ∀ id, (first.companies.get id).isSome = (second.companies.get id).isSome := by
  rw [← shownTier_iff agree]
  constructor
  · intro same
    constructor
    · intro id
      have answer := PublicResponse.tier.inj (same (.retrieveTier id.str none))
      rw [retrieveTier_shown, retrieveTier_shown] at answer
      cases shown : shownTier surroundings first id with
      | none =>
          rw [shown] at answer
          cases shown' : shownTier surroundings second id with
          | none => rfl
          | some data =>
              rw [shown'] at answer
              cases answer
      | some data =>
          rw [shown] at answer
          cases shown' : shownTier surroundings second id with
          | none =>
              rw [shown'] at answer
              cases answer
          | some data' =>
              rw [shown'] at answer
              cases answer
              rfl
    · intro id
      have answer := PublicResponse.events.inj (same (.listEvents { company := some id.str }))
      rw [Bool.eq_iff_iff, ← listEvents_company_iff surroundings, answer,
        listEvents_company_iff]
  · rintro ⟨tiers, companies⟩ request
    cases request with
    | listEvents query => exact congrArg PublicResponse.events (listEvents_congr agree companies)
    | retrieveEvent pk query =>
        exact congrArg PublicResponse.event (retrieveEvent_congr agree companies pk)
    | listTiers eventId page =>
        exact congrArg PublicResponse.tiers (listTiers_congr tiers eventId page)
    | retrieveTier pk eventId =>
        exact congrArg PublicResponse.tier (retrieveTier_congr tiers pk eventId)

namespace Sample

/-- A search looks for the whole text. -/
def surroundings : Surroundings where
  now := 0
  order := fun ids => ids
  order_perm := fun ids => .refl ids
  parseInt := fun _ => none
  searchTerms := fun text => some (if text = "" then [] else [text])
  searchTerms_empty := rfl
  icontains := fun column term => column = term

/-- The catalog without its draft event, and without the tier of that event. -/
def withoutDraft : Database := { catalog with events := .empty, tiers := .empty }

theorem catalog_publishedEvent (event : Uuid) : catalog.publishedEvent event = none := by
  unfold Database.publishedEvent
  simp only [catalog, Table.get_set]
  split <;> rfl

theorem agree : AgreeOnPublished catalog withoutDraft where
  events := catalog_publishedEvent
  companies := fun _ _ _ => rfl
  dates := fun _ => rfl
  tiers := by
    intro tier
    have unpublished (event : Uuid) : catalog.isPublished event = false := by
      rw [Database.isPublished, catalog_publishedEvent]
      rfl
    show (catalog.tiers.get tier).filter (fun tier => catalog.isPublished tier.event) = none
    simp only [unpublished]
    cases catalog.tiers.get tier with
    | none => rfl
    | some tier => rfl

end Sample

theorem unpublished_invisible_iff_sample :
    (∀ request, respond Sample.surroundings Sample.catalog request
        = respond Sample.surroundings Sample.withoutDraft request) ↔
      (∀ id, hiddenTier Sample.surroundings Sample.catalog id
        = hiddenTier Sample.surroundings Sample.withoutDraft id) ∧
        ∀ id, (Sample.catalog.companies.get id).isSome
          = (Sample.withoutDraft.companies.get id).isSome :=
  unpublished_invisible_iff Sample.surroundings Sample.agree

/-- **A draft leaks.**  Two states that agree on the published events, of which there are
none: the one with a draft event shows the draft's tier in the list of tiers. -/
theorem draft_tier_listed :
    AgreeOnPublished Sample.catalog Sample.withoutDraft ∧
      Sample.catalog.companies = Sample.withoutDraft.companies ∧
      (listTiers Sample.surroundings none none Sample.catalog).toOption.map
          (fun page => page.results.map TierData.name) = some ["VIP"] ∧
      (listTiers Sample.surroundings none none Sample.withoutDraft).toOption.map
          (fun page => page.results.map TierData.name) = some [] := by
  refine ⟨Sample.agree, rfl, ?_, ?_⟩
  · decide +kernel
  · decide +kernel

end Ticketing.Catalog
