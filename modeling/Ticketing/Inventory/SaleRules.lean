import Ticketing.Catalog.Models
import Ticketing.Checkout.AbuseCap
import Ticketing.Inventory.Availability
import Ticketing.Transactional.Trail

/-!
# The rules of a sale

What a tier says about its sale (`max_per_order`, `is_active`, the sale window), next to the
holds that are created on it.

## Main Definitions

* `Terms` — what the tiers say, `Terms.row` — the whole row of a tier
* `Terms.Proper` — a hold within the rules of its tier
* `Terms.largestMaxPerOrder`, `Database.activeQuantity` — the two sides of the bound
* `Terms.FairCall` — a call of `create_hold` that keeps the rules or is refused

## Main Results

* `activeQuantity_le` — the bound, from the cap on holds and the limit per order
* `createdProperly_iff` — one call
* `rules_kept_iff` — every run of calls

## Design Notes

None of the calls writes what a tier says about its sale, so it stands beside the world.  A
hold is created at the clock reading from which `expires_at` is computed.
-/

namespace Ticketing

open Transactional Availability

/-- What each tier says about its sale. -/
abbrev Terms := Uuid → Catalog.TicketTier

namespace Database

/-- The quantity of the ACTIVE holds of `user` on `event`. -/
def activeQuantity (db : Database) (user event : Uuid) : ℕ :=
  db.holds.total fun hold => db.countsFor user event hold * hold.quantity

end Database

namespace Database

variable {db : Database} {token : Uuid} {tier : TicketTier} {hold : CheckoutHold} {held : ℕ}
  {status : HoldStatus}

/-- Giving stock back moves no tier to another event. -/
theorem giveBack_event (present : db.tiers.get hold.tierId = some tier) (id : Uuid) :
    ((db.giveBack tier held token hold status).tiers.get id).map TicketTier.event
      = (db.tiers.get id).map TicketTier.event := by
  simp only [giveBack, Table.get_set]
  split
  · rename_i same
    subst same
    rw [present]
    rfl
  · rfl

/-- Ending a hold adds to no count. -/
theorem activeHoldsCount_giveBack_le (present : db.tiers.get hold.tierId = some tier)
    (stored : db.holds.get token = some hold) (ends : status ≠ .active) (user event : Uuid) :
    (db.giveBack tier held token hold status).activeHoldsCount user event
      ≤ db.activeHoldsCount user event := by
  have measure : (db.giveBack tier held token hold status).countsFor user event
      = db.countsFor user event := by
    funext other
    simp only [countsFor, giveBack_event present]
  have ended : db.countsFor user event { hold with status } = 0 := by
    simp [countsFor, ends]
  have counts := Table.total_set (db.countsFor user event) { hold with status } stored
  unfold activeHoldsCount
  rw [measure]
  show (db.holds.set token { hold with status }).total _ ≤ _
  omega

end Database

namespace Terms

variable (terms : Terms)

/-- The whole row of a tier. -/
def row (db : Database) (id : Uuid) : Option Catalog.TicketTier :=
  (db.tiers.get id).map fun tier => { terms id with toTicketTier := tier }

/-- The largest `max_per_order` of the tiers of an event. -/
def largestMaxPerOrder (db : Database) (event : Uuid) : ℕ :=
  db.tiers.keys.sup fun id =>
    if (db.tiers.get id).map TicketTier.event = some event then (terms id).maxPerOrder else 0

/-- A quantity of tickets of a tier that the rules of its sale allow at `now`. -/
def Allows (db : Database) (now : Time) (id : Uuid) (quantity : ℤ) : Prop :=
  1 ≤ quantity ∧ ∃ row, terms.row db id = some row ∧ quantity ≤ row.maxPerOrder ∧
    row.isOnSale now = true

/-- What a call leaves of a world. -/
def callStep (world : World) (call : Request × (ℕ → Input)) : World :=
  (call.1.program.run store none call.2 none world).2

/-- The call creates no hold, or one that the rules of its tier allow. -/
def CreatesProperly (world : World) (call : Request × (ℕ → Input)) : Prop :=
  match call.1 with
  | .createHold user tierId quantity => ∀ token hold after,
      (createHold user tierId quantity).run store none call.2 none world
          = (.returned (token, hold), after) →
        terms.Allows world.db (call.2 2).now hold.tierId hold.quantity
  | _ => True

/-- A `create_hold` that its guards let pass asks for what the rules of the tier allow. -/
def FairCall (world : World) (call : Request × (ℕ → Input)) : Prop :=
  match call.1 with
  | .createHold user tierId quantity => ∀ id, Uuid.parse tierId = some id →
      Places world user id quantity (call.2 3).uuid →
        terms.Allows world.db (call.2 2).now id quantity
  | _ => True

/-- No user holds more of an event than the rules let one user hold. -/
def Bounded (db : Database) : Prop :=
  ∀ user event, db.activeQuantity user event
    ≤ maxHoldsPerUserPerEvent * terms.largestMaxPerOrder db event

/-! ## The bound -/

/-- The cap on holds, and the limit on each of them. -/
structure Limited (db : Database) : Prop where
  cap : ∀ user event, db.activeHoldsCount user event ≤ maxHoldsPerUserPerEvent
  perOrder : ∀ token hold, db.holds.get token = some hold →
    hold.quantity ≤ (terms hold.tierId).maxPerOrder

variable {terms}

/-- The limit of a tier is at most the largest of its event. -/
theorem maxPerOrder_le_largest {db : Database} {id event : Uuid} {tier : TicketTier}
    (present : db.tiers.get id = some tier) (ofEvent : tier.event = event) :
    (terms id).maxPerOrder ≤ terms.largestMaxPerOrder db event := by
  have inside := Table.mem_keys_of_get present
  have counts : (db.tiers.get id).map TicketTier.event = some event := by
    rw [present, ← ofEvent]
    rfl
  calc (terms id).maxPerOrder
      = if (db.tiers.get id).map TicketTier.event = some event then (terms id).maxPerOrder
          else 0 := (if_pos counts).symm
    _ ≤ terms.largestMaxPerOrder db event :=
        Finset.le_sup (f := fun id =>
          if (db.tiers.get id).map TicketTier.event = some event then (terms id).maxPerOrder
          else 0) inside

/-- **The bound.**  At most so many holds of at most so many tickets. -/
theorem Limited.bounded {db : Database} (limited : terms.Limited db) : terms.Bounded db := by
  intro user event
  have each (hold : CheckoutHold) (token : Uuid) (stored : db.holds.get token = some hold) :
      db.countsFor user event hold * hold.quantity
        ≤ db.countsFor user event hold * terms.largestMaxPerOrder db event := by
    unfold Database.countsFor
    split
    next counts =>
      obtain ⟨-, -, located⟩ := counts
      obtain ⟨tier, present, ofEvent⟩ := Option.map_eq_some_iff.mp located
      exact Nat.mul_le_mul_left 1
        ((limited.perOrder token hold stored).trans (maxPerOrder_le_largest present ofEvent))
    next => simp
  calc db.activeQuantity user event
      ≤ db.holds.total fun hold =>
          db.countsFor user event hold * terms.largestMaxPerOrder db event :=
        Table.total_le_total fun token hold stored => each hold token stored
    _ = db.activeHoldsCount user event * terms.largestMaxPerOrder db event :=
        Table.total_mul _ _ _
    _ ≤ maxHoldsPerUserPerEvent * terms.largestMaxPerOrder db event :=
        Nat.mul_le_mul_right _ (limited.cap user event)

/-! ## One call -/

section Call

variable {db : Database} {token : Uuid} {tier : TicketTier} {hold : CheckoutHold}

/-- What the rules allow is at most the limit per order. -/
theorem Allows.le_maxPerOrder {now : Time} {id : Uuid} {quantity : ℕ}
    (allows : terms.Allows db now id quantity) : quantity ≤ (terms id).maxPerOrder := by
  obtain ⟨-, row, located, within, -⟩ := allows
  obtain ⟨tier, -, rfl⟩ := Option.map_eq_some_iff.mp located
  exact Int.ofNat_le.mp within

/-- A hold within the limit, placed below the cap. -/
theorem Limited.place (limited : terms.Limited db)
    (present : db.tiers.get hold.tierId = some tier) (absent : db.holds.get token = none)
    (active : hold.status = .active)
    (belowCap : db.activeHoldsCount hold.user tier.event < maxHoldsPerUserPerEvent)
    (within : hold.quantity ≤ (terms hold.tierId).maxPerOrder) :
    terms.Limited (db.place hold.tierId tier token hold) where
  cap := by
    intro user event
    rw [Database.activeHoldsCount_place present absent active]
    split
    next counts =>
      obtain ⟨rfl, rfl⟩ := counts
      exact belowCap
    next => exact limited.cap user event
  perOrder := by
    intro other row stored
    simp only [Database.place, Table.get_set] at stored
    split at stored
    · cases stored
      exact within
    · exact limited.perOrder other row stored

/-- A hold that ends. -/
theorem Limited.giveBack {held : ℕ} {status : HoldStatus} (limited : terms.Limited db)
    (present : db.tiers.get hold.tierId = some tier) (stored : db.holds.get token = some hold)
    (ends : status ≠ .active) :
    terms.Limited (db.giveBack tier held token hold status) where
  cap := fun user event =>
    (Database.activeHoldsCount_giveBack_le present stored ends user event).trans
      (limited.cap user event)
  perOrder := by
    intro other row found
    simp only [Database.giveBack, Table.get_set] at found
    split at found
    · cases found
      exact limited.perOrder token hold stored
    · exact limited.perOrder other row found

/-- A release keeps the limits. -/
theorem Limited.release {due : CheckoutHold → Prop} {holdToken : String} {world : World}
    {result : Outcome CheckoutError Unit × World} {written : List ℤ}
    (limited : terms.Limited world.db) (spec : ReleaseResult due holdToken world result written) :
    terms.Limited result.2.db := by
  cases spec with
  | raised error => exact limited
  | ignored => exact limited
  | overdrawn stored active present short => exact limited
  | released parsed stored active present current => exact limited.giveBack present stored nofun

/-- A `create_hold` that creates no hold against the rules keeps the limits. -/
theorem Limited.create {user : Uuid} {tierId : String} {quantity : ℤ} {now : Time} {world : World}
    {result : Outcome CheckoutError (Uuid × CheckoutHold) × World} {written : List ℤ}
    (limited : terms.Limited world.db)
    (spec : CreateHoldResult user tierId quantity world result written)
    (proper : ∀ token hold after, result = (.returned (token, hold), after) →
      terms.Allows world.db now hold.tierId hold.quantity) : terms.Limited result.2.db := by
  cases spec with
  | raised error => exact limited
  | placed parsed present belowCap fits quantityEq userEq tierEq active absent =>
      have allows := proper _ _ _ rfl
      subst userEq tierEq
      exact limited.place present absent active belowCap allows.le_maxPerOrder

/-- The world after a `create_hold` whose result is discarded. -/
theorem callStep_createHold (user : Uuid) (tierId : String) (quantity : ℤ) (inputs : ℕ → Input)
    (world : World) :
    callStep world (.createHold user tierId quantity, inputs)
      = ((createHold user tierId quantity).run store none inputs none world).2 := by
  show ((createHold user tierId quantity).discard.run store none inputs none world).2 = _
  rw [Program.run_discard]

/-- **Step lemma.**  A call that creates no hold against the rules keeps the limits. -/
theorem Limited.step {world : World} {call : Request × (ℕ → Input)}
    (proper : terms.CreatesProperly world call) (limited : terms.Limited world.db) :
    terms.Limited (callStep world call).db := by
  obtain ⟨request, inputs⟩ := call
  cases request with
  | createHold user tierId quantity =>
      rw [callStep_createHold]
      exact limited.create (createHold_run user tierId quantity inputs world) proper
  | releaseHoldByToken holdToken =>
      have spec : Runs (ReleaseResult (fun _ => True) holdToken world)
        (releaseHoldByToken holdToken) inputs none world := releaseHoldByToken_run _ _ _
      simp only [callStep, Request.program]
      exact limited.release spec
  | releaseHoldOnPaymentTimeout holdToken =>
      have spec := releaseHoldOnPaymentTimeout_run holdToken inputs world
      simp only [callStep, Request.program]
      exact limited.release spec

/-- What has been placed passed both guards, and is what was asked for. -/
theorem placed_of_returned {user : Uuid} {tierId : String} {quantity : ℤ} {inputs : ℕ → Input}
    {world after : World} {token : Uuid} {hold : CheckoutHold}
    (ran : (createHold user tierId quantity).run store none inputs none world
      = (.returned (token, hold), after)) :
    ∃ id, Uuid.parse tierId = some id ∧ Places world user id quantity (inputs 3).uuid ∧
      (hold.quantity : ℤ) = quantity ∧ hold.tierId = id := by
  have spec := createHold_run user tierId quantity inputs world
  unfold Runs at spec
  rw [ran] at spec
  generalize heldUpdates (createHold user tierId quantity) inputs world = written at spec
  cases spec with
  | @placed id _ tier _ _ parsed present belowCap fits quantityEq userEq tierEq active absent =>
      have drawn : token = (inputs 3).uuid := (createHold_times ran).1
      refine ⟨id, parsed, ⟨⟨tier, present, belowCap, fits⟩, ?_, ?_⟩, quantityEq, tierEq⟩
      · rw [← quantityEq]
        exact Int.natCast_nonneg hold.quantity
      · rw [← drawn]
        exact absent

/-- **One call.**  It creates no hold against the rules exactly when it is fair. -/
theorem createsProperly_iff (world : World) (call : Request × (ℕ → Input)) :
    terms.CreatesProperly world call ↔ terms.FairCall world call := by
  obtain ⟨request, inputs⟩ := call
  cases request with
  | releaseHoldByToken holdToken => exact Iff.rfl
  | releaseHoldOnPaymentTimeout holdToken => exact Iff.rfl
  | createHold user tierId quantity =>
      constructor
      · -- what the guards let pass is placed
        intro proper id parsed places
        obtain ⟨⟨token, hold⟩, after, ran⟩ := createHold_returns parsed places
        have allows := proper token hold after ran
        obtain ⟨id', parsed', -, quantityEq, tierEq⟩ := placed_of_returned ran
        cases parsed.symm.trans parsed'
        rw [quantityEq, tierEq] at allows
        exact allows
      · intro fair token hold after ran
        obtain ⟨id, parsed, places, quantityEq, tierEq⟩ := placed_of_returned ran
        rw [quantityEq, tierEq]
        exact fair id parsed places

end Call

/-! ## Every run -/

/-- **Rules of a sale.**  In a run from a world without holds, every hold is created within
the rules of its tier and no user ever holds more of an event than they let one user hold,
exactly when every call is fair. -/
theorem rules_kept_iff (terms : Terms) (calls : List (Request × (ℕ → Input))) {start : World}
    (noHolds : start.db.holds = .empty) :
    (EachStep callStep terms.CreatesProperly calls start ∧
        ∀ world ∈ trail callStep calls start, terms.Bounded world.db) ↔
      EachStep callStep terms.FairCall calls start := by
  have limited : terms.Limited start.db := by
    constructor
    · intro user event
      unfold Database.activeHoldsCount
      rw [noHolds, Table.total_empty]
      exact Nat.zero_le _
    · intro token hold stored
      rw [noHolds, Table.get_empty] at stored
      cases stored
  rw [← eachStep_congr createsProperly_iff]
  refine and_iff_left_of_imp fun proper world reached => ?_
  have kept := trail_of_eachStep (fun world : World => terms.Limited world.db)
    (fun _ _ proper limited => limited.step proper) calls limited proper
  exact (kept world reached).bounded

namespace Sample

/-- At most ten tickets an order, on sale from the second second on. -/
def regular : Terms := fun _ =>
  { event := Ticketing.Sample.id 0, quantityTotal := 100, name := "Regular", price := 1500
    saleStartsAt := some (2 * second) }

/-- A tier of a hundred tickets, and no holds. -/
def opening : World where
  db :=
    { tiers := Table.empty.set (Ticketing.Sample.id 1)
        { event := Ticketing.Sample.id 0, quantityTotal := 100 }
      holds := .empty }
  redis := ⟨fun _ => none, .empty, fun _ => none⟩

/-- One user asks for `quantity` tickets, with `token` drawn for the hold. -/
def ask (quantity : ℤ) (token : Uuid) (now : Time) : Request × (ℕ → Input) :=
  (.createHold (Ticketing.Sample.id 5) (Ticketing.Sample.id 1).str quantity,
    fun _ => .plain now token)

end Sample

theorem rules_kept_iff_sample :
    (EachStep callStep Sample.regular.CreatesProperly
          [Sample.ask 4 (Ticketing.Sample.id 7) (3 * second)] Sample.opening ∧
        ∀ world ∈ trail callStep [Sample.ask 4 (Ticketing.Sample.id 7) (3 * second)]
          Sample.opening, Sample.regular.Bounded world.db) ↔
      EachStep callStep Sample.regular.FairCall
        [Sample.ask 4 (Ticketing.Sample.id 7) (3 * second)] Sample.opening :=
  rules_kept_iff Sample.regular _ rfl

/-- **One buyer takes everything.**  Before the sale has started, two calls take all hundred
tickets, where the rules let one user hold twenty. -/
theorem event_starved :
    let calls := [Sample.ask 50 (Ticketing.Sample.id 7) 0, Sample.ask 50 (Ticketing.Sample.id 8) 0]
    let final := calls.foldl callStep Sample.opening
    (Sample.regular.row Sample.opening.db (Ticketing.Sample.id 1)).map (·.isOnSale 0) = some false ∧
      final.db.activeQuantity (Ticketing.Sample.id 5) (Ticketing.Sample.id 0) = 100 ∧
      maxHoldsPerUserPerEvent
        * Sample.regular.largestMaxPerOrder final.db (Ticketing.Sample.id 0) = 20 := by
  decide +kernel

end Terms

end Ticketing
