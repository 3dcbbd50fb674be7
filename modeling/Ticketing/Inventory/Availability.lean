import Ticketing.Checkout.Runs
import Ticketing.Payments.Serial
import Ticketing.Transactional.Cache

/-!
# The availability cache

`inventory/availability_cache.py` next to everything that changes what is
available: holds, releases, sweeps and refunds, one complete call after another.

## Main Definitions

* `getCachedAvailability`, `setCachedAvailability` — the cache
* `Platform` — all stores together
* `Call` — a complete call, or a read that fills the cache
* `Platform.FreshFrom` — no reader finds a stale value from an instant on
* `Call.Keeps` — the call leaves no stale value behind

## Main Results

* `Invalidated.sweep`, `Invalidated.release` — what they change is not cached any more
* `Call.fresh_iff` — one call
* `never_stale_iff` — any sequence of calls
* `stale_after_refund` — a sequence that leaves a stale value

## Design Notes

A cached value is stale when it differs from `quantity_available` of the row as it
is, so the entries need not be compared with the instant they were written at.
-/

namespace Ticketing.Availability

open Transactional Payments

/-! ## The cache -/

/-- `AVAILABILITY_TTL`, in seconds. -/
def availabilityTtl : ℤ := 30

/-- `get_cached_availability`, called at `now`. -/
def getCachedAvailability (redis : Redis) (now : Time) (tierId : String) : Option ℤ :=
  Cache.live redis.availability now tierId

/-- `set_cached_availability`, called at `now`. -/
def setCachedAvailability (redis : Redis) (now : Time) (tierId : String) (quantity : ℤ) : Redis :=
  { redis with
    availability := Cache.store redis.availability tierId quantity
      (now + availabilityTtl * second) }

/-- All stores: those of the checkout, and the tables of a refund. -/
structure Platform where
  world : World
  payments : Table Uuid Payment
  tickets : Table Uuid Ticket
  audit : AuditTrail

namespace Platform

/-- The tables a refund sees. -/
def ledger (platform : Platform) : Ledger where
  payments := platform.payments
  tickets := platform.tickets
  tiers := platform.world.db.tiers
  audit := platform.audit

/-- The platform once a refund has written its tables. -/
def withLedger (platform : Platform) (ledger : Ledger) : Platform where
  world := { platform.world with db := { platform.world.db with tiers := ledger.tiers } }
  payments := ledger.payments
  tickets := ledger.tickets
  audit := ledger.audit

/-- No reader finds a stale value under the id of a tier, from `since` on. -/
def FreshFrom (platform : Platform) (since : Time) : Prop :=
  ∀ now, since ≤ now → ∀ id tier, platform.world.db.tiers.get id = some tier →
    ∀ quantity, getCachedAvailability platform.world.redis now id.str = some quantity →
      quantity = tier.quantityAvailable

theorem FreshFrom.mono {platform : Platform} {since later : Time} (fresh : platform.FreshFrom since)
    (order : since ≤ later) : platform.FreshFrom later :=
  fun now after => fresh now (order.trans after)

/-- What is found later has been there before. -/
theorem freshFrom_iff {platform : Platform} {since : Time} :
    platform.FreshFrom since ↔ ∀ id tier, platform.world.db.tiers.get id = some tier →
      ∀ quantity, getCachedAvailability platform.world.redis since id.str = some quantity →
        quantity = tier.quantityAvailable := by
  constructor
  · intro fresh
    exact fresh since le_rfl
  · intro fresh now after id tier present quantity found
    exact fresh id tier present quantity (Cache.live_of_le after found)

end Platform

/-! ## Calls -/

/-- A complete call, or a read of a tier that fills the cache. -/
inductive Call
  | checkout (job : Job) (inputs : ℕ → Ticketing.Input)
  | requestRefund (request : RefundRequest) (inputs : ℕ → Payments.Input)
  /-- `set_cached_availability(tier.id, tier.quantity_available)`. -/
  | fillCache (tierId : Uuid)

section Calls

variable (service : AuditService) (contentType : ℕ)

/-- The platform after a call at `now`. -/
def Call.run (now : Time) (platform : Platform) : Call → Platform
  | .checkout job inputs =>
      { platform with world := (job.program.run Ticketing.store none inputs none platform.world).2 }
  | .requestRefund request inputs =>
      platform.withLedger (request.run service contentType inputs platform.ledger).2
  | .fillCache tierId =>
      match platform.world.db.tiers.get tierId with
      | none => platform
      | some tier =>
          { platform with
            world := { platform.world with
              redis := setCachedAvailability platform.world.redis now tierId.str
                tier.quantityAvailable } }

/-- `holds platform call` of every call of a sequence and the platform in front of it. -/
def AtEachCall (holds : Platform → Call × Time → Prop) : List (Call × Time) → Platform → Prop
  | [], _ => True
  | (call, now) :: rest, platform =>
      holds platform (call, now) ∧
        AtEachCall holds rest (call.run service contentType now platform)

end Calls

/-- The guards of `create_hold` let a hold of a tier pass, and its token is new. -/
structure Places (world : World) (user id : Uuid) (quantity : ℤ) (token : Uuid) : Prop where
  guards : ∃ tier, world.db.tiers.get id = some tier ∧
    world.db.activeHoldsCount user tier.event < maxHoldsPerUserPerEvent ∧
    quantity ≤ tier.quantityAvailable
  nonneg : 0 ≤ quantity
  absent : world.db.holds.get token = none

/-- The guards of `request_refund` let a payment pass, and its tickets have been sold. -/
structure Refunds (ledger : Ledger) (id : Uuid) : Prop where
  succeeded : (ledger.payments.get id).map Payment.status = some .succeeded
  unused : ∀ ticketId ticket, ledger.tickets.get ticketId = some ticket →
    ticket.payment = some id → ticket.status ≠ .checkedIn
  sold : ∀ tierId tier, ledger.tiers.get tierId = some tier →
    ledger.ticketsOn id tierId ≤ tier.quantitySold

/-- The call changes no availability whose value a reader still finds: a
`create_hold` that places tickets spells the tier as `str(tier.id)` does, or the
tier is not cached; a refund has no ticket on a cached tier, except where even
its tickets leave nothing available. -/
def Call.Keeps (now : Time) (platform : Platform) : Call → Prop
  | .checkout (.request (.createHold user tierId quantity)) inputs =>
      ∀ id, Uuid.parse tierId = some id → tierId ≠ id.str → 0 < quantity →
        Places platform.world user id quantity (inputs 3).uuid →
          getCachedAvailability platform.world.redis now id.str = none
  | .requestRefund request _ =>
      ∀ id, Uuid.parse request.paymentId = some id → Refunds platform.ledger id →
        ∀ tierId tier, platform.world.db.tiers.get tierId = some tier →
          getCachedAvailability platform.world.redis now tierId.str = none ∨
            platform.ledger.ticketsOn id tierId = 0 ∨
            tier.quantityTotal + platform.ledger.ticketsOn id tierId
              ≤ tier.quantityHeld + tier.quantitySold
  | _ => True

/-! ## Invalidation -/

/-- Tiers that have changed are not cached any more, and nothing has been cached. -/
structure Invalidated (before after : World) : Prop where
  tiers : ∀ id, after.db.tiers.get id = before.db.tiers.get id ∨
    after.redis.availability id.str = none
  entries : ∀ text, after.redis.availability text = before.redis.availability text ∨
    after.redis.availability text = none
  present : ∀ id, before.db.tiers.get id ≠ none → after.db.tiers.get id ≠ none

namespace Invalidated

theorem of_same {before after : World} (tiers : after.db.tiers = before.db.tiers)
    (entries : after.redis.availability = before.redis.availability) :
    Invalidated before after where
  tiers id := .inl (congrArg (·.get id) tiers)
  entries text := .inl (congrFun entries text)
  present _ there := tiers ▸ there

theorem trans {before middle after : World} (first : Invalidated before middle)
    (second : Invalidated middle after) : Invalidated before after where
  tiers id := by
    rcases second.tiers id with same | gone
    · rcases first.tiers id with same' | gone'
      · exact .inl (same.trans same')
      · rcases second.entries id.str with kept | gone
        · exact .inr (kept.trans gone')
        · exact .inr gone
    · exact .inr gone
  entries text := by
    rcases second.entries text with kept | gone
    · rcases first.entries text with kept' | gone'
      · exact .inl (kept.trans kept')
      · exact .inr (kept.trans gone')
    · exact .inr gone
  present id there := second.present id (first.present id there)

/-- One tier has changed, and its key has been deleted. -/
theorem one {before after : World} (id : Uuid)
    (others : ∀ other, other ≠ id → after.db.tiers.get other = before.db.tiers.get other)
    (present : ∀ other, before.db.tiers.get other ≠ none → after.db.tiers.get other ≠ none)
    (deleted : after.redis.availability
      = Function.update before.redis.availability id.str none) : Invalidated before after where
  tiers other := by
    by_cases same : other = id
    · subst same
      rw [deleted, Function.update_self]
      exact .inr rfl
    · exact .inl (others other same)
  entries text := by
    rw [deleted, Function.update_apply]
    split
    · exact .inr rfl
    · exact .inl rfl
  present := present

/-- Whoever still finds a value finds that of an unchanged tier. -/
theorem fresh {platform : Platform} {after : World} {since : Time}
    (invalidated : Invalidated platform.world after) (fresh : platform.FreshFrom since) :
    Platform.FreshFrom { platform with world := after } since := by
  intro now order id tier there quantity found
  -- an entry that is found has not been deleted, so neither it nor its tier has changed
  obtain ⟨dies, cached, alive⟩ := Cache.live_eq_some.mp found
  rcases invalidated.tiers id with sameTier | gone
  · rcases invalidated.entries id.str with sameEntry | gone
    · refine fresh now order id tier (sameTier.symm.trans there) quantity ?_
      exact Cache.live_eq_some.mpr ⟨dies, sameEntry.symm.trans cached, alive⟩
    · cases cached.symm.trans gone
  · cases cached.symm.trans gone

end Invalidated

/-- Setting a row removes none. -/
theorem get_set_ne_none {tiers : Table Uuid TicketTier} {id other : Uuid} {tier : TicketTier}
    (there : tiers.get other ≠ none) : (tiers.set id tier).get other ≠ none := by
  rw [Table.get_set]
  split
  · exact Option.some_ne_none tier
  · exact there

section Statements

variable {db db' : Database} {input : Ticketing.Input}

/-- Saving the status of a hold leaves the tiers alone. -/
theorem tiers_of_saveStatus {token : Uuid} {status : HoldStatus} {answer : Unit}
    (executed : db.exec input (.saveStatus token status) = .ok (answer, db')) :
    db'.tiers = db.tiers := by
  simp only [Database.exec] at executed
  split at executed
  · cases executed
  · cases executed
    rfl

/-- An UPDATE of `quantity_held` changes one tier. -/
theorem tiers_of_updateQuantityHeld {id : Uuid} {quantityHeld : HeldExpr} {answer : Unit}
    (executed : db.exec input (.updateQuantityHeld id quantityHeld) = .ok (answer, db')) :
    (∀ other, other ≠ id → db'.tiers.get other = db.tiers.get other) ∧
      ∀ other, db.tiers.get other ≠ none → db'.tiers.get other ≠ none := by
  simp only [Database.exec] at executed
  split at executed
  · cases executed
    exact ⟨fun _ _ => rfl, fun _ there => there⟩
  · split at executed
    · cases executed
    · cases executed
      exact ⟨fun other different => Table.get_set_of_ne _ _ different,
        fun other there => get_set_ne_none there⟩

end Statements

namespace Invalidated

/-- The loop of the sweep invalidates every tier it changes, also when it raises. -/
theorem sweepLoop (rows : List SweepRow) (expiredCount : ℕ) (inputs : ℕ → Ticketing.Input)
    (world : World) : Invalidated world
      ((Ticketing.sweepLoop rows expiredCount).run Ticketing.store none inputs none world).2 := by
  induction rows generalizing expiredCount inputs world with
  | nil => exact .of_same rfl rfl
  | cons row rest ih =>
      obtain ⟨token, hold, copy⟩ := row
      simp only [Ticketing.sweepLoop, sql, redis, releaseHold, invalidateAvailability, Program.send,
        Program.call_bind, Program.done_bind]
      cases save : world.db.exec (inputs 0) (.saveStatus token .expired) with
      | error error =>
          rw [run_sql_error _ _ _ _ save]
          exact .of_same rfl rfl
      | ok saved =>
          obtain ⟨answer, saved⟩ := saved
          have sameTiers := tiers_of_saveStatus save
          rw [run_sql_ok _ _ _ _ save]
          cases update : saved.exec (inputs 1)
              (.updateQuantityHeld hold.tierId (.minus copy.quantityHeld token hold)) with
          | error error =>
              rw [run_sql_error _ _ _ _ update]
              exact .of_same sameTiers rfl
          | ok updated =>
              obtain ⟨answer', updated⟩ := updated
              obtain ⟨others, present⟩ := tiers_of_updateQuantityHeld update
              rw [run_sql_ok _ _ _ _ update, run_redis, run_redis]
              -- this pass deletes the key of its tier, the rest of the loop those of the others
              refine trans (one hold.tierId ?_ ?_ ?_) (ih ..)
              · intro other different
                rw [← sameTiers]
                exact others other different
              · intro other there
                rw [← sameTiers] at there
                exact present other there
              · simp only [Redis.exec]

/-- The sweep invalidates every tier it changes, also when it raises. -/
theorem sweep (inputs : ℕ → Ticketing.Input) (world : World) :
    Invalidated world (sweepExpiredHolds.run Ticketing.store none inputs none world).2 := by
  simp only [sweepExpiredHolds, popExpiredHolds, now, redis, sql, Program.send, Program.call_bind,
    Program.done_bind, run_env, run_redis, EnvStmt.answer]
  generalize (world.redis.exec _ (.zpop (inputs 0).now)).1 = expiredTokens
  split
  · exact .of_same rfl rfl
  · cases expiredTokens.mapM Uuid.parse with
    | none => exact .of_same rfl rfl
    | some tokens =>
        have select : world.db.exec (inputs 2) (.selectActiveHolds tokens)
          = .ok ((inputs 2).order (world.db.activeHolds tokens), world.db) := rfl
        rw [run_sql_ok _ _ _ _ select]
        refine trans ?_ (sweepLoop _ 0 _ _)
        exact .of_same rfl rfl

/-- A release invalidates the tier it changes. -/
theorem release {due : CheckoutHold → Prop} {holdToken : String} {world : World}
    {result : Outcome CheckoutError Unit × World} {written : List ℤ}
    (spec : ReleaseResult due holdToken world result written) : Invalidated world result.2 := by
  cases spec with
  | raised error => exact .of_same rfl rfl
  | ignored => exact .of_same rfl rfl
  | overdrawn => exact .of_same rfl rfl
  | @released token hold tier held parsed stored active present current =>
      refine one hold.tierId ?_ ?_ ?_
      · intro other different
        exact Table.get_set_of_ne _ _ different
      · intro other there
        exact get_set_ne_none there
      · simp only [Redis.dropped]

end Invalidated

/-! ## `create_hold` -/

/-- `create_hold` succeeds when its guards pass. -/
theorem createHold_returns {world : World} {user id : Uuid} {tierId : String} {quantity : ℤ}
    {inputs : ℕ → Ticketing.Input} (parsed : Uuid.parse tierId = some id)
    (places : Places world user id quantity (inputs 3).uuid) :
    ∃ value after, (createHold user tierId quantity).run Ticketing.store none inputs none world
      = (.returned value, after) := by
  obtain ⟨tier, present, belowCap, fits⟩ := places.guards
  set token := (inputs 3).uuid
  set expiresAt := (inputs 2).now + holdDuration
  set hold : CheckoutHold := { user, tierId := id, quantity := quantity.toNat, expiresAt }
  have select : world.db.exec (inputs 0) (.selectTierForUpdate id) = .ok (some tier, world.db) := by
    simp only [Database.exec, present]
  have count : world.db.exec (inputs 1) (.countActiveHolds user tier.event)
    = .ok (world.db.activeHoldsCount user tier.event, world.db) := rfl
  have insert : world.db.exec (inputs 4) (.insertHold token user id quantity expiresAt)
      = .ok (hold, { world.db with holds := world.db.holds.set token hold }) := by
    have accepted : ¬ (quantity < 0 ∨ world.db.tiers.get id = none ∨
        (world.db.holds.get token).isSome) := by
      simp [places.nonneg, present, places.absent, token]
    simp only [Database.exec, if_neg accepted]
    rfl
  have notNegative : ¬ (HeldExpr.plus tier.quantityHeld quantity).value < 0 := by
    have nonneg := places.nonneg
    simp only [HeldExpr.value]
    omega
  obtain ⟨updated, update⟩ : ∃ updated, Database.exec (inputs 5)
      (.updateQuantityHeld id (.plus tier.quantityHeld quantity))
      { world.db with holds := world.db.holds.set token hold } = .ok ((), updated) := by
    simp only [Database.exec, present, if_neg notNegative]
    exact ⟨_, rfl⟩
  unfold createHold Program.atomic
  rw [Program.run_begin]
  simp only [parsed, sql, Program.send, Program.call_bind, Program.done_bind]
  -- both guards pass, and every statement after them succeeds
  rw [run_sql_ok _ _ _ _ select]
  simp only [Program.call_bind]
  rw [run_sql_ok _ _ _ _ count, if_neg (not_le.mpr belowCap), if_neg (not_lt.mpr fits)]
  simp only [placeHold, now, uuid4, sql, redis, registerHold, pushHoldExpiry,
    invalidateAvailability, Program.send, Program.call_bind, Program.done_bind, run_env,
    EnvStmt.answer]
  rw [run_sql_ok _ _ _ _ insert, run_sql_ok _ _ _ _ update]
  simp only [run_env, run_redis]
  exact ⟨_, _, rfl⟩

/-- A hold that has been placed without deleting any key leaves a stale value if
it takes tickets of a cached tier. -/
theorem placed_fresh_iff {platform : Platform} {now : Time} {id token : Uuid} {tier : TicketTier}
    {hold : CheckoutHold} {redis : Redis} (fresh : platform.FreshFrom now)
    (present : platform.world.db.tiers.get id = some tier)
    (fits : (hold.quantity : ℤ) ≤ tier.quantityAvailable)
    (kept : ∀ other : Uuid, redis.availability other.str
      = platform.world.redis.availability other.str) :
    Platform.FreshFrom { platform with
      world := ⟨platform.world.db.place id tier token hold, redis⟩ } now ↔
      (0 < hold.quantity → getCachedAvailability platform.world.redis now id.str = none) := by
  have same (other : Uuid) : getCachedAvailability redis now other.str
      = getCachedAvailability platform.world.redis now other.str :=
    Cache.live_congr (kept other) now
  have before := Platform.freshFrom_iff.mp fresh
  rw [Platform.freshFrom_iff]
  simp only [Database.place, Table.get_set, same]
  constructor
  · intro fresher positive
    cases cached : getCachedAvailability platform.world.redis now id.str with
    | none => rfl
    | some quantity =>
        have old := before id tier present quantity cached
        have new := fresher id _ (if_pos rfl) quantity cached
        simp only [TicketTier.quantityAvailable] at fits old new
        omega
  · intro uncached other row found quantity cached
    split at found
    · rename_i isTier
      subst isTier
      obtain rfl := Option.some.inj found
      have old := before other tier present quantity cached
      have empty : hold.quantity = 0 := by
        by_contra positive
        rw [uncached (Nat.pos_of_ne_zero positive)] at cached
        cases cached
      rw [old, TicketTier.quantityAvailable, TicketTier.quantityAvailable, empty, Nat.add_zero]
    · exact before other row found quantity cached

/-- **`create_hold` leaves no stale value exactly when it keeps its condition.** -/
theorem createHold_fresh_iff {platform : Platform} {now : Time} (fresh : platform.FreshFrom now)
    (user : Uuid) (tierId : String) (quantity : ℤ) (inputs : ℕ → Ticketing.Input) :
    Platform.FreshFrom { platform with
      world := ((createHold user tierId quantity).run Ticketing.store none inputs none
        platform.world).2 } now ↔
      Call.Keeps now platform (.checkout (.request (.createHold user tierId quantity)) inputs) := by
  have spec := createHold_run user tierId quantity inputs platform.world
  simp only [Runs] at spec
  generalize ran : (createHold user tierId quantity).run Ticketing.store none inputs none
    platform.world = result at spec ⊢
  generalize heldUpdates (createHold user tierId quantity) inputs platform.world = written at spec
  cases spec with
  | raised error =>
      refine iff_of_true fresh fun id parsed _ _ places => ?_
      obtain ⟨value, after, returned⟩ := createHold_returns parsed places
      cases ran.symm.trans returned
  | @placed id token tier hold dies parsed present belowCap fits quantityEq userEq tierEq active
      absent =>
      obtain rfl := (createHold_times ran).1
      by_cases spelled : tierId = id.str
      · refine iff_of_true (Invalidated.fresh (.one id ?_ ?_ ?_) fresh)
          fun other parsed' misspelled => ?_
        · intro other different
          exact Table.get_set_of_ne _ _ different
        · intro other there
          exact get_set_ne_none there
        · simp only [Redis.placed, spelled]
        · obtain rfl := Option.some.inj (parsed.symm.trans parsed')
          exact absurd spelled misspelled
      · -- the deleted key belongs to no tier
        rw [placed_fresh_iff fresh present (quantityEq ▸ fits) fun other => ?_]
        · constructor
          · intro uncached other parsed' _ positive _
            obtain rfl := Option.some.inj (parsed.symm.trans parsed')
            exact uncached (by omega)
          · intro keeps positive
            have places : Places platform.world user id quantity (inputs 3).uuid :=
              ⟨⟨tier, present, belowCap, fits⟩, by omega, absent⟩
            exact keeps id parsed spelled (by omega) places
        · have different : other.str ≠ tierId := by
            rintro rfl
            have named := (Uuid.parse_str other).symm.trans parsed
            exact spelled (congrArg Uuid.str (Option.some.inj named))
          simp only [Redis.placed, Function.update_of_ne different]

/-! ## `request_refund` -/

/-- **A refund leaves no stale value exactly when it keeps its condition.** -/
theorem requestRefund_fresh_iff {service : AuditService}
    (returns : ∀ call input trail, ∃ made, service call input trail = .ok made) (contentType : ℕ)
    {platform : Platform} {now : Time} (referential : platform.ledger.Referential)
    (fresh : platform.FreshFrom now) (request : RefundRequest) (inputs : ℕ → Payments.Input) :
    ((Call.requestRefund request inputs).run service contentType now platform).FreshFrom now ↔
      (Call.requestRefund request inputs).Keeps now platform := by
  have spec := requestRefund_run returns referential contentType request.paymentId request.reason
    request.actor inputs
  have before := Platform.freshFrom_iff.mp fresh
  simp only [Call.run, RefundRequest.run]
  generalize (requestRefund contentType request.paymentId request.reason request.actor).run
    (Payments.store service) none inputs none platform.ledger = result at spec ⊢
  cases spec with
  | refused error reason =>
      refine iff_of_true fresh fun id parsed refunds => ?_
      obtain ⟨payment, stored, succeeded⟩ := Option.map_eq_some_iff.mp refunds.succeeded
      cases reason id payment parsed stored with
      | notSucceeded other => exact absurd succeeded other
      | postCheckin stored ofPayment used =>
          exact absurd used (refunds.unused _ _ stored ofPayment)
      | integrity present short => exact absurd (refunds.sold _ _ present) (not_le.mpr short)
  | @refunded id payment after parsed stored done =>
      rw [Platform.freshFrom_iff]
      constructor
      · intro fresher other parsed' _ tierId tier present
        obtain rfl := Option.some.inj (parsed.symm.trans parsed')
        obtain ⟨sold, counted, written⟩ := done.tiers tierId tier present
        cases cached : getCachedAvailability platform.world.redis now tierId.str with
        | none => exact .inl rfl
        | some quantity =>
            have old := before tierId tier present quantity cached
            have new := fresher tierId _ written quantity cached
            simp only [TicketTier.quantityAvailable] at old new
            refine .inr ?_
            omega
      · intro keeps tierId row found quantity cached
        have refunds : Refunds platform.ledger id := by
          refine ⟨by rw [stored, Option.map_some, done.succeeded], done.unused, ?_⟩
          intro tierId tier present
          obtain ⟨sold, counted, -⟩ := done.tiers tierId tier present
          exact counted ▸ Nat.le_add_left _ sold
        cases present : platform.world.db.tiers.get tierId with
        | none => cases (done.noTier tierId present).symm.trans found
        | some tier =>
            obtain ⟨sold, counted, written⟩ := done.tiers tierId tier present
            obtain rfl := Option.some.inj (written.symm.trans found)
            have old := before tierId tier present quantity cached
            simp only [TicketTier.quantityAvailable] at old ⊢
            rcases keeps id parsed refunds tierId tier present with uncached | none | soldOut
            · cases uncached.symm.trans cached
            · omega
            · omega

/-! ## One call -/

/-- A filled cache shows what is available. -/
theorem fillCache_fresh (service : AuditService) (contentType : ℕ) {platform : Platform}
    {now : Time} (fresh : platform.FreshFrom now) (tierId : Uuid) :
    ((Call.fillCache tierId).run service contentType now platform).FreshFrom now := by
  simp only [Call.run]
  cases present : platform.world.db.tiers.get tierId with
  | none => exact fresh
  | some tier =>
      rw [Platform.freshFrom_iff]
      intro other row there quantity found
      obtain ⟨dies, cached, alive⟩ := Cache.live_eq_some.mp found
      simp only [setCachedAvailability] at cached
      by_cases same : other = tierId
      · subst same
        obtain rfl := Option.some.inj (present.symm.trans there)
        rw [Cache.store_self] at cached
        exact (congrArg Prod.fst (Option.some.inj cached)).symm
      · have different : other.str ≠ tierId.str := fun text => same (Uuid.str_injective text)
        rw [Cache.store_of_ne _ _ _ different] at cached
        exact fresh now le_rfl other row there quantity
          (Cache.live_eq_some.mpr ⟨dies, cached, alive⟩)

/-- No job removes a tier. -/
theorem Job.keeps_tiers (job : Job) (inputs : ℕ → Ticketing.Input) (world : World) (id : Uuid)
    (there : world.db.tiers.get id ≠ none) :
    (job.program.run Ticketing.store none inputs none world).2.db.tiers.get id ≠ none := by
  match job with
  | .request (.createHold user tierId quantity) =>
      have spec := createHold_run user tierId quantity inputs world
      simp only [Runs] at spec
      rw [Job.program, Request.program, Program.run_discard]
      generalize (createHold user tierId quantity).run Ticketing.store none inputs none world
        = result at spec ⊢
      generalize heldUpdates (createHold user tierId quantity) inputs world = written at spec
      cases spec with
      | raised error => exact there
      | placed => exact get_set_ne_none there
  | .request (.releaseHoldByToken holdToken) =>
      rw [Job.program, Request.program]
      exact (Invalidated.release
        (@releaseHoldByToken_run (fun _ => True) holdToken inputs world)).present id there
  | .request (.releaseHoldOnPaymentTimeout holdToken) =>
      rw [Job.program, Request.program]
      exact (Invalidated.release
        (releaseHoldOnPaymentTimeout_run holdToken inputs world)).present id there
  | .sweepExpiredHolds =>
      rw [Job.program, Program.run_discard]
      exact (Invalidated.sweep inputs world).present id there

section Step

variable {service : AuditService}
  (returns : ∀ call input trail, ∃ made, service call input trail = .ok made) (contentType : ℕ)
  {platform : Platform} {now : Time}

include returns

/-- **One call** leaves no stale value exactly when it keeps its condition. -/
theorem Call.fresh_iff (call : Call) (referential : platform.ledger.Referential)
    (fresh : platform.FreshFrom now) :
    (call.run service contentType now platform).FreshFrom now ↔ call.Keeps now platform := by
  match call with
  | .checkout (.request (.createHold user tierId quantity)) inputs =>
      rw [Call.run, Job.program, Request.program, Program.run_discard]
      exact createHold_fresh_iff fresh user tierId quantity inputs
  | .checkout (.request (.releaseHoldByToken holdToken)) inputs =>
      rw [Call.run, Job.program, Request.program]
      have invalidated := Invalidated.release
        (@releaseHoldByToken_run (fun _ => True) holdToken inputs platform.world)
      exact iff_of_true (invalidated.fresh fresh) trivial
  | .checkout (.request (.releaseHoldOnPaymentTimeout holdToken)) inputs =>
      rw [Call.run, Job.program, Request.program]
      have invalidated := Invalidated.release
        (releaseHoldOnPaymentTimeout_run holdToken inputs platform.world)
      exact iff_of_true (invalidated.fresh fresh) trivial
  | .checkout .sweepExpiredHolds inputs =>
      rw [Call.run, Job.program, Program.run_discard]
      exact iff_of_true ((Invalidated.sweep inputs platform.world).fresh fresh) trivial
  | .requestRefund request inputs =>
      exact requestRefund_fresh_iff returns contentType referential fresh request inputs
  | .fillCache tierId =>
      exact iff_of_true (fillCache_fresh service contentType fresh tierId) trivial

/-- No call takes a tier from a ticket. -/
theorem Call.referential (call : Call) (referential : platform.ledger.Referential) :
    (call.run service contentType now platform).ledger.Referential := by
  match call with
  | .checkout job inputs =>
      intro ticketId ticket stored
      exact Job.keeps_tiers job inputs platform.world _ (referential ticketId ticket stored)
  | .requestRefund request inputs =>
      have spec := requestRefund_run returns referential contentType request.paymentId
        request.reason request.actor inputs
      simp only [Call.run, RefundRequest.run]
      generalize (Payments.requestRefund contentType request.paymentId request.reason
        request.actor).run (Payments.store service) none inputs none platform.ledger = result
        at spec ⊢
      cases spec with
      | refused error reason => exact referential
      | refunded parsed stored done => exact done.referential referential
  | .fillCache tierId =>
      simp only [Call.run]
      split
      · exact referential
      · intro ticketId ticket stored
        exact referential ticketId ticket stored

end Step

/-! ## Any sequence of calls -/

/-- **The cache is never stale, under a condition on every call.**  Where nothing
is stale at the start and the clock does not go back, no reader ever finds a stale
value between two calls if and only if every call keeps its condition. -/
theorem never_stale_iff {service : AuditService}
    (returns : ∀ call input trail, ∃ made, service call input trail = .ok made) (contentType : ℕ)
    (calls : List (Call × Time)) {start : Platform} {since : Time}
    (referential : start.ledger.Referential) (fresh : start.FreshFrom since)
    (clock : (since :: calls.map Prod.snd).Pairwise (· ≤ ·)) :
    AtEachCall service contentType (fun platform call =>
        (call.1.run service contentType call.2 platform).FreshFrom call.2) calls start ↔
      AtEachCall service contentType (fun platform call => call.1.Keeps call.2 platform)
        calls start := by
  induction calls generalizing start since with
  | nil => exact Iff.rfl
  | cons head rest ih =>
      obtain ⟨call, now⟩ := head
      obtain ⟨later, ordered⟩ := List.pairwise_cons.mp clock
      have fresh := fresh.mono (later now List.mem_cons_self)
      have first := call.fresh_iff returns contentType referential fresh
      have rest (fresh : (call.run service contentType now start).FreshFrom now) :=
        ih (call.referential returns contentType referential) fresh ordered
      simp only [AtEachCall]
      constructor
      · rintro ⟨head, tail⟩
        exact ⟨first.mp head, (rest head).mp tail⟩
      · rintro ⟨head, tail⟩
        have head := first.mpr head
        exact ⟨head, (rest head).mpr tail⟩

/-! ### A sample -/

namespace Sample

open Payments.Sample (ledger ledger_referential)

/-- Fixed identifiers. -/
abbrev id (n : ℕ) : Uuid := Payments.Sample.id n

/-- The tables of the refund sample, and an empty cache. -/
def platform : Platform where
  world := ⟨⟨ledger.tiers, .empty⟩, ⟨fun _ => none, .empty, fun _ => none⟩⟩
  payments := ledger.payments
  tickets := ledger.tickets
  audit := ledger.audit

theorem platform_referential : platform.ledger.Referential := ledger_referential

theorem platform_fresh : platform.FreshFrom 0 := by
  intro now order tierId tier present quantity found
  cases found

/-- The refund of the payment with one ticket. -/
def refund : Call :=
  .requestRefund { paymentId := (id 31).str, reason := "Event cancelled" } fun n => .plain n (id 8)

/-- A hold of two tickets, the tier spelled without hyphens. -/
def hold : Call :=
  .checkout (.request (.createHold (id 5) "00000000000000000000000000000001" 2)) fun n =>
    .plain n (id 9)

/-- What a reader finds of the first tier, and what is available. -/
def seen (platform : Platform) (now : Time) : Option ℤ × Option ℤ :=
  (getCachedAvailability platform.world.redis now (id 1).str,
    (platform.world.db.tiers.get (id 1)).map TicketTier.quantityAvailable)

end Sample

theorem never_stale_iff_sample :
    AtEachCall Payments.Sample.appending 7 (fun platform call =>
        (call.1.run Payments.Sample.appending 7 call.2 platform).FreshFrom call.2)
      [(Sample.refund, 0), (.fillCache (Sample.id 1), 1)] Sample.platform := by
  refine (never_stale_iff Payments.Sample.appending_returns 7 _ Sample.platform_referential
    Sample.platform_fresh (by decide)).mpr ⟨?_, trivial, trivial⟩
  intro id parsed refunds tierId tier present
  exact .inl rfl

/-- **A stale value.**  The cache is filled; then one ticket is refunded, or a hold
of two is placed under another spelling of the tier.  The reader goes on finding
the old value. -/
theorem stale_after_refund :
    let service := Payments.Sample.appending
    let start := Sample.platform
    let filled := (Call.fillCache (Sample.id 1)).run service 7 0 start
    start.FreshFrom 0 ∧ Sample.seen filled 0 = (some 5, some 5) ∧
      Sample.seen (Sample.refund.run service 7 1 filled) 1 = (some 5, some 6) ∧
      Sample.seen (Sample.hold.run service 7 1 filled) 1 = (some 5, some 3) := by
  refine ⟨Sample.platform_fresh, ?_, ?_, ?_⟩ <;> decide +kernel

end Ticketing.Availability
