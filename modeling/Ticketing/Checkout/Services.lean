import Ticketing.Checkout.Store

/-!
# The checkout code

The functions of `checkout/services.py`, `checkout/tasks.py` and
`payments/tasks.py` as programs, statement by statement, together with the
Redis helpers they call.

## Main Definitions

* `createHold` — `create_hold`
* `releaseHoldByToken` — `release_hold_by_token`
* `releaseHoldOnPaymentTimeout` — `release_hold_on_payment_timeout`
* `sweepExpiredHolds` — `sweep_expired_holds`

## Design Notes

`tier.event` is read from the tier row: loading the event object is a plain read
whose only use is its id.  Logging is left out.
-/

namespace Ticketing

open Transactional

/-- Checkout programs. -/
abbrev Checkout := Program signature CheckoutError

section Statements

/-- `timezone.now()`, `time.time()`. -/
def now : Checkout Time := .send (S := signature) (.env .now)

/-- `uuid.uuid4()`. -/
def uuid4 : Checkout Uuid := .send (S := signature) (.env .uuid4)

/-- Send one SQL statement. -/
def sql (stmt : SqlStmt) : Checkout stmt.Res := .send (S := signature) (.sql stmt)

/-- Send one Redis statement. -/
def redis (stmt : RedisStmt) : Checkout stmt.Res := .send (S := signature) (.redis stmt)

end Statements

/-! ## Redis helpers -/

/-- `HOLD_TTL_BUFFER`, in seconds. -/
def holdTtlBuffer : ℤ := 60

/-- `HOLD_DURATION_MINUTES`, as a time span. -/
def holdDuration : Time := 15 * (60 * second)

/-- The TTL of a registry entry, in seconds: `int()` truncates. -/
def holdTtl (expiresAt now : Time) : ℤ :=
  max 1 (Int.tdiv (expiresAt - now) second + holdTtlBuffer)

/-- `register_hold`. -/
def registerHold (holdToken : String) (entry : HoldEntry) : Checkout Unit := do
  let readAt ← now
  redis (.setHold holdToken entry (holdTtl entry.expiresAt readAt))

/-- `release_hold`. -/
def releaseHold (holdToken : String) : Checkout Unit := redis (.deleteHold holdToken)

/-- `push_hold_expiry`. -/
def pushHoldExpiry (holdToken : String) (expiresAt : Time) : Checkout Unit :=
  redis (.zadd holdToken expiresAt)

/-- `pop_expired_holds`. -/
def popExpiredHolds : Checkout (List String) := do
  let readAt ← now
  redis (.zpop readAt)

/-- `remove_from_expiry_set`. -/
def removeFromExpirySet (holdToken : String) : Checkout Unit := redis (.zrem holdToken)

/-- `invalidate_availability`. -/
def invalidateAvailability (tierId : String) : Checkout Unit := redis (.deleteAvailability tierId)

/-! ## Services -/

/-- `create_hold` after both guards have passed. -/
def placeHold (user : Uuid) (tierId : String) (id : Uuid) (tier : TicketTier) (quantity : ℤ) :
    Checkout (Uuid × CheckoutHold) := do
  let readAt ← now
  let expiresAt := readAt + holdDuration
  let token ← uuid4
  let hold ← sql (.insertHold token user id quantity expiresAt)
  -- the new value is computed from the row that was read under the lock
  sql (.updateQuantityHeld id (.plus tier.quantityHeld quantity))
  registerHold token.str { tierId, quantity, expiresAt, userId := user.str }
  pushHoldExpiry token.str expiresAt
  invalidateAvailability tierId
  return (token, hold)

/-- `create_hold`: lock the tier, check both guards, place the hold. -/
def createHold (user : Uuid) (tierId : String) (quantity : ℤ) : Checkout (Uuid × CheckoutHold) :=
  .atomic do
    match Uuid.parse tierId with
    | none => .raise (.invalidUuid tierId)
    | some id =>
      match ← sql (.selectTierForUpdate id) with
      | none => .raise .tierDoesNotExist
      | some tier =>
        let activeHoldsCount ← sql (.countActiveHolds user tier.event)
        if activeHoldsCount ≥ maxHoldsPerUserPerEvent then .raise .holdAbuse
        else if tier.quantityAvailable < quantity then
          .raise (.insufficientInventory tier.quantityAvailable quantity)
        else placeHold user tierId id tier quantity

/-- `release_hold_by_token` once the ACTIVE hold has been locked. -/
def returnStock (holdToken : String) (token : Uuid) (hold : CheckoutHold) : Checkout Unit := do
  sql (.saveStatus token .released)
  -- `hold.tier` is loaded here for the first time, without a lock
  match ← sql (.selectTier hold.tierId) with
  | none => .raise .tierDoesNotExist
  | some tier =>
    sql (.updateQuantityHeld hold.tierId (.minus tier.quantityHeld token hold))
    releaseHold holdToken
    invalidateAvailability hold.tierId.str

/-- `release_hold_by_token`: a token without an ACTIVE hold is ignored. -/
def releaseHoldByToken (holdToken : String) : Checkout Unit :=
  .atomic do
    match Uuid.parse holdToken with
    | none => .raise (.invalidUuid holdToken)
    | some token =>
      match ← sql (.selectActiveHoldForUpdate token) with
      | none => return ()
      | some hold => returnStock holdToken token hold

/-- `release_hold_on_payment_timeout`: release a hold that is ACTIVE and expired. -/
def releaseHoldOnPaymentTimeout (holdToken : String) : Checkout Unit := do
  match Uuid.parse holdToken with
  | none => .raise (.invalidUuid holdToken)
  | some token =>
    match ← sql (.selectHold token) with
    | none => return ()
    | some hold =>
      if hold.status = .active then
        let readAt ← now
        if readAt > hold.expiresAt then releaseHoldByToken holdToken else return ()
      else return ()

/-- The loop of `sweep_expired_holds` over the rows of its query, each with the
copy of its tier that the query has loaded. -/
def sweepLoop : List SweepRow → ℕ → Checkout ℕ
  | [], expiredCount => return expiredCount
  | ⟨token, hold, tier⟩ :: rest, expiredCount => do
    sql (.saveStatus token .expired)
    -- computed from the copy in the row, which is as old as the query
    sql (.updateQuantityHeld hold.tierId (.minus tier.quantityHeld token hold))
    releaseHold token.str
    invalidateAvailability hold.tierId.str
    sweepLoop rest (expiredCount + 1)

/-- `sweep_expired_holds`; every statement is committed on its own. -/
def sweepExpiredHolds : Checkout ℕ := do
  let expiredTokens ← popExpiredHolds
  if expiredTokens = [] then return 0
  else
    match expiredTokens.mapM Uuid.parse with
    | none => .raise (.invalidUuid (toString expiredTokens))
    | some tokens =>
      -- the tokens have left the sorted set before the holds are looked up
      let holds ← sql (.selectActiveHolds tokens)
      sweepLoop holds 0

end Ticketing
