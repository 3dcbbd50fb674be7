import Ticketing.Transactional.Table
import Ticketing.Transactional.Program
import Ticketing.Uuid

/-!
# The stores behind the checkout

The rows of `inventory/models.py` and `checkout/models.py`, the Redis structures
of `checkout/hold_registry.py`, `checkout/expiry_heap.py` and
`inventory/availability_cache.py`, and what each statement of the checkout code
does to them when nobody else is connected.

## Main Definitions

* `TicketTier`, `CheckoutHold` — the two tables of the checkout
* `Database`, `Redis`, `World` — the stores
* `SqlStmt`, `RedisStmt`, `Stmt` — the statements the code sends
* `Database.exec`, `Redis.exec`, `store` — a single client's view of them

## Design Notes

A `PositiveIntegerField` is a natural number; the code computes in integers, and
the database raises `IntegrityError` where a negative value arrives.  The UPDATE
of `quantity_held` carries the expression it was computed from (`HeldExpr`):
every call site writes an absolute value made of a copy of the counter and a
quantity, and the history of a run can tell which hold a subtraction was for.

Redis keys of different kinds never collide (they differ in their prefix), so
each kind is a map of its own, keyed by the text after the prefix.
-/

namespace Ticketing

open Transactional

/-- Instants, in microseconds. -/
abbrev Time := ℤ

/-- One second. -/
def second : Time := 1000000

/-! ## Rows -/

/-- A row of `inventory_tier`, keyed by its id. -/
structure TicketTier where
  event : Uuid
  quantityTotal : ℕ
  quantityHeld : ℕ := 0
  quantitySold : ℕ := 0
  deriving DecidableEq

/-- `TicketTier.quantity_available`. -/
def TicketTier.quantityAvailable (tier : TicketTier) : ℤ :=
  max 0 ((tier.quantityTotal : ℤ) - tier.quantityHeld - tier.quantitySold)

inductive HoldStatus
  | active
  | expired
  | confirmed
  | released
  deriving DecidableEq

/-- A row of `checkout_hold`, keyed by its hold token. -/
structure CheckoutHold where
  user : Uuid
  tierId : Uuid
  quantity : ℕ := 1
  status : HoldStatus := .active
  expiresAt : Time
  deriving DecidableEq

/-- The relational database. -/
@[ext]
structure Database where
  tiers : Table Uuid TicketTier
  holds : Table Uuid CheckoutHold

namespace Database

/-- The quantity of `hold` if it is a hold of `tierId` whose status counts. -/
def heldBy (counted : HoldStatus → Bool) (tierId : Uuid) (hold : CheckoutHold) : ℕ :=
  if hold.tierId = tierId ∧ counted hold.status then hold.quantity else 0

/-- The sum of quantity over the holds of a tier whose status counts. -/
def quantitySum (counted : HoldStatus → Bool) (db : Database) (tierId : Uuid) : ℕ :=
  db.holds.total (heldBy counted tierId)

/-- The sum of quantity over the ACTIVE holds of a tier. -/
def heldSum (db : Database) (tierId : Uuid) : ℕ := db.quantitySum (· = .active) tierId

/-- `hold` is an ACTIVE hold of `user` on `event`. -/
def countsFor (db : Database) (user event : Uuid) (hold : CheckoutHold) : ℕ :=
  if hold.user = user ∧ hold.status = .active ∧
      (db.tiers.get hold.tierId).map TicketTier.event = some event then 1 else 0

/-- `CheckoutHold.objects.filter(user=user, tier__event=event, status=ACTIVE).count()`. -/
def activeHoldsCount (db : Database) (user event : Uuid) : ℕ :=
  db.holds.total (db.countsFor user event)

end Database

/-! ## Redis -/

/-- A registry entry (`HoldEntry`). -/
structure HoldEntry where
  tierId : String
  quantity : ℤ
  expiresAt : Time
  userId : String
  deriving DecidableEq

/-- A sorted set: members with their scores, each member once. -/
structure SortedSet where
  entries : List (String × Time)
  nodup : (entries.map Prod.fst).Nodup

namespace SortedSet

def empty : SortedSet := ⟨[], List.nodup_nil⟩

/-- `ZADD`: the score of a member is replaced. -/
def add (set : SortedSet) (member : String) (score : Time) : SortedSet where
  entries := set.entries.filter (·.1 ≠ member) ++ [(member, score)]
  nodup := by
    rw [List.map_append, List.nodup_append]
    refine ⟨set.nodup.sublist (List.filter_sublist.map _), List.nodup_singleton _, ?_⟩
    intro other kept last added
    obtain ⟨entry, found, rfl⟩ := List.mem_map.mp kept
    obtain rfl : last = member := by simpa using added
    simpa using (List.mem_filter.mp found).2

/-- `ZREM`. -/
def remove (set : SortedSet) (member : String) : SortedSet where
  entries := set.entries.filter (·.1 ≠ member)
  nodup := set.nodup.sublist (List.filter_sublist.map _)

/-- The score lies between 0 and `limit`. -/
def isDue (limit : Time) (entry : String × Time) : Bool := decide (0 ≤ entry.2 ∧ entry.2 ≤ limit)

/-- The order of a sorted set: by score, then by member. -/
def before (first second : String × Time) : Bool :=
  decide (first.2 < second.2 ∨ first.2 = second.2 ∧ first.1 ≤ second.1)

/-- `ZRANGEBYSCORE 0 limit`. -/
def rangeByScore (set : SortedSet) (limit : Time) : List String :=
  ((set.entries.filter (isDue limit)).insertionSort (before · ·)).map Prod.fst

/-- `ZREMRANGEBYSCORE 0 limit`. -/
def removeRangeByScore (set : SortedSet) (limit : Time) : SortedSet where
  entries := set.entries.filter fun entry => !isDue limit entry
  nodup := set.nodup.sublist (List.filter_sublist.map _)

/-- The members of a sorted set. -/
def members (set : SortedSet) : List String := set.entries.map Prod.fst

theorem mem_rangeByScore {set : SortedSet} {limit : Time} {member : String} :
    member ∈ set.rangeByScore limit ↔
      ∃ score, (member, score) ∈ set.entries ∧ isDue limit (member, score) = true := by
  simp [rangeByScore]

theorem mem_members_of_range {set : SortedSet} {limit : Time} {member : String}
    (found : member ∈ set.rangeByScore limit) : member ∈ set.members := by
  obtain ⟨score, inside, -⟩ := mem_rangeByScore.mp found
  exact List.mem_map_of_mem inside

theorem mem_add {set : SortedSet} {member other : String} {score score' : Time} :
    (other, score') ∈ (set.add member score).entries ↔
      if other = member then score' = score else (other, score') ∈ set.entries := by
  by_cases same : other = member <;> simp [add, same]

theorem mem_remove {set : SortedSet} {member other : String} {score : Time} :
    (other, score) ∈ (set.remove member).entries ↔
      other ≠ member ∧ (other, score) ∈ set.entries := by
  simp [remove, and_comm]

theorem mem_removeRangeByScore {set : SortedSet} {limit : Time} {entry : String × Time} :
    entry ∈ (set.removeRangeByScore limit).entries ↔
      entry ∈ set.entries ∧ isDue limit entry = false := by
  simp [removeRangeByScore]

/-- The range lists each member once. -/
theorem nodup_rangeByScore (set : SortedSet) (limit : Time) : (set.rangeByScore limit).Nodup := by
  have sorted := (List.perm_insertionSort (before · ·) (set.entries.filter (isDue limit))).map
    Prod.fst
  exact sorted.nodup_iff.mpr (set.nodup.sublist (List.filter_sublist.map _))

/-- A member in the range is removed with it. -/
theorem not_mem_removeRangeByScore {set : SortedSet} {limit : Time} {member : String}
    (found : member ∈ set.rangeByScore limit) :
    member ∉ (set.removeRangeByScore limit).members := by
  intro kept
  obtain ⟨score, inside, due⟩ := mem_rangeByScore.mp found
  obtain ⟨entry, remains, rfl⟩ := List.mem_map.mp kept
  obtain ⟨inside', late⟩ := List.mem_filter.mp remains
  have same : entry = (entry.1, score) :=
    List.inj_on_of_nodup_map set.nodup inside' inside rfl
  rw [← same] at due
  simp [due] at late

end SortedSet

/-- The Redis structures of the checkout.  A cached value is stored with the
instant at which its key disappears. -/
structure Redis where
  /-- Keys `hold:<token>`. -/
  registry : String → Option (HoldEntry × Time)
  /-- The sorted set `hold_expiry_zset`. -/
  expiryZset : SortedSet
  /-- Keys `tier_avail:<tier id>`. -/
  availability : String → Option (ℤ × Time)

/-- Everything the checkout writes to. -/
structure World where
  db : Database
  redis : Redis

/-! ## Statements -/

/-- The expression of an UPDATE of `quantity_held`. -/
inductive HeldExpr
  /-- `tier.quantity_held + quantity`. -/
  | plus (quantityHeld : ℕ) (quantity : ℤ)
  /-- `hold.tier.quantity_held - hold.quantity`, for the hold stored under `token`. -/
  | minus (quantityHeld : ℕ) (token : Uuid) (hold : CheckoutHold)

/-- The absolute value the UPDATE writes. -/
def HeldExpr.value : HeldExpr → ℤ
  | .plus quantityHeld quantity => quantityHeld + quantity
  | .minus quantityHeld _ hold => quantityHeld - hold.quantity

/-- A row of the sweep's query: a hold under its token, with a copy of its tier. -/
structure SweepRow where
  token : Uuid
  hold : CheckoutHold
  tier : TicketTier
  deriving DecidableEq

/-- What the code takes from its surroundings. -/
inductive EnvStmt
  /-- `timezone.now()` and `time.time()`. -/
  | now
  /-- `uuid.uuid4()`, the default of `hold_token`. -/
  | uuid4

inductive SqlStmt
  /-- `TicketTier.objects.select_for_update().get(id=id)`. -/
  | selectTierForUpdate (id : Uuid)
  /-- Loading `hold.tier`. -/
  | selectTier (id : Uuid)
  /-- `TicketTier.objects.filter(id=id).update(quantity_held=...)`. -/
  | updateQuantityHeld (id : Uuid) (quantityHeld : HeldExpr)
  /-- The count query of the abuse guard. -/
  | countActiveHolds (user event : Uuid)
  /-- `CheckoutHold.objects.get(hold_token=token)`. -/
  | selectHold (token : Uuid)
  /-- `CheckoutHold.objects.select_for_update().get(hold_token=token, status=ACTIVE)`. -/
  | selectActiveHoldForUpdate (token : Uuid)
  /-- `CheckoutHold.objects.filter(hold_token__in=tokens, status=ACTIVE).select_related('tier')`. -/
  | selectActiveHolds (tokens : List Uuid)
  /-- `CheckoutHold.objects.create(...)`. -/
  | insertHold (token user tierId : Uuid) (quantity : ℤ) (expiresAt : Time)
  /-- `hold.save(update_fields=['status'])`. -/
  | saveStatus (token : Uuid) (status : HoldStatus)

inductive RedisStmt
  /-- `cache.set('hold:<token>', entry, ttl)`. -/
  | setHold (token : String) (entry : HoldEntry) (ttl : ℤ)
  /-- `cache.delete('hold:<token>')`. -/
  | deleteHold (token : String)
  /-- `cache.delete('tier_avail:<tier id>')`. -/
  | deleteAvailability (tierId : String)
  /-- `ZADD hold_expiry_zset score token`. -/
  | zadd (token : String) (score : Time)
  /-- `ZREM hold_expiry_zset token`. -/
  | zrem (token : String)
  /-- `ZRANGEBYSCORE` and `ZREMRANGEBYSCORE hold_expiry_zset 0 now` in one pipeline. -/
  | zpop (now : Time)

inductive Stmt
  | env (stmt : EnvStmt)
  | sql (stmt : SqlStmt)
  | redis (stmt : RedisStmt)

@[reducible] def EnvStmt.Res : EnvStmt → Type
  | .now => Time
  | .uuid4 => Uuid

@[reducible] def SqlStmt.Res : SqlStmt → Type
  | .selectTierForUpdate _ => Option TicketTier
  | .selectTier _ => Option TicketTier
  | .updateQuantityHeld _ _ => Unit
  | .countActiveHolds _ _ => ℕ
  | .selectHold _ => Option CheckoutHold
  | .selectActiveHoldForUpdate _ => Option CheckoutHold
  | .selectActiveHolds _ => List SweepRow
  | .insertHold .. => CheckoutHold
  | .saveStatus _ _ => Unit

@[reducible] def RedisStmt.Res : RedisStmt → Type
  | .zpop _ => List String
  | _ => Unit

@[reducible] def Stmt.Res : Stmt → Type
  | .env stmt => stmt.Res
  | .sql stmt => stmt.Res
  | .redis stmt => stmt.Res

/-- The statements of the checkout. -/
@[reducible] def signature : Signature where
  Stmt := Stmt
  Res := Stmt.Res

/-- `MAX_HOLDS_PER_USER_PER_EVENT`. -/
def maxHoldsPerUserPerEvent : ℕ := 2

/-- The exceptions of the checkout, of Django and of the database. -/
inductive CheckoutError
  /-- `HoldAbuseError`. -/
  | holdAbuse
  /-- `InsufficientInventoryError`. -/
  | insufficientInventory (available quantity : ℤ)
  /-- `TicketTier.DoesNotExist`. -/
  | tierDoesNotExist
  /-- `ValidationError`: the text is not a UUID. -/
  | invalidUuid (text : String)
  /-- `IntegrityError`: a negative quantity, a second row under a key, a missing tier. -/
  | integrity
  /-- `DatabaseError`: a `save(update_fields=...)` that affects no row. -/
  | noRowsAffected
  /-- A lost connection, a killed worker. -/
  | connection
  deriving DecidableEq

/-- The texts of `HoldAbuseError` and `InsufficientInventoryError`. -/
def CheckoutError.message : CheckoutError → Option String
  | .holdAbuse =>
      some s!"Maximum {maxHoldsPerUserPerEvent} active holds per event. Release existing holds first."
  | .insufficientInventory available quantity =>
      some s!"Only {available} tickets available, {quantity} requested."
  | _ => none

/-- What one statement takes from its surroundings: the clock, the next random
identifier, and the order in which the database lists the rows of a query. -/
structure Input where
  now : Time
  uuid : Uuid
  order : List SweepRow → List SweepRow
  /-- Listing the rows neither drops nor repeats one. -/
  order_perm : ∀ rows, (order rows).Perm rows

/-- An input whose rows come in the order in which they were asked for. -/
def Input.plain (now : Time) (uuid : Uuid) : Input := ⟨now, uuid, id, fun _ => .refl _⟩

def EnvStmt.answer (input : Input) : (stmt : EnvStmt) → stmt.Res
  | .now => input.now
  | .uuid4 => input.uuid

namespace Redis

/-- One statement on Redis, executed at `input.now`. -/
def exec (input : Input) : (stmt : RedisStmt) → Redis → stmt.Res × Redis
  | .setHold token entry ttl, redis =>
      ((), { redis with
        registry := Function.update redis.registry token (some (entry, input.now + ttl * second)) })
  | .deleteHold token, redis =>
      ((), { redis with registry := Function.update redis.registry token none })
  | .deleteAvailability tierId, redis =>
      ((), { redis with availability := Function.update redis.availability tierId none })
  | .zadd token score, redis =>
      ((), { redis with expiryZset := redis.expiryZset.add token score })
  | .zrem token, redis =>
      ((), { redis with expiryZset := redis.expiryZset.remove token })
  | .zpop now, redis =>
      (redis.expiryZset.rangeByScore now,
        { redis with expiryZset := redis.expiryZset.removeRangeByScore now })

end Redis

namespace Database

/-- The ACTIVE holds among `tokens`, each with its tier; a repeated token names one row. -/
def activeHolds (db : Database) (tokens : List Uuid) : List SweepRow :=
  tokens.dedup.filterMap fun token =>
    ((db.holds.get token).filter (·.status = .active)).bind fun hold =>
      (db.tiers.get hold.tierId).map fun tier => ⟨token, hold, tier⟩

/-- One SQL statement of a single client. -/
def exec (input : Input) : (stmt : SqlStmt) → Database → Except CheckoutError (stmt.Res × Database)
  | .selectTierForUpdate id, db => .ok (db.tiers.get id, db)
  | .selectTier id, db => .ok (db.tiers.get id, db)
  | .updateQuantityHeld id quantityHeld, db =>
      match db.tiers.get id with
      | none => .ok ((), db)
      | some tier =>
          if quantityHeld.value < 0 then .error .integrity
          else .ok ((), { db with
            tiers := db.tiers.set id { tier with quantityHeld := quantityHeld.value.toNat } })
  | .countActiveHolds user event, db => .ok (db.activeHoldsCount user event, db)
  | .selectHold token, db => .ok (db.holds.get token, db)
  | .selectActiveHoldForUpdate token, db =>
      .ok ((db.holds.get token).filter (·.status = .active), db)
  | .selectActiveHolds tokens, db => .ok (input.order (db.activeHolds tokens), db)
  | .insertHold token user tierId quantity expiresAt, db =>
      if quantity < 0 ∨ db.tiers.get tierId = none ∨ (db.holds.get token).isSome then
        .error .integrity
      else
        let hold : CheckoutHold :=
          { user, tierId, quantity := quantity.toNat, expiresAt }
        .ok (hold, { db with holds := db.holds.set token hold })
  | .saveStatus token status, db =>
      match db.holds.get token with
      | none => .error .noRowsAffected
      | some hold => .ok ((), { db with holds := db.holds.set token { hold with status } })

end Database

/-- One statement of a single client. -/
def World.exec (input : Input) : (stmt : Stmt) → World → Except CheckoutError (stmt.Res × World)
  | .env stmt, world => .ok (stmt.answer input, world)
  | .sql stmt, world =>
      (world.db.exec input stmt).map fun result => (result.1, { world with db := result.2 })
  | .redis stmt, world =>
      let result := world.redis.exec input stmt
      .ok (result.1, { world with redis := result.2 })

/-- The stores as a single client sees them.  A rollback restores the database;
what has been written to Redis stays. -/
def store : Store signature Input World CheckoutError where
  exec := World.exec
  rollback saved world := { world with db := saved.db }

end Ticketing
