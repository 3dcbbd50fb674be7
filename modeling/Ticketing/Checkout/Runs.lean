import Ticketing.Checkout.Lifecycle

/-!
# Serial runs with sweeps

Requests and sweeps, one complete call after another.  The sorted set is kept by
other operations than the hold table and drifts away from it: released tokens
stay queued, and popped tokens are gone.  The sweep still finds what a query over
the whole table would.

## Main Definitions

* `serialJobs` — sequences of complete calls, sweeps included
* `CheckoutHold.Stale` — the query that the sorted set replaces
* `Queued` — the sorted set knows every ACTIVE hold

## Main Results

* `sweepExpiredHolds_complete` — everything one complete sweep does
* `serialJobs_queued` — the invariant holds after any sequence of calls
* `sweep_is_full_scan` — the sweep changes exactly the holds the query selects

## Design Notes

The counters are no part of the invariant except as an upper bound: a sweep that
expires several holds of one tier leaves too much in `quantity_held`, and the
next sweep subtracts from what it finds.
-/

namespace Ticketing

open Transactional Program

/-! ## A complete sweep -/

/-- What the loop of the sweep leaves in Redis. -/
def Redis.swept (redis : Redis) (rows : List SweepRow) : Redis :=
  rows.foldl (fun redis row => redis.dropped row.token.str row.hold.tierId.str) redis

namespace Redis

theorem swept_cons (redis : Redis) (row : SweepRow) (rest : List SweepRow) :
    redis.swept (row :: rest) = (redis.dropped row.token.str row.hold.tierId.str).swept rest := by
  rw [swept, List.foldl_cons, swept]

@[simp] theorem swept_expiryZset (redis : Redis) (rows : List SweepRow) :
    (redis.swept rows).expiryZset = redis.expiryZset := by
  induction rows generalizing redis with
  | nil => rfl
  | cons row rest ih => rw [swept_cons, ih, dropped]

/-- The entries of the swept tokens are gone, the others are as before. -/
theorem swept_registry (redis : Redis) (rows : List SweepRow) (text : String) :
    (redis.swept rows).registry text
      = if text ∈ rows.map (·.token.str) then none else redis.registry text := by
  induction rows generalizing redis with
  | nil => rfl
  | cons row rest ih =>
      rw [swept_cons, ih]
      by_cases later : text ∈ rest.map (·.token.str)
      · simp [later]
      · by_cases first : text = row.token.str
        · simp [dropped, first]
        · simp [dropped, first, later]

end Redis

/-- **The loop of the sweep**, run to its end. -/
theorem sweepLoop_complete (rows : List SweepRow) (inputs : ℕ → Input) (world : World)
    (expiredCount : ℕ) (ready : Ready rows world.db) :
    (sweepLoop rows expiredCount).run store none inputs none world
      = (.returned (expiredCount + rows.length),
          ⟨⟨restore rows world.db.tiers, expire rows world.db.holds⟩, world.redis.swept rows⟩) := by
  induction rows generalizing inputs world expiredCount with
  | nil => rfl
  | cons row rest ih =>
      have save := ready.exec_saveStatus (inputs 0)
      have update := ready.exec_updateQuantityHeld (inputs 1)
        (world.db.holds.set row.token { row.hold with status := .expired })
      simp only [sweepLoop, sql, redis, releaseHold, invalidateAvailability, send, call_bind,
        done_bind]
      rw [run_sql_ok _ _ _ _ save, run_sql_ok _ _ _ _ update, run_redis, run_redis,
        ih _ _ _ ready.tail]
      rw [List.length_cons, Nat.add_right_comm, Nat.add_assoc, Redis.swept_cons, Redis.dropped]
      simp only [Redis.exec, restore_cons, expire_cons]

/-- **Specification of `sweep_expired_holds`.**  A complete sweep whose batch is
ready returns its length. -/
theorem sweepExpiredHolds_complete (inputs : ℕ → Input) (world : World) (tokens : List Uuid)
    (due : world.redis.expiryZset.rangeByScore (inputs 0).now = tokens.map Uuid.str)
    (ready : Ready (batch inputs world tokens) world.db) :
    let rows := batch inputs world tokens
    let popped := { world.redis with
      expiryZset := world.redis.expiryZset.removeRangeByScore (inputs 0).now }
    sweepExpiredHolds.run store none inputs none world
      = (.returned rows.length, ⟨⟨restore rows world.db.tiers, expire rows world.db.holds⟩,
          popped.swept rows⟩) := by
  intro rows popped
  simp only [sweepExpiredHolds, popExpiredHolds, now, redis, sql, send, call_bind, done_bind,
    run_env, run_redis, Redis.exec, EnvStmt.answer, due]
  by_cases empty : tokens = []
  · have nothing : rows = [] := by
      simp only [rows, empty, batch_nil]
    rw [nothing, empty]
    rfl
  · simp only [List.map_eq_nil_iff, empty, if_false, mapM_parse_str]
    have select : world.db.exec (inputs 2) (.selectActiveHolds tokens) = .ok (rows, world.db) := rfl
    rw [run_sql_ok _ _ _ _ select, sweepLoop_complete rows _ ⟨world.db, popped⟩ 0 ready,
      Nat.zero_add]

/-! ## The instants of a hold -/

/-- A run that returns has had an answer to its first query. -/
theorem run_sql_returned {α : Type} {inputs : ℕ → Input} {saved : Option World}
    {world after : World} {stmt : SqlStmt} {next : stmt.Res → Checkout α} {value : α}
    (ran : (call (S := signature) (.sql stmt) next).run store none inputs saved world
      = (.returned value, after)) :
    ∃ answer db, world.db.exec (inputs 0) stmt = .ok (answer, db) ∧
      (next answer).run store none (fun n => inputs (n + 1)) saved { world with db := db }
        = (.returned value, after) := by
  cases executed : world.db.exec (inputs 0) stmt with
  | error error =>
      rw [run_sql_error _ _ _ _ executed] at ran
      cases ran
  | ok result =>
      rw [run_sql_ok _ _ _ _ executed] at ran
      exact ⟨result.1, result.2, rfl, ran⟩

/-- The instant at which the registry entry of a new hold disappears, when
`register_hold` reads the clock at `readAt` and Redis receives the entry at `setAt`. -/
def entryDies (expiresAt readAt setAt : Time) : Time :=
  setAt + holdTtl expiresAt readAt * second

/-- **The TTL never drops an entry early**: truncation takes less than a second
off, and the buffer adds a minute. -/
theorem lt_entryDies {expiresAt readAt setAt : Time} (order : readAt ≤ setAt) :
    expiresAt < entryDies expiresAt readAt setAt := by
  have truncated : expiresAt - readAt < (Int.tdiv (expiresAt - readAt) second + 1) * second :=
    Int.lt_tdiv_add_one_mul_self _ (by decide)
  have buffered : Int.tdiv (expiresAt - readAt) second + 1 ≤ holdTtl expiresAt readAt := by
    refine le_trans ?_ (le_max_right ..)
    exact Int.add_le_add_left (by decide) _
  calc expiresAt
      = readAt + (expiresAt - readAt) := (add_sub_cancel readAt expiresAt).symm
    _ < readAt + (Int.tdiv (expiresAt - readAt) second + 1) * second :=
        Int.add_lt_add_left truncated _
    _ ≤ setAt + holdTtl expiresAt readAt * second :=
        add_le_add order (mul_le_mul_of_nonneg_right buffered (by decide))

/-- A new hold has the token drawn for it, expires 15 minutes after `create_hold`
has read the clock, and its entry disappears when the TTL computed by
`register_hold` runs out. -/
theorem createHold_times {user token : Uuid} {tierId : String} {quantity : ℤ} {inputs : ℕ → Input}
    {world after : World} {hold : CheckoutHold}
    (ran : (createHold user tierId quantity).run store none inputs none world
      = (.returned (token, hold), after)) :
    token = (inputs 3).uuid ∧ hold.expiresAt = (inputs 2).now + holdDuration ∧
      ∃ entry, after.redis.registry token.str
        = some (entry, entryDies hold.expiresAt (inputs 6).now (inputs 7).now) := by
  unfold createHold atomic at ran
  rw [run_begin] at ran
  cases parsed : Uuid.parse tierId with
  | none =>
      rw [parsed] at ran
      cases ran
  | some id =>
      simp only [parsed, sql, send, call_bind, done_bind] at ran
      obtain ⟨tier, db, selected, ran⟩ := run_sql_returned ran
      cases tier with
      | none => cases ran
      | some tier =>
          simp only [call_bind] at ran
          obtain ⟨count, db', counted, ran⟩ := run_sql_returned ran
          split at ran
          · cases ran
          · split at ran
            · cases ran
            · simp only [placeHold, now, uuid4, sql, redis, registerHold, pushHoldExpiry,
                invalidateAvailability, send, call_bind, done_bind, run_env, EnvStmt.answer] at ran
              obtain ⟨hold', db'', inserted, ran⟩ := run_sql_returned ran
              obtain ⟨-, db''', updated, ran⟩ := run_sql_returned ran
              simp only [run_env, run_redis, Redis.exec, EnvStmt.answer] at ran
              have times : hold'.expiresAt = (inputs 2).now + holdDuration := by
                simp only [Database.exec] at inserted
                split at inserted
                · cases inserted
                · cases inserted
                  rfl
              cases ran
              refine ⟨rfl, times, ⟨tierId, quantity, hold.expiresAt, user.str⟩, ?_⟩
              simp only [times, Function.update_self, entryDies, Nat.reduceAdd]

/-- **A request that passes both guards** and draws a new token is placed. -/
theorem createHold_goes {user id : Uuid} {tierId : String} {quantity : ℤ} {tier : TicketTier}
    {inputs : ℕ → Input} {world : World} (parsed : Uuid.parse tierId = some id)
    (present : world.db.tiers.get id = some tier)
    (belowCap : world.db.activeHoldsCount user tier.event < maxHoldsPerUserPerEvent)
    (nonneg : 0 ≤ quantity) (fits : quantity ≤ tier.quantityAvailable)
    (absent : world.db.holds.get (inputs 3).uuid = none) :
    let hold : CheckoutHold :=
      { user, tierId := id, quantity := quantity.toNat
        expiresAt := (inputs 2).now + holdDuration }
    (createHold user tierId quantity).run store none inputs none world
      = (.returned ((inputs 3).uuid, hold),
          ⟨world.db.place id tier (inputs 3).uuid hold,
            world.redis.placed (inputs 3).uuid.str
              { tierId, quantity, expiresAt := hold.expiresAt, userId := user.str }
              (entryDies hold.expiresAt (inputs 6).now (inputs 7).now)⟩) := by
  intro hold
  unfold createHold atomic
  rw [run_begin, parsed]
  simp only [sql, send, call_bind, done_bind]
  have select : world.db.exec (inputs 0) (.selectTierForUpdate id) = .ok (some tier, world.db) := by
    rw [← present]
    rfl
  rw [run_sql_ok _ _ _ _ select]
  simp only [call_bind]
  have count : world.db.exec (inputs 1) (.countActiveHolds user tier.event)
      = .ok (world.db.activeHoldsCount user tier.event, world.db) := rfl
  rw [run_sql_ok _ _ _ _ count]
  simp only [if_neg belowCap.not_ge, if_neg fits.not_gt, placeHold, now, uuid4, sql, redis,
    registerHold, pushHoldExpiry, invalidateAvailability, send, call_bind, done_bind, run_env,
    EnvStmt.answer]
  have insert : world.db.exec (inputs 4)
      (.insertHold (inputs 3).uuid user id quantity ((inputs 2).now + holdDuration))
        = .ok (hold, { world.db with holds := world.db.holds.set (inputs 3).uuid hold }) := by
    simp only [Database.exec, nonneg.not_gt, present, absent, reduceCtorEq, Option.isSome_none,
      Bool.false_eq_true, or_self, if_false]
    rfl
  rw [run_sql_ok _ _ _ _ insert]
  have value : (HeldExpr.plus tier.quantityHeld quantity).value
      = ((tier.quantityHeld + hold.quantity : ℕ) : ℤ) := by
    simp only [HeldExpr.value, hold]
    omega
  have update : Database.exec (inputs 5)
      (.updateQuantityHeld id (.plus tier.quantityHeld quantity))
      { world.db with holds := world.db.holds.set (inputs 3).uuid hold }
        = .ok ((), world.db.place id tier (inputs 3).uuid hold) := by
    simp only [Database.exec, present, value, if_neg (Int.natCast_nonneg _).not_gt,
      Int.toNat_natCast]
    rfl
  rw [run_sql_ok _ _ _ _ update]
  simp only [run_env, run_redis, Redis.exec, EnvStmt.answer]
  rfl

/-! ## Sequences of calls with sweeps -/

/-- The world after a sequence of complete calls, each with its own inputs. -/
def serialJobs : List (Job × (ℕ → Input)) → World → World
  | [], world => world
  | (job, inputs) :: rest, world =>
      serialJobs rest (job.program.run store none inputs none world).2

/-- `CheckoutHold.objects.filter(status=ACTIVE, expires_at__lte=now)` selects the hold. -/
def CheckoutHold.Stale (now : Time) (hold : CheckoutHold) : Prop :=
  hold.status = .active ∧ hold.expiresAt ≤ now

instance (now : Time) : DecidablePred (CheckoutHold.Stale now) := fun hold =>
  inferInstanceAs (Decidable (hold.status = .active ∧ hold.expiresAt ≤ now))

/-- The sorted set knows every ACTIVE hold, and nothing but holds; every hold has
its tier, whose counter covers its ACTIVE holds. -/
structure Queued (world : World) : Prop where
  hasTier : ∀ token hold, world.db.holds.get token = some hold →
    ∃ tier, world.db.tiers.get hold.tierId = some tier
  covered : ∀ id tier, world.db.tiers.get id = some tier → world.db.heldSum id ≤ tier.quantityHeld
  queued : ∀ token hold, world.db.holds.get token = some hold → hold.status = .active →
    (token.str, hold.expiresAt) ∈ world.redis.expiryZset.entries
  known : ∀ entry ∈ world.redis.expiryZset.entries, ∃ token hold,
    world.db.holds.get token = some hold ∧ entry = (token.str, hold.expiresAt)
  epoch : ∀ token hold, world.db.holds.get token = some hold → 0 ≤ hold.expiresAt

namespace Queued

/-- Nothing is queued, and there are no holds. -/
theorem start {world : World} (noHolds : world.db.holds = .empty)
    (noMembers : world.redis.expiryZset = .empty) : Queued world where
  hasTier token hold stored := by
    rw [noHolds] at stored
    cases stored
  covered id tier _ := by
    unfold Database.heldSum Database.quantitySum
    rw [noHolds, Table.total_empty]
    exact Nat.zero_le _
  queued token hold stored := by
    rw [noHolds] at stored
    cases stored
  known entry found := by
    rw [noMembers] at found
    cases found
  epoch token hold stored := by
    rw [noHolds] at stored
    cases stored

section Place

variable {world : World} {id token : Uuid} {tier : TicketTier} {hold : CheckoutHold}

/-- A new hold is queued under its token. -/
theorem place (queued : Queued world) (present : world.db.tiers.get id = some tier)
    (absent : world.db.holds.get token = none) (tierEq : hold.tierId = id)
    (active : hold.status = .active) (epoch : 0 ≤ hold.expiresAt) {redis : Redis}
    (added : redis.expiryZset = world.redis.expiryZset.add token.str hold.expiresAt) :
    Queued ⟨world.db.place id tier token hold, redis⟩ where
  hasTier other row stored := by
    simp only [Database.place, Table.get_set] at stored ⊢
    split at stored
    · cases stored
      simp [tierEq]
    · obtain ⟨tier', there⟩ := queued.hasTier other row stored
      split
      · exact ⟨_, rfl⟩
      · exact ⟨tier', there⟩
  covered other row found := by
    have sum : (world.db.place id tier token hold).quantitySum (· = .active) other
        = world.db.quantitySum (· = .active) other + Database.heldBy (· = .active) other hold :=
      Database.quantitySum_insert _ other absent rfl
    simp only [Database.heldSum, sum, Database.heldBy, tierEq, active, decide_true, and_true]
    simp only [Database.place, Table.get_set] at found
    -- the new hold raises the sum of its own tier by what the counter gains
    by_cases same : other = id
    · subst same
      have before : world.db.quantitySum (· = .active) other ≤ tier.quantityHeld :=
        queued.covered other tier present
      rw [if_pos rfl] at found
      cases found
      simp only [if_true]
      omega
    · rw [if_neg same] at found
      rw [if_neg (Ne.symm same), Nat.add_zero]
      exact queued.covered other row found
  queued other row stored live := by
    simp only [Database.place, Table.get_set] at stored
    simp only [added, SortedSet.add, List.mem_append, List.mem_filter, List.mem_singleton]
    split at stored
    · rename_i same
      subst same
      cases stored
      exact .inr rfl
    · rename_i different
      refine .inl ⟨queued.queued other row stored live, ?_⟩
      simpa using fun same => different (Uuid.str_injective same)
  known entry found := by
    simp only [added, SortedSet.add, List.mem_append, List.mem_filter, List.mem_singleton] at found
    simp only [Database.place, Table.get_set]
    rcases found with ⟨old, -⟩ | rfl
    · obtain ⟨other, row, stored, rfl⟩ := queued.known entry old
      have different : other ≠ token := by
        rintro rfl
        cases absent.symm.trans stored
      exact ⟨other, row, by rw [if_neg different, stored], rfl⟩
    · exact ⟨token, hold, by rw [if_pos rfl], rfl⟩
  epoch other row stored := by
    simp only [Database.place, Table.get_set] at stored
    split at stored
    · cases stored
      exact epoch
    · exact queued.epoch other row stored

end Place

/-- A hold that ends leaves its token in the sorted set. -/
theorem giveBack {world : World} {token : Uuid} {hold : CheckoutHold} {tier : TicketTier} {held : ℕ}
    {status : HoldStatus} (queued : Queued world)
    (present : world.db.tiers.get hold.tierId = some tier)
    (stored : world.db.holds.get token = some hold) (active : hold.status = .active)
    (ends : status ≠ .active) (current : held + hold.quantity = tier.quantityHeld) {redis : Redis}
    (same : redis.expiryZset = world.redis.expiryZset) :
    Queued ⟨world.db.giveBack tier held token hold status, redis⟩ where
  hasTier other row found := by
    have kept : ∃ row', world.db.holds.get other = some row' ∧ row'.tierId = row.tierId := by
      simp only [Database.giveBack, Table.get_set] at found
      split at found
      · rename_i same
        cases found
        exact ⟨hold, same ▸ stored, rfl⟩
      · exact ⟨row, found, rfl⟩
    obtain ⟨row', found', tierEq⟩ := kept
    obtain ⟨tier', there⟩ := queued.hasTier other row' found'
    rw [tierEq] at there
    simp only [Database.giveBack, Table.get_set]
    split
    · exact ⟨_, rfl⟩
    · exact ⟨tier', there⟩
  covered other row found := by
    have sum : (world.db.giveBack tier held token hold status).quantitySum (· = .active) other
          + Database.heldBy (· = .active) other hold
        = world.db.quantitySum (· = .active) other
          + Database.heldBy (· = .active) other { hold with status } :=
      Database.quantitySum_update _ other stored rfl
    simp only [Database.heldBy, active, ends, decide_true, decide_false, and_true, and_false,
      Bool.false_eq_true, if_false, Nat.add_zero] at sum
    simp only [Database.giveBack, Table.get_set] at found
    unfold Database.heldSum
    by_cases same : other = hold.tierId
    · subst same
      have before : world.db.quantitySum (· = .active) hold.tierId ≤ tier.quantityHeld :=
        queued.covered _ tier present
      rw [if_pos rfl] at found sum
      cases found
      simp only
      omega
    · rw [if_neg same] at found
      rw [if_neg (Ne.symm same), Nat.add_zero] at sum
      rw [sum]
      exact queued.covered other row found
  queued other row found live := by
    rw [same]
    simp only [Database.giveBack, Table.get_set] at found
    split at found
    · cases found
      exact absurd live ends
    · exact queued.queued other row found live
  known entry found := by
    rw [same] at found
    obtain ⟨other, row, there, rfl⟩ := queued.known entry found
    simp only [Database.giveBack, Table.get_set]
    by_cases same : other = token
    · subst same
      obtain rfl := Option.some.inj (stored.symm.trans there)
      exact ⟨other, { hold with status }, by rw [if_pos rfl], rfl⟩
    · exact ⟨other, row, by rw [if_neg same, there], rfl⟩
  epoch other row found := by
    simp only [Database.giveBack, Table.get_set] at found
    split at found
    · cases found
      exact queued.epoch token hold stored
    · exact queued.epoch other row found

/-! ### The sweep -/

section Sweep

variable {inputs : ℕ → Input} {world : World} {tokens : List Uuid}

/-- What is due in the sorted set are tokens. -/
theorem exists_tokens (queued : Queued world) (now : Time) :
    ∃ tokens : List Uuid, world.redis.expiryZset.rangeByScore now = tokens.map Uuid.str := by
  have texts : world.redis.expiryZset.rangeByScore now ∈ Set.range (List.map Uuid.str) := by
    rw [Set.range_list_map]
    intro member found
    obtain ⟨score, inside, -⟩ := SortedSet.mem_rangeByScore.mp found
    obtain ⟨token, hold, -, same⟩ := queued.known _ inside
    exact ⟨token, (congrArg Prod.fst same).symm⟩
  obtain ⟨tokens, same⟩ := texts
  exact ⟨tokens, same.symm⟩

/-- **The batch is the result of the full scan.** -/
theorem mem_batch (queued : Queued world)
    (due : world.redis.expiryZset.rangeByScore (inputs 0).now = tokens.map Uuid.str)
    {row : SweepRow} :
    row ∈ batch inputs world tokens ↔ world.db.holds.get row.token = some row.hold ∧
      row.hold.Stale (inputs 0).now ∧ world.db.tiers.get row.hold.tierId = some row.tier := by
  have listed : row.token ∈ tokens ↔
      row.token.str ∈ world.redis.expiryZset.rangeByScore (inputs 0).now := by
    rw [due, List.mem_map_of_injective Uuid.str_injective]
  rw [Ticketing.mem_batch, listed, SortedSet.mem_rangeByScore]
  constructor
  -- nothing but holds is queued, each under its own expiry
  · rintro ⟨⟨score, inside, isDue⟩, stored, active, present⟩
    obtain ⟨token, hold, there, same⟩ := queued.known _ inside
    obtain ⟨sameToken, rfl⟩ := Prod.mk.inj same
    obtain rfl := Uuid.str_injective sameToken
    obtain rfl := Option.some.inj (stored.symm.trans there)
    exact ⟨stored, ⟨active, (of_decide_eq_true isDue).2⟩, present⟩
  · rintro ⟨stored, ⟨active, late⟩, present⟩
    refine ⟨⟨row.hold.expiresAt, queued.queued _ _ stored active, ?_⟩, stored, active, present⟩
    exact decide_eq_true ⟨queued.epoch _ _ stored, late⟩

/-- A hold is in the batch under its token exactly when it is stale. -/
theorem mem_map_token (queued : Queued world)
    (due : world.redis.expiryZset.rangeByScore (inputs 0).now = tokens.map Uuid.str)
    {token : Uuid} :
    token ∈ (batch inputs world tokens).map SweepRow.token ↔
      ∃ hold, world.db.holds.get token = some hold ∧ hold.Stale (inputs 0).now := by
  constructor
  · intro listed
    obtain ⟨row, found, rfl⟩ := List.mem_map.mp listed
    obtain ⟨stored, stale, -⟩ := (queued.mem_batch due).mp found
    exact ⟨row.hold, stored, stale⟩
  · rintro ⟨hold, stored, stale⟩
    obtain ⟨tier, present⟩ := queued.hasTier token hold stored
    exact List.mem_map.mpr
      ⟨⟨token, hold, tier⟩, (queued.mem_batch due).mpr ⟨stored, stale, present⟩, rfl⟩

theorem ready_batch (queued : Queued world) : Ready (batch inputs world tokens) world.db where
  nodup := (((inputs 2).order_perm _).map _).nodup_iff.mpr (nodup_activeHolds _ _)
  stored row found := (Ticketing.mem_batch.mp found).2.1
  present row found := ⟨row.tier, (Ticketing.mem_batch.mp found).2.2.2⟩
  covered row found := by
    obtain ⟨-, stored, active, present⟩ := Ticketing.mem_batch.mp found
    have part := Database.heldBy_le_quantitySum (· = .active) world.db row.hold.tierId stored
    simp only [Database.heldBy, active, decide_true, and_self, if_true] at part
    exact part.trans (queued.covered _ _ present)

/-- The stale holds are EXPIRED, the others are as before. -/
theorem get_expire_batch (queued : Queued world)
    (due : world.redis.expiryZset.rangeByScore (inputs 0).now = tokens.map Uuid.str)
    (token : Uuid) :
    (expire (batch inputs world tokens) world.db.holds).get token
      = (world.db.holds.get token).map fun hold =>
          if hold.Stale (inputs 0).now then { hold with status := .expired } else hold := by
  have ready : Ready (batch inputs world tokens) world.db := queued.ready_batch
  obtain ⟨inside, outside⟩ := get_expire (batch inputs world tokens) world.db.holds ready.nodup
  by_cases listed : token ∈ (batch inputs world tokens).map SweepRow.token
  · obtain ⟨row, found, rfl⟩ := List.mem_map.mp listed
    obtain ⟨stored, stale, -⟩ := (queued.mem_batch due).mp found
    rw [inside row found, stored, Option.map_some, if_pos stale]
  · rw [outside token listed]
    cases stored : world.db.holds.get token with
    | none => rfl
    | some hold =>
        have fresh : ¬ hold.Stale (inputs 0).now := fun stale =>
          listed ((queued.mem_map_token due).mpr ⟨hold, stored, stale⟩)
        rw [Option.map_some, if_neg fresh]

end Sweep

end Queued

/-- The ACTIVE holds of a tier lose the quantities of its rows. -/
theorem heldSum_expire (id : Uuid) (rows : List SweepRow) (db : Database)
    (nodup : (rows.map SweepRow.token).Nodup)
    (stored : ∀ row ∈ rows, db.holds.get row.token = some row.hold)
    (active : ∀ row ∈ rows, row.hold.status = .active) (tiers : Table Uuid TicketTier) :
    Database.heldSum ⟨tiers, expire rows db.holds⟩ id + totalQuantity (ofTier id rows)
      = db.heldSum id := by
  induction rows generalizing db with
  | nil => rfl
  | cons row rest ih =>
      obtain ⟨fresh, nodup⟩ := List.nodup_cons.mp nodup
      set saved := db.holds.set row.token { row.hold with status := .expired }
      have step : Database.quantitySum (· = .active) ⟨db.tiers, saved⟩ id
            + Database.heldBy (· = .active) id row.hold
          = db.quantitySum (· = .active) id
            + Database.heldBy (· = .active) id { row.hold with status := .expired } :=
        Database.quantitySum_update _ id (stored row List.mem_cons_self) rfl
      have later := ih ⟨db.tiers, saved⟩ nodup (fun other found => ?_)
        (fun other found => active other (List.mem_cons_of_mem _ found))
      · have mine : totalQuantity (ofTier id (row :: rest))
            = Database.heldBy (· = .active) id row.hold + totalQuantity (ofTier id rest) := by
          by_cases same : row.hold.tierId = id
          · simp [ofTier, totalQuantity, Database.heldBy, same, active row List.mem_cons_self]
          · simp [ofTier, Database.heldBy, same]
        have ended : Database.heldBy (· = .active) id { row.hold with status := .expired } = 0 := by
          simp [Database.heldBy]
        unfold Database.heldSum at later ⊢
        calc _ = Database.quantitySum (· = .active) ⟨tiers, expire rest saved⟩ id
              + (Database.heldBy (· = .active) id row.hold + totalQuantity (ofTier id rest)) := by
              rw [expire_cons, mine]
          _ = Database.quantitySum (· = .active) ⟨db.tiers, saved⟩ id
              + Database.heldBy (· = .active) id row.hold := by
              rw [← later]
              ring
          _ = db.quantitySum (· = .active) id := by
              rw [step, ended, Nat.add_zero]
      · have different : other.token ≠ row.token := by
          intro same
          exact fresh (same ▸ List.mem_map_of_mem found)
        rw [Table.get_set_of_ne _ _ different]
        exact stored other (List.mem_cons_of_mem _ found)

/-- The sweep takes the stale holds out of both stores. -/
theorem Queued.sweep {inputs : ℕ → Input} {world : World} {tokens : List Uuid}
    (queued : Queued world)
    (due : world.redis.expiryZset.rangeByScore (inputs 0).now = tokens.map Uuid.str) {redis : Redis}
    (popped : redis.expiryZset = world.redis.expiryZset.removeRangeByScore (inputs 0).now) :
    let rows := batch inputs world tokens
    Queued ⟨⟨restore rows world.db.tiers, expire rows world.db.holds⟩, redis⟩ := by
  intro rows
  have ready : Ready rows world.db := queued.ready_batch
  have copies : ∀ row ∈ rows, world.db.tiers.get row.hold.tierId = some row.tier :=
    fun row found => (Ticketing.mem_batch.mp found).2.2.2
  have before {token : Uuid} {hold : CheckoutHold}
      (stored : (expire rows world.db.holds).get token = some hold) :
      ∃ old, world.db.holds.get token = some old ∧ old.tierId = hold.tierId ∧
        old.expiresAt = hold.expiresAt ∧
        (hold.status = .active → hold = old ∧ ¬ old.Stale (inputs 0).now) := by
    rw [queued.get_expire_batch due] at stored
    obtain ⟨old, there, rfl⟩ := Option.map_eq_some_iff.mp stored
    refine ⟨old, there, ?_, ?_, ?_⟩ <;> split
    all_goals simp_all
  constructor
  · intro token hold stored
    obtain ⟨old, there, tierEq, -⟩ := before stored
    obtain ⟨tier, present⟩ := queued.hasTier token old there
    rw [tierEq] at present
    rw [get_restore rows _ copies, present]
    exact ⟨_, rfl⟩
  · intro id tier found
    rw [get_restore rows _ copies] at found
    obtain ⟨old, present, rfl⟩ := Option.map_eq_some_iff.mp found
    -- the sum loses all rows of the tier, the counter at most as much
    have sum := heldSum_expire id rows world.db ready.nodup ready.stored
      (fun row found => (Ticketing.mem_batch.mp found).2.2.1) (restore rows world.db.tiers)
    have bound := queued.covered id old present
    have least := lastQuantity_le id rows
    simp only
    omega
  · intro token hold stored active
    obtain ⟨old, there, -, -, kept⟩ := before stored
    obtain ⟨rfl, fresh⟩ := kept active
    rw [popped]
    refine List.mem_filter.mpr ⟨queued.queued token hold there active, ?_⟩
    -- an ACTIVE hold that is left was not due, so its token has not been popped
    have late : ¬ hold.expiresAt ≤ (inputs 0).now := fun due => fresh ⟨active, due⟩
    simp [SortedSet.isDue, late]
  · intro entry found
    rw [popped] at found
    obtain ⟨token, hold, stored, rfl⟩ := queued.known entry (List.mem_filter.mp found).1
    refine ⟨token, _,
      (queued.get_expire_batch due token).trans (by rw [stored, Option.map_some]), ?_⟩
    split <;> rfl
  · intro token hold stored
    obtain ⟨old, there, -, sameExpiry, -⟩ := before stored
    exact sameExpiry ▸ queued.epoch token old there

/-! ### One call, and any number of them -/

/-- A request keeps the invariant. -/
theorem Queued.request {world : World} (queued : Queued world) (request : Request)
    (inputs : ℕ → Input) (epoch : ∀ n, 0 ≤ (inputs n).now) :
    Queued (request.program.run store none inputs none world).2 := by
  cases request with
  | createHold user tierId quantity =>
      have spec := createHold_run user tierId quantity inputs world
      simp only [Runs] at spec
      rw [Request.program, run_discard]
      generalize ran : (createHold user tierId quantity).run store none inputs none world = result
        at spec ⊢
      generalize heldUpdates (createHold user tierId quantity) inputs world = written at spec
      cases spec with
      | raised error => exact queued
      | placed parsed present belowCap fits quantityEq userEq tierEq active absent =>
          refine queued.place present absent tierEq active ?_ rfl
          -- the clock is not before the epoch, and the hold lasts a quarter of an hour
          rw [(createHold_times ran).2.1]
          exact add_nonneg (epoch 2) (by decide)
  | releaseHoldByToken holdToken =>
      exact released (@releaseHoldByToken_run (fun _ => True) holdToken inputs world)
  | releaseHoldOnPaymentTimeout holdToken =>
      exact released (releaseHoldOnPaymentTimeout_run holdToken inputs world)
where
  released {due : CheckoutHold → Prop} {holdToken : String}
      {result : Outcome CheckoutError Unit × World} {written : List ℤ}
      (spec : ReleaseResult due holdToken world result written) : Queued result.2 := by
    cases spec with
    | raised error => exact queued
    | ignored => exact queued
    | overdrawn => exact queued
    | released parsed stored active present current =>
        refine queued.giveBack present stored active ?_ current rfl
        nofun

/-- A complete call keeps the invariant. -/
theorem Queued.job {world : World} (queued : Queued world) (job : Job) (inputs : ℕ → Input)
    (epoch : ∀ n, 0 ≤ (inputs n).now) :
    Queued (job.program.run store none inputs none world).2 := by
  cases job with
  | request call => exact queued.request call inputs epoch
  | sweepExpiredHolds =>
      obtain ⟨tokens, due⟩ := queued.exists_tokens (inputs 0).now
      rw [Job.program, run_discard,
        sweepExpiredHolds_complete inputs world tokens due queued.ready_batch]
      exact queued.sweep due (Redis.swept_expiryZset _ _)

/-- **After any sequence of calls the sorted set knows every ACTIVE hold.** -/
theorem serialJobs_queued (jobs : List (Job × (ℕ → Input))) {world : World} (queued : Queued world)
    (epoch : ∀ job ∈ jobs, ∀ n, 0 ≤ (job.2 n).now) : Queued (serialJobs jobs world) := by
  induction jobs generalizing world with
  | nil => exact queued
  | cons head rest ih =>
      refine ih (queued.job head.1 head.2 (epoch head List.mem_cons_self)) fun job found => ?_
      exact epoch job (List.mem_cons_of_mem _ found)

/-! ## The full scan -/

/-- **The sweep is the full scan.**  After any sequence of complete calls that
starts without holds and with an empty sorted set, the next sweep turns exactly
the holds to EXPIRED that are ACTIVE and have expired, leaves every other hold
and the tier of every other hold as it was, and returns their number. -/
theorem sweep_is_full_scan (jobs : List (Job × (ℕ → Input))) (inputs : ℕ → Input) (start : World)
    (noHolds : start.db.holds = .empty) (noMembers : start.redis.expiryZset = .empty)
    (epoch : ∀ job ∈ jobs, ∀ n, 0 ≤ (job.2 n).now) :
    let world := serialJobs jobs start
    let now := (inputs 0).now
    let result := sweepExpiredHolds.run store none inputs none world
    (∀ token, result.2.db.holds.get token = (world.db.holds.get token).map fun hold =>
      if hold.Stale now then { hold with status := .expired } else hold) ∧
    result.1 = .returned (world.db.holds.total fun hold => if hold.Stale now then 1 else 0) ∧
    ∀ id, (∀ token hold, world.db.holds.get token = some hold → hold.Stale now →
      hold.tierId ≠ id) → result.2.db.tiers.get id = world.db.tiers.get id := by
  intro world now result
  have queued : Queued world := serialJobs_queued jobs (.start noHolds noMembers) epoch
  obtain ⟨tokens, due⟩ := queued.exists_tokens now
  have complete := sweepExpiredHolds_complete inputs world tokens due queued.ready_batch
  have ready : Ready (batch inputs world tokens) world.db := queued.ready_batch
  rw [show result = _ from complete]
  refine ⟨queued.get_expire_batch due, ?_, fun id spared => ?_⟩
  · rw [Table.total_ite_eq_length _ _ ready.nodup fun token => queued.mem_map_token due,
      List.length_map]
  · have none_mine : ofTier id (batch inputs world tokens) = [] := by
      refine List.filter_eq_nil_iff.mpr fun row found same => ?_
      obtain ⟨stored, stale, -⟩ := (queued.mem_batch due).mp found
      exact spared row.token row.hold stored stale (of_decide_eq_true same)
    rw [get_restore _ _ fun row found => (Ticketing.mem_batch.mp found).2.2.2]
    simp [lastQuantity, none_mine, totalQuantity]

namespace Sample

/-- A tier of ten tickets, and nothing else. -/
def opening : World where
  db := ⟨Table.empty.set (id 1) { event := id 0, quantityTotal := 10 }, .empty⟩
  redis := ⟨fun _ => none, .empty, fun _ => none⟩

/-- Two holds are placed, and the second is released. -/
def jobs : List (Job × (ℕ → Input)) :=
  [(.request (.createHold (id 5) (id 1).str 3), fun n => .plain n (id 8)),
    (.request (.createHold (id 6) (id 1).str 2), fun n => .plain n (id 9)),
    (.request (.releaseHoldByToken (id 9).str), fun n => .plain n (id 9))]

/-- All statements a quarter of an hour later. -/
def later (n : ℕ) : Input := .plain (holdDuration + n + 60 * second) (id 9)

end Sample

theorem sweep_is_full_scan_sample :
    (sweepExpiredHolds.run store none Sample.later none
      (serialJobs Sample.jobs Sample.opening)).1 = .returned 1 := by
  have counted : ((serialJobs Sample.jobs Sample.opening).db.holds.total fun hold =>
      if hold.Stale (Sample.later 0).now then 1 else 0) = 1 := by
    decide +kernel
  have scan := (sweep_is_full_scan Sample.jobs Sample.later Sample.opening rfl rfl
    fun job found n => by
      simp only [Sample.jobs, List.mem_cons, List.not_mem_nil, or_false] at found
      rcases found with rfl | rfl | rfl <;> exact Int.natCast_nonneg n).2.1
  exact scan.trans (congrArg Outcome.returned counted)

end Ticketing
