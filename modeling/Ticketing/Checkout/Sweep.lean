import Ticketing.Checkout.Serial

/-!
# The sweep alone

`sweep_expired_holds` when nothing else runs, cut off by an exception in front of
any of its statements or not.

## Main Definitions

* `expire`, `restore` — what its two statements for each hold do to the tables
* `batch` — the rows its query lists
* `NothingLost` — what a sweep that stops owes to its batch

## Main Results

* `sweepExpiredHolds_run` — the tables after a sweep that stops anywhere
* `sweep_agrees_iff` — when it leaves the counters that single releases leave
* `nothing_lost_iff` — when stopping loses neither a hold nor stock

## Design Notes

Every row of the query carries the copy of its tier that the query has loaded,
and every UPDATE writes a value computed from that copy: of the rows of one tier
only the last one whose UPDATE runs leaves a trace in the counter.
-/

namespace Ticketing

open Transactional Program

/-! ## The two statements for each hold -/

/-- The holds after the status saves of `rows`. -/
def expire (rows : List SweepRow) (holds : Table Uuid CheckoutHold) : Table Uuid CheckoutHold :=
  rows.foldl (fun holds row => holds.set row.token { row.hold with status := .expired }) holds

/-- The tiers after the UPDATE of `row`, from the copy of its tier. -/
def restoreOne (tiers : Table Uuid TicketTier) (row : SweepRow) : Table Uuid TicketTier :=
  match tiers.get row.hold.tierId with
  | none => tiers
  | some tier => tiers.set row.hold.tierId
      { tier with quantityHeld := row.tier.quantityHeld - row.hold.quantity }

/-- The tiers after the UPDATEs of `rows`. -/
def restore (rows : List SweepRow) (tiers : Table Uuid TicketTier) : Table Uuid TicketTier :=
  rows.foldl restoreOne tiers

/-- The rows of one tier. -/
def ofTier (id : Uuid) (rows : List SweepRow) : List SweepRow :=
  rows.filter (·.hold.tierId = id)

/-- The quantity of all rows together. -/
def totalQuantity (rows : List SweepRow) : ℕ := (rows.map (·.hold.quantity)).sum

/-- The rows are those of different holds, stored as they are listed, and no row
is larger than the counter of its tier. -/
structure Ready (rows : List SweepRow) (db : Database) : Prop where
  nodup : (rows.map SweepRow.token).Nodup
  stored : ∀ row ∈ rows, db.holds.get row.token = some row.hold
  present : ∀ row ∈ rows, ∃ tier, db.tiers.get row.hold.tierId = some tier
  covered : ∀ row ∈ rows, row.hold.quantity ≤ row.tier.quantityHeld

/-- The rows whose status the loop has saved when it stops in front of its statement `fault`. -/
def savedRows (rows : List SweepRow) : Option ℕ → List SweepRow
  | none => rows
  | some n => rows.take ((n + 3) / 4)

/-- The rows whose UPDATE the loop has run when it stops in front of its statement `fault`. -/
def updatedRows (rows : List SweepRow) : Option ℕ → List SweepRow
  | none => rows
  | some n => rows.take ((n + 2) / 4)

theorem expire_cons (row : SweepRow) (rest : List SweepRow) (holds : Table Uuid CheckoutHold) :
    expire (row :: rest) holds
      = expire rest (holds.set row.token { row.hold with status := .expired }) := rfl

theorem restore_cons (row : SweepRow) (rest : List SweepRow) (tiers : Table Uuid TicketTier) :
    restore (row :: rest) tiers = restore rest (restoreOne tiers row) := rfl

theorem get_restoreOne (tiers : Table Uuid TicketTier) (row : SweepRow) (id : Uuid) :
    (restoreOne tiers row).get id =
      (tiers.get id).map fun tier =>
        if row.hold.tierId = id then
          { tier with quantityHeld := row.tier.quantityHeld - row.hold.quantity }
        else tier := by
  unfold restoreOne
  cases present : tiers.get row.hold.tierId with
  | none =>
      by_cases same : row.hold.tierId = id
      · subst same
        simp [present]
      · simp [same]
  | some tier =>
      rw [Table.get_set]
      by_cases same : row.hold.tierId = id
      · subst same
        simp [present]
      · simp [same, Ne.symm same]

/-- After the first row the others are still ready. -/
theorem Ready.tail {row : SweepRow} {rest : List SweepRow} {db : Database}
    (ready : Ready (row :: rest) db) :
    Ready rest ⟨restoreOne db.tiers row,
      db.holds.set row.token { row.hold with status := .expired }⟩ where
  nodup := (List.nodup_cons.mp ready.nodup).2
  stored other found := by
    have different : other.token ≠ row.token := by
      intro same
      exact (List.nodup_cons.mp ready.nodup).1 (same ▸ List.mem_map_of_mem found)
    rw [Table.get_set_of_ne _ _ different]
    exact ready.stored other (List.mem_cons_of_mem _ found)
  present other found := by
    obtain ⟨tier, present⟩ := ready.present other (List.mem_cons_of_mem _ found)
    rw [get_restoreOne, present]
    exact ⟨_, rfl⟩
  covered other found := ready.covered other (List.mem_cons_of_mem _ found)

/-- The first statement of a pass expires the hold of its row. -/
theorem Ready.exec_saveStatus {row : SweepRow} {rest : List SweepRow} {db : Database}
    (ready : Ready (row :: rest) db) (input : Input) :
    db.exec input (.saveStatus row.token .expired)
      = .ok ((), ⟨db.tiers, db.holds.set row.token { row.hold with status := .expired }⟩) := by
  simp only [Database.exec, ready.stored row List.mem_cons_self]

/-- Its second statement gives the quantity back, and cannot fail. -/
theorem Ready.exec_updateQuantityHeld {row : SweepRow} {rest : List SweepRow} {db : Database}
    (ready : Ready (row :: rest) db) (input : Input) (holds : Table Uuid CheckoutHold) :
    Database.exec input
        (.updateQuantityHeld row.hold.tierId (.minus row.tier.quantityHeld row.token row.hold))
        ⟨db.tiers, holds⟩
      = .ok ((), ⟨restoreOne db.tiers row, holds⟩) := by
  obtain ⟨tier, present⟩ := ready.present row List.mem_cons_self
  have covered := ready.covered row List.mem_cons_self
  have notNegative : ¬ (HeldExpr.minus row.tier.quantityHeld row.token row.hold).value < 0 := by
    simp only [HeldExpr.value]
    omega
  have value : (HeldExpr.minus row.tier.quantityHeld row.token row.hold).value.toNat
      = row.tier.quantityHeld - row.hold.quantity := by
    simp only [HeldExpr.value]
    omega
  simp only [Database.exec, present, if_neg notNegative, value, restoreOne]

theorem exec_env (input : Input) (stmt : EnvStmt) (world : World) :
    store.exec input (.env stmt) world = .ok (stmt.answer input, world) := rfl

theorem exec_selectActiveHolds (input : Input) (tokens : List Uuid) (world : World) :
    store.exec input (.sql (.selectActiveHolds tokens)) world
      = .ok (input.order (world.db.activeHolds tokens), world) := rfl

theorem exec_redis (input : Input) (stmt : RedisStmt) (world : World) :
    store.exec input (.redis stmt) world
      = .ok ((world.redis.exec input stmt).1,
          { world with redis := (world.redis.exec input stmt).2 }) := rfl

/-- **The loop of the sweep**, stopped in front of any of its statements. -/
theorem sweepLoop_run (rows : List SweepRow) (fault : Option ℕ) (inputs : ℕ → Input)
    (world : World) (expiredCount : ℕ) (ready : Ready rows world.db) :
    let after := ((sweepLoop rows expiredCount).run store fault inputs none world).2
    after.db = ⟨restore (updatedRows rows fault) world.db.tiers,
      expire (savedRows rows fault) world.db.holds⟩ ∧
      after.redis.expiryZset = world.redis.expiryZset := by
  -- one pass has four statements, so the fault moves on by four
  induction rows generalizing fault inputs world expiredCount with
  | nil => cases fault <;> simp [sweepLoop, savedRows, updatedRows, restore, expire]
  | cons row rest ih =>
      set saved : Database :=
        { world.db with holds := world.db.holds.set row.token { row.hold with status := .expired } }
      set updated : Database := ⟨restoreOne world.db.tiers row, saved.holds⟩
      have remaining : Ready rest updated := ready.tail
      have save (input : Input) : store.exec input (.sql (.saveStatus row.token .expired)) world
          = .ok ((), { world with db := saved }) := by
        simp only [store, World.exec, ready.exec_saveStatus input]
        rfl
      have update (input : Input) : store.exec input
          (.sql (.updateQuantityHeld row.hold.tierId
            (.minus row.tier.quantityHeld row.token row.hold)))
          { world with db := saved } = .ok ((), { world with db := updated }) := by
        simp only [store, World.exec, saved, ready.exec_updateQuantityHeld input]
        rfl
      simp only [sweepLoop, sql, redis, releaseHold, invalidateAvailability, send, call_bind,
        done_bind]
      rcases fault with _ | _ | _ | _ | _ | n
      · simp only [run_call, save, update, exec_redis, Redis.exec, savedRows, updatedRows,
          expire_cons, restore_cons]
        exact ih none _ _ _ remaining
      -- in front of the two saves, and between them
      · simp only [run_call_interrupted, Store.abort_none, and_true]
        rfl
      · simp only [run_call_succ, run_call_interrupted, save, Store.abort_none, and_true]
        rfl
      -- in front of the two calls of Redis
      · simp only [run_call_succ, run_call_interrupted, save, update, savedRows, updatedRows,
          Nat.reduceAdd, Nat.reduceDiv, List.take_succ_cons, expire_cons, restore_cons,
          Store.abort_none, and_true]
        rfl
      · simp only [run_call_succ, run_call_interrupted, save, update, exec_redis, Redis.exec,
          savedRows, updatedRows, Nat.reduceAdd, Nat.reduceDiv, List.take_succ_cons,
          expire_cons, restore_cons, Store.abort_none, and_true]
        rfl
      -- past the first row
      · have saves : (n + 4 + 3) / 4 = (n + 3) / 4 + 1 := by omega
        have updates : (n + 4 + 2) / 4 = (n + 2) / 4 + 1 := by omega
        simp only [run_call_succ, save, update, exec_redis, Redis.exec, savedRows, updatedRows,
          saves, updates, List.take_succ_cons, expire_cons, restore_cons]
        exact ih (some n) _ _ _ remaining

/-! ## The batch -/

/-- The rows the query of the sweep lists. -/
def batch (inputs : ℕ → Input) (world : World) (tokens : List Uuid) : List SweepRow :=
  (inputs 2).order (world.db.activeHolds tokens)

theorem mem_activeHolds {db : Database} {tokens : List Uuid} {row : SweepRow} :
    row ∈ db.activeHolds tokens ↔ row.token ∈ tokens ∧
      db.holds.get row.token = some row.hold ∧ row.hold.status = .active ∧
      db.tiers.get row.hold.tierId = some row.tier := by
  obtain ⟨token, hold, tier⟩ := row
  simp only [Database.activeHolds, List.mem_filterMap, List.mem_dedup, Option.bind_eq_some_iff,
    Option.filter_eq_some_iff, Option.map_eq_some_iff, SweepRow.mk.injEq, decide_eq_true_eq]
  constructor
  · rintro ⟨found, inside, stored, ⟨present, active⟩, copy, loaded, rfl, rfl, rfl⟩
    exact ⟨inside, present, active, loaded⟩
  · rintro ⟨inside, stored, active, loaded⟩
    exact ⟨token, inside, hold, ⟨stored, active⟩, tier, loaded, rfl, rfl, rfl⟩

theorem nodup_activeHolds (db : Database) (tokens : List Uuid) :
    ((db.activeHolds tokens).map SweepRow.token).Nodup := by
  have sublist (list : List Uuid) : ((list.filterMap fun token =>
      ((db.holds.get token).filter (·.status = .active)).bind fun hold =>
        (db.tiers.get hold.tierId).map fun tier =>
          (⟨token, hold, tier⟩ : SweepRow)).map SweepRow.token).Sublist list := by
    induction list with
    | nil => simp
    | cons token rest ih =>
        rw [List.filterMap_cons]
        split
        · exact ih.cons _
        · rename_i row found
          obtain ⟨hold, -, found⟩ := Option.bind_eq_some_iff.mp found
          obtain ⟨tier, -, rfl⟩ := Option.map_eq_some_iff.mp found
          exact ih.cons_cons token
  exact (sublist tokens.dedup).nodup (List.nodup_dedup tokens)

section Batch

variable {inputs : ℕ → Input} {world : World} {tokens : List Uuid}

theorem mem_batch {row : SweepRow} :
    row ∈ batch inputs world tokens ↔ row.token ∈ tokens ∧
      world.db.holds.get row.token = some row.hold ∧ row.hold.status = .active ∧
      world.db.tiers.get row.hold.tierId = some row.tier :=
  ((inputs 2).order_perm _).mem_iff.trans mem_activeHolds

theorem batch_nil : batch inputs world [] = [] :=
  ((inputs 2).order_perm _).eq_nil

/-- When the counters agree with the holds, the rows of the batch are ready. -/
theorem ready_batch (agrees : ∀ id, world.db.HeldMatches (· = .active) id) :
    Ready (batch inputs world tokens) world.db where
  nodup := (((inputs 2).order_perm _).map _).nodup_iff.mpr (nodup_activeHolds _ _)
  stored row found := (mem_batch.mp found).2.1
  present row found := ⟨row.tier, (mem_batch.mp found).2.2.2⟩
  covered row found := by
    obtain ⟨-, stored, active, present⟩ := mem_batch.mp found
    exact (agrees _).quantity_le present stored (by simp [active])

end Batch

theorem mapM_parse_str (tokens : List Uuid) :
    (tokens.map Uuid.str).mapM Uuid.parse = some tokens := by
  induction tokens with
  | nil => rfl
  | cons token rest ih => simp [Uuid.parse_str, ih]

/-- The pop of the sweep has been executed. -/
def Popped : Option ℕ → Prop
  | none => True
  | some n => 2 ≤ n

/-- **The sweep**, stopped in front of any of its statements: its first three
statements are the clock, the pop and the query. -/
theorem sweepExpiredHolds_run (fault : Option ℕ) (inputs : ℕ → Input) (world : World)
    (tokens : List Uuid)
    (due : world.redis.expiryZset.rangeByScore (inputs 0).now = tokens.map Uuid.str)
    (agrees : ∀ id, world.db.HeldMatches (· = .active) id) :
    let after := (sweepExpiredHolds.run store fault inputs none world).2
    let rows := batch inputs world tokens
    after.db = ⟨restore (updatedRows rows (fault.map (· - 3))) world.db.tiers,
      expire (savedRows rows (fault.map (· - 3))) world.db.holds⟩ ∧
      (Popped fault → after.redis.expiryZset
        = world.redis.expiryZset.removeRangeByScore (inputs 0).now) ∧
      (¬ Popped fault → after = world) := by
  have loop (stop : Option ℕ) (later : ℕ → Input) (redis : Redis) :=
    sweepLoop_run (batch inputs world tokens) stop later ⟨world.db, redis⟩ 0 (ready_batch agrees)
  have none_swept (stop : Option ℕ) (empty : tokens = []) :
      (⟨restore (updatedRows (batch inputs world tokens) stop) world.db.tiers,
        expire (savedRows (batch inputs world tokens) stop) world.db.holds⟩ : Database)
        = world.db := by
    rw [empty, batch_nil]
    cases stop <;> simp [savedRows, updatedRows, restore, expire]
  simp only [sweepExpiredHolds, popExpiredHolds, now, redis, sql, send, call_bind, done_bind]
  -- the clock, the pop and the query come before the loop
  rcases fault with _ | _ | _ | _ | n
  · simp only [run_call, exec_env, exec_redis, Redis.exec, EnvStmt.answer, due]
    by_cases empty : tokens = []
    · subst empty
      exact ⟨(none_swept none rfl).symm, fun _ => rfl, fun stopped => absurd trivial stopped⟩
    · simp only [List.map_eq_nil_iff, empty, if_false, mapM_parse_str, run_call,
        exec_selectActiveHolds]
      exact ⟨(loop none _ _).1, fun _ => (loop none _ _).2, fun stopped => absurd trivial stopped⟩
  · simp only [run_call_interrupted, Store.abort_none]
    exact ⟨rfl, fun popped => by simp [Popped] at popped, fun _ => trivial⟩
  · simp only [run_call_succ, run_call_interrupted, exec_env, Store.abort_none]
    exact ⟨rfl, fun popped => by simp [Popped] at popped, fun _ => trivial⟩
  · simp only [run_call_succ, exec_env, exec_redis, Redis.exec, EnvStmt.answer, due]
    by_cases empty : tokens = []
    · subst empty
      exact ⟨(none_swept _ rfl).symm, fun _ => rfl, fun stopped => absurd le_rfl stopped⟩
    · simp only [List.map_eq_nil_iff, empty, if_false, mapM_parse_str, run_call_interrupted,
        Store.abort_none]
      exact ⟨rfl, fun _ => trivial, fun stopped => absurd le_rfl stopped⟩
  · have popped : Popped (some (n + 3)) := Nat.le_add_left 2 (n + 1)
    simp only [run_call_succ, exec_env, exec_redis, Redis.exec, EnvStmt.answer, due]
    by_cases empty : tokens = []
    · subst empty
      exact ⟨(none_swept _ rfl).symm, fun _ => rfl, fun stopped => absurd popped stopped⟩
    · simp only [List.map_eq_nil_iff, empty, if_false, mapM_parse_str, run_call_succ,
        exec_selectActiveHolds]
      exact ⟨(loop (some n) _ _).1, fun _ => (loop (some n) _ _).2,
        fun stopped => absurd popped stopped⟩

/-! ## The counters -/

/-- The quantity of the last row of a tier. -/
def lastQuantity (id : Uuid) (rows : List SweepRow) : ℕ :=
  totalQuantity (ofTier id rows).getLast?.toList

/-- **Of the rows of one tier only the last one leaves a trace in the counter.** -/
theorem get_restore (rows : List SweepRow) (tiers : Table Uuid TicketTier)
    (copies : ∀ row ∈ rows, tiers.get row.hold.tierId = some row.tier) (id : Uuid) :
    (restore rows tiers).get id = (tiers.get id).map fun tier =>
      { tier with quantityHeld := tier.quantityHeld - lastQuantity id rows } := by
  -- from the back: the last UPDATE overwrites what the earlier ones have written
  induction rows using List.reverseRecOn with
  | nil => simp [restore, lastQuantity, ofTier, totalQuantity]
  | append_singleton rows row ih =>
      have others := ih fun other found => copies other (List.mem_append_left _ found)
      have copy := copies row (by simp)
      simp only [restore, List.foldl_append, List.foldl_cons, List.foldl_nil] at others ⊢
      rw [get_restoreOne, others]
      by_cases same : row.hold.tierId = id
      · subst same
        simp [copy, lastQuantity, ofTier, totalQuantity]
      · simp [same, lastQuantity, ofTier, Function.comp_def]

/-- The last row of a tier makes up for all of them exactly when the others are empty. -/
theorem lastQuantity_eq_iff (id : Uuid) (rows : List SweepRow) :
    totalQuantity (ofTier id rows) = lastQuantity id rows ↔
      ∀ row ∈ (ofTier id rows).dropLast, row.hold.quantity = 0 := by
  unfold lastQuantity
  generalize ofTier id rows = mine
  induction mine using List.reverseRecOn with
  | nil => simp [totalQuantity]
  | append_singleton mine row _ => simp [totalQuantity, List.sum_eq_zero_iff]

theorem lastQuantity_le (id : Uuid) (rows : List SweepRow) :
    lastQuantity id rows ≤ totalQuantity (ofTier id rows) := by
  unfold lastQuantity
  generalize ofTier id rows = mine
  induction mine using List.reverseRecOn with
  | nil => simp [totalQuantity]
  | append_singleton mine row _ => simp [totalQuantity]

/-- The counter of a tier. -/
def Database.counter (db : Database) (id : Uuid) : Option ℕ :=
  (db.tiers.get id).map TicketTier.quantityHeld

/-- Releasing the holds of `rows` one after another, each release with its own inputs. -/
def releases (rows : List SweepRow) (moments : SweepRow → ℕ → Input) :
    List (Request × (ℕ → Input)) :=
  rows.map fun row => (.releaseHoldByToken row.token.str, moments row)

theorem serialRun_releases (row : SweepRow) (rest : List SweepRow)
    (moments : SweepRow → ℕ → Input) (world : World) :
    serialRun (releases (row :: rest) moments) world = serialRun (releases rest moments)
      ((releaseHoldByToken row.token.str).run store none (moments row) none world).2 := rfl

/-- **One release after another** takes the quantity of every hold off its tier. -/
theorem releases_run (rows : List SweepRow) (moments : SweepRow → ℕ → Input) (world : World)
    (agrees : ∀ id, world.db.HeldMatches (· = .active) id)
    (nodup : (rows.map SweepRow.token).Nodup)
    (stored : ∀ row ∈ rows, world.db.holds.get row.token = some row.hold)
    (active : ∀ row ∈ rows, row.hold.status = .active)
    (present : ∀ row ∈ rows, ∃ tier, world.db.tiers.get row.hold.tierId = some tier) (id : Uuid) :
    ((serialRun (releases rows moments) world).db.counter id).map
      (· + totalQuantity (ofTier id rows)) = world.db.counter id := by
  induction rows generalizing world with
  | nil => simp [releases, serialRun, totalQuantity, ofTier]
  | cons row rest ih =>
      obtain ⟨tier, loaded⟩ := present row List.mem_cons_self
      have kept := stored row List.mem_cons_self
      have live := active row List.mem_cons_self
      have covered := (agrees _).quantity_le loaded kept (by simp [live])
      have spec := @releaseHoldByToken_run (fun _ => True) row.token.str (moments row) world
      simp only [Runs] at spec
      rw [serialRun_releases]
      generalize (releaseHoldByToken row.token.str).run store none (moments row) none world
        = result at spec ⊢
      generalize heldUpdates (releaseHoldByToken row.token.str) (moments row) world
        = written at spec
      cases spec with
      | raised error reason =>
          have absent := reason _ _ (Uuid.parse_str _) kept live
          rw [loaded] at absent
          cases absent
      | ignored reason => exact absurd trivial (reason _ _ (Uuid.parse_str _) kept live)
      | overdrawn stored' active' present' short =>
          have fits := (agrees _).quantity_le present' stored' (by simp [active'])
          omega
      | @released token hold tier' held parsed stored' active' present' current =>
          obtain rfl := Option.some.inj ((Uuid.parse_str _).symm.trans parsed)
          obtain rfl := Option.some.inj (kept.symm.trans stored')
          obtain rfl := Option.some.inj (loaded.symm.trans present')
          -- the counters agree again after the release, so the rest follows by induction
          have tail := ih ⟨world.db.giveBack tier held row.token row.hold .released,
              world.redis.dropped row.token.str row.hold.tierId.str⟩
            (fun other => (agrees other).giveBack loaded kept live nofun current)
            (List.nodup_cons.mp nodup).2 (fun other found => ?_)
            (fun other found => active other (List.mem_cons_of_mem _ found))
            (fun other found => ?_)
          · simp only at tail ⊢
            by_cases same : row.hold.tierId = id
            · subst same
              have before : world.db.counter row.hold.tierId = some tier.quantityHeld := by
                simp [Database.counter, loaded]
              have after : (world.db.giveBack tier held row.token row.hold .released).counter
                  row.hold.tierId = some held := by
                simp [Database.counter, Database.giveBack]
              have mine : totalQuantity (ofTier row.hold.tierId (row :: rest))
                  = row.hold.quantity + totalQuantity (ofTier row.hold.tierId rest) := by
                simp [ofTier, totalQuantity]
              rw [after] at tail
              obtain ⟨left, leftEq, sum⟩ := Option.map_eq_some_iff.mp tail
              rw [leftEq, before, mine]
              simp only [Option.map_some, Option.some.injEq] at sum ⊢
              omega
            · have mine : ofTier id (row :: rest) = ofTier id rest := by
                simp [ofTier, same]
              have untouched : (world.db.giveBack tier held row.token row.hold .released).counter id
                  = world.db.counter id := by
                simp [Database.counter, Database.giveBack, Table.get_set, Ne.symm same]
              rw [mine, ← untouched]
              exact tail
          · have different : other.token ≠ row.token := by
              intro same
              exact (List.nodup_cons.mp nodup).1 (same ▸ List.mem_map_of_mem found)
            simp only [Database.giveBack]
            rw [Table.get_set_of_ne _ _ different]
            exact stored other (List.mem_cons_of_mem _ found)
          · obtain ⟨copy, there⟩ := present other (List.mem_cons_of_mem _ found)
            simp only [Database.giveBack, Table.get_set]
            split
            · exact ⟨_, rfl⟩
            · exact ⟨copy, there⟩

/-- **When the sweep agrees with single releases.**  From counters that agree with
the holds, one complete sweep leaves every counter as releasing the same holds
one after another leaves it (each reduced by all of its swept holds) if and only
if every swept hold of a tier but the last that the query lists has quantity 0. -/
theorem sweep_agrees_iff (inputs : ℕ → Input) (moments : SweepRow → ℕ → Input) (world : World)
    (tokens : List Uuid)
    (due : world.redis.expiryZset.rangeByScore (inputs 0).now = tokens.map Uuid.str)
    (agrees : ∀ id tier, world.db.tiers.get id = some tier →
      tier.quantityHeld = world.db.heldSum id) :
    let rows := batch inputs world tokens
    let swept := (sweepExpiredHolds.run store none inputs none world).2
    let released := serialRun (releases rows moments) world
    (∀ id, (released.db.counter id).map (· + totalQuantity (ofTier id rows))
      = world.db.counter id) ∧
    ((∀ id, swept.db.counter id = released.db.counter id) ↔
      ∀ id, ∀ row ∈ (ofTier id rows).dropLast, row.hold.quantity = 0) := by
  intro rows swept released
  have ready : Ready rows world.db := ready_batch agrees
  have copies : ∀ row ∈ rows, world.db.tiers.get row.hold.tierId = some row.tier :=
    fun row found => (mem_batch.mp found).2.2.2
  have oneByOne := releases_run rows moments world agrees ready.nodup ready.stored
    (fun row found => (mem_batch.mp found).2.2.1) ready.present
  have ran := (sweepExpiredHolds_run none inputs world tokens due agrees).1
  refine ⟨oneByOne, forall_congr' fun id => ?_⟩
  rw [← lastQuantity_eq_iff]
  have counter : swept.db.counter id = (world.db.counter id).map (· - lastQuantity id rows) := by
    simp only [Database.counter, swept, ran, Option.map_none, updatedRows,
      get_restore _ _ copies, Option.map_map, rows]
    rfl
  have least := lastQuantity_le id rows
  rw [counter, ← oneByOne id]
  -- a tier that is not there has no rows in the batch
  cases left : released.db.counter id with
  | none =>
      have none_mine : ofTier id rows = [] := by
        refine List.filter_eq_nil_iff.mpr fun row found same => ?_
        have there := copies row found
        have gone := oneByOne id
        rw [left] at gone
        rw [of_decide_eq_true same] at there
        simp [Database.counter, there] at gone
      simp [lastQuantity, none_mine, totalQuantity]
  | some rest =>
      simp only [Option.map_some, Option.some.injEq]
      omega

namespace Sample

/-- The clock of every statement is 0. -/
def atZero (_ : ℕ) : Input := .plain 0 (id 9)

/-- `world` with its hold due. -/
def due : World :=
  { world with redis := { world.redis with expiryZset := SortedSet.empty.add (id 7).str 0 } }

/-- `due` with a second hold of the same tier that is due. -/
def dueTwice : World where
  db :=
    { tiers := Table.empty.set (id 1) { event := id 0, quantityTotal := 10, quantityHeld := 5 }
      holds := due.db.holds.set (id 8)
        { user := id 6, tierId := id 1, quantity := 3, expiresAt := 0 } }
  redis := { due.redis with expiryZset := due.redis.expiryZset.add (id 8).str 0 }

theorem dueTwice_agrees (tierId : Uuid) (tier : TicketTier)
    (present : dueTwice.db.tiers.get tierId = some tier) :
    tier.quantityHeld = dueTwice.db.heldSum tierId := by
  simp only [dueTwice, Table.get_set] at present
  split at present
  · subst tierId
    cases present
    decide +kernel
  · cases present

end Sample

theorem sweep_agrees_iff_sample :
    (sweepExpiredHolds.run store none Sample.atZero none Sample.due).2.db.counter (Sample.id 1)
      = (serialRun (releases (batch Sample.atZero Sample.due [Sample.id 7]) fun _ => Sample.atZero)
          Sample.due).db.counter (Sample.id 1) := by
  refine (sweep_agrees_iff Sample.atZero (fun _ => Sample.atZero) Sample.due [Sample.id 7]
    (by decide +kernel) Sample.world_balanced.heldMatches).2.mpr ?_ (Sample.id 1)
  have single : batch Sample.atZero Sample.due [Sample.id 7] = [⟨Sample.id 7,
      { user := Sample.id 5, tierId := Sample.id 1, quantity := 2, expiresAt := 0 },
      { event := Sample.id 0, quantityTotal := 10, quantityHeld := 2 }⟩] := by
    decide +kernel
  intro id row found
  simp only [single, ofTier, List.filter_cons, List.filter_nil] at found
  split at found <;> cases found

/-- **The sweep disagrees with single releases.**  Two holds of 2 and 3 tickets of
one tier are due: the sweep leaves 2 tickets held, the releases leave none. -/
theorem sweep_disagrees :
    (∀ id tier, Sample.dueTwice.db.tiers.get id = some tier →
      tier.quantityHeld = Sample.dueTwice.db.heldSum id) ∧
    (sweepExpiredHolds.run store none Sample.atZero none Sample.dueTwice).2.db.counter
      (Sample.id 1) = some 2 ∧
    (serialRun (releases (batch Sample.atZero Sample.dueTwice [Sample.id 7, Sample.id 8])
      fun _ => Sample.atZero) Sample.dueTwice).db.counter (Sample.id 1) = some 0 :=
  ⟨Sample.dueTwice_agrees, by decide +kernel, by decide +kernel⟩

/-! ## Stopping -/

/-- The saved rows are EXPIRED, and no other hold has changed. -/
theorem get_expire (rows : List SweepRow) (holds : Table Uuid CheckoutHold)
    (nodup : (rows.map SweepRow.token).Nodup) :
    (∀ row ∈ rows, (expire rows holds).get row.token
      = some { row.hold with status := .expired }) ∧
    ∀ token, token ∉ rows.map SweepRow.token → (expire rows holds).get token = holds.get token := by
  induction rows generalizing holds with
  | nil => exact ⟨nofun, fun _ _ => rfl⟩
  | cons row rest ih =>
      obtain ⟨fresh, nodup⟩ := List.nodup_cons.mp nodup
      obtain ⟨inside, outside⟩ :=
        ih (holds.set row.token { row.hold with status := .expired }) nodup
      rw [expire_cons]
      refine ⟨fun other found => ?_, fun token absent => ?_⟩
      · rcases List.mem_cons.mp found with rfl | later
        · rw [outside _ fresh, Table.get_set_self]
        · exact inside other later
      · simp only [List.map_cons, List.mem_cons, not_or] at absent
        rw [outside token absent.2, Table.get_set_of_ne _ _ absent.1]

/-- The rows whose holds are EXPIRED. -/
def expiredIn (db : Database) (rows : List SweepRow) : List SweepRow :=
  rows.filter fun row => (db.holds.get row.token).map CheckoutHold.status = some .expired

/-- What a sweep that has stopped owes to its batch: every hold is still ACTIVE
with its token where a later sweep finds it, or it is EXPIRED; and the counters
have lost the quantities of the EXPIRED holds and nothing else. -/
structure NothingLost (rows : List SweepRow) (before after : World) : Prop where
  found : ∀ row ∈ rows, ∃ hold, after.db.holds.get row.token = some hold ∧
    (hold.status = .active ∧ row.token.str ∈ after.redis.expiryZset.members ∨
      hold.status = .expired)
  counted : ∀ id, (after.db.counter id).map
    (· + totalQuantity (expiredIn after.db (ofTier id rows))) = before.db.counter id

/-- Two parts of a batch add up to the last row of the first exactly when all
other rows are empty. -/
theorem totalQuantity_take_iff (id : Uuid) (rows : List SweepRow) (updates : ℕ) :
    totalQuantity (ofTier id rows) = lastQuantity id (rows.take updates) ↔
      (∀ row ∈ (ofTier id (rows.take updates)).dropLast, row.hold.quantity = 0) ∧
        ∀ row ∈ ofTier id (rows.drop updates), row.hold.quantity = 0 := by
  have split : totalQuantity (ofTier id rows) = totalQuantity (ofTier id (rows.take updates))
      + totalQuantity (ofTier id (rows.drop updates)) := by
    calc totalQuantity (ofTier id rows)
        = totalQuantity (ofTier id (rows.take updates ++ rows.drop updates)) := by
          rw [List.take_append_drop]
      _ = _ := by
          simp only [ofTier, totalQuantity, List.filter_append, List.map_append, List.sum_append]
  have least := lastQuantity_le id (rows.take updates)
  have rest : totalQuantity (ofTier id (rows.drop updates)) = 0 ↔
      ∀ row ∈ ofTier id (rows.drop updates), row.hold.quantity = 0 := by
    simp [totalQuantity, List.sum_eq_zero_iff]
  rw [← lastQuantity_eq_iff, ← rest, split]
  omega

/-- The last row of a tier is no larger than its counter. -/
theorem lastQuantity_le_held {rows : List SweepRow} {db : Database} {id : Uuid} {tier : TicketTier}
    (copies : ∀ row ∈ rows, db.tiers.get row.hold.tierId = some row.tier)
    (covered : ∀ row ∈ rows, row.hold.quantity ≤ row.tier.quantityHeld)
    (present : db.tiers.get id = some tier) : lastQuantity id rows ≤ tier.quantityHeld := by
  unfold lastQuantity
  cases last : (ofTier id rows).getLast? with
  | none => simp [totalQuantity]
  | some row =>
      obtain ⟨found, same⟩ := List.mem_filter.mp (List.mem_of_getLast? last)
      have copy := copies row found
      rw [of_decide_eq_true same, present] at copy
      simpa [totalQuantity, Option.some.inj copy] using covered row found

section Stopped

variable {n : ℕ} {inputs : ℕ → Input} {world after : World} {tokens : List Uuid}

/-- A hold of the batch is ACTIVE and its token is in the sorted set. -/
theorem queued_of_mem_batch
    (due : world.redis.expiryZset.rangeByScore (inputs 0).now = tokens.map Uuid.str)
    {row : SweepRow} (found : row ∈ batch inputs world tokens) :
    row.token.str ∈ world.redis.expiryZset.rangeByScore (inputs 0).now := by
  rw [due]
  exact List.mem_map_of_mem (mem_batch.mp found).1

/-- Nothing is lost while nothing has been done. -/
theorem NothingLost.unchanged
    (due : world.redis.expiryZset.rangeByScore (inputs 0).now = tokens.map Uuid.str) :
    NothingLost (batch inputs world tokens) world world where
  found row found := ⟨row.hold, (mem_batch.mp found).2.1, .inl ⟨(mem_batch.mp found).2.2.1,
    SortedSet.mem_members_of_range (queued_of_mem_batch due found)⟩⟩
  counted id := by
    have none_expired : expiredIn world.db (ofTier id (batch inputs world tokens)) = [] := by
      refine List.filter_eq_nil_iff.mpr fun row mine expired => ?_
      obtain ⟨-, stored, active, -⟩ := mem_batch.mp (List.mem_filter.mp mine).1
      simp [stored, active] at expired
    simp [none_expired, totalQuantity]

/-- After the pop, every hold has its place exactly when all statuses are saved. -/
theorem found_iff_saved
    (due : world.redis.expiryZset.rangeByScore (inputs 0).now = tokens.map Uuid.str)
    (ready : Ready (batch inputs world tokens) world.db) (saves : ℕ)
    (holdsEq : after.db.holds = expire ((batch inputs world tokens).take saves) world.db.holds)
    (zsetEq : after.redis.expiryZset
      = world.redis.expiryZset.removeRangeByScore (inputs 0).now) :
    (∀ row ∈ batch inputs world tokens, ∃ hold, after.db.holds.get row.token = some hold ∧
      (hold.status = .active ∧ row.token.str ∈ after.redis.expiryZset.members ∨
        hold.status = .expired)) ↔ (batch inputs world tokens).length ≤ saves := by
  set rows := batch inputs world tokens
  have nodup : ((rows.take saves).map SweepRow.token).Nodup :=
    ready.nodup.sublist ((List.take_sublist _ _).map _)
  obtain ⟨inside, outside⟩ := get_expire (rows.take saves) world.db.holds nodup
  constructor
  · intro found
    by_contra short
    -- the first row that has not been saved is ACTIVE and has lost its token
    have bound : saves < rows.length := by omega
    have member : rows[saves] ∈ rows := List.getElem_mem bound
    have unsaved : rows[saves].token ∉ (rows.take saves).map SweepRow.token := by
      have parts := ready.nodup
      rw [← List.take_append_drop saves rows, List.map_append, List.nodup_append] at parts
      intro earlier
      refine parts.2.2 _ earlier _ (List.mem_map_of_mem (a := rows[saves]) ?_) rfl
      rw [List.drop_eq_getElem_cons bound]
      exact List.mem_cons_self
    obtain ⟨hold, stored, active | expired⟩ := found _ member
    · exact SortedSet.not_mem_removeRangeByScore (queued_of_mem_batch due member)
        (zsetEq ▸ active.2)
    · rw [holdsEq, outside _ unsaved, ready.stored _ member] at stored
      have active := (mem_batch.mp member).2.2.1
      rw [Option.some.inj stored, expired] at active
      cases active
  · intro long row found
    rw [List.take_of_length_le long] at inside holdsEq
    exact ⟨_, holdsEq ▸ inside row found, .inr rfl⟩

/-- When all statuses are saved, a counter has lost the quantities of its rows
exactly when its last UPDATE makes up for all of them. -/
theorem counted_iff_last (ready : Ready (batch inputs world tokens) world.db) (updates : ℕ)
    (holdsEq : after.db.holds = expire (batch inputs world tokens) world.db.holds)
    (tiersEq : after.db.tiers
      = restore ((batch inputs world tokens).take updates) world.db.tiers) (id : Uuid) :
    (after.db.counter id).map (· + totalQuantity (expiredIn after.db
      (ofTier id (batch inputs world tokens)))) = world.db.counter id ↔
      totalQuantity (ofTier id (batch inputs world tokens))
        = lastQuantity id ((batch inputs world tokens).take updates) := by
  set rows := batch inputs world tokens
  have copies : ∀ row ∈ rows, world.db.tiers.get row.hold.tierId = some row.tier :=
    fun row found => (mem_batch.mp found).2.2.2
  have taken : ∀ row ∈ rows.take updates, row ∈ rows := fun _ => List.mem_of_mem_take
  have all_expired : expiredIn after.db (ofTier id rows) = ofTier id rows := by
    refine List.filter_eq_self.mpr fun row mine => ?_
    have inside := (get_expire rows world.db.holds ready.nodup).1 row (List.mem_filter.mp mine).1
    simp [holdsEq, inside]
  have counter : after.db.counter id
      = (world.db.counter id).map (· - lastQuantity id (rows.take updates)) := by
    simp only [Database.counter, tiersEq,
      get_restore _ _ fun row found => copies row (taken row found), Option.map_map]
    rfl
  rw [all_expired, counter]
  cases present : world.db.tiers.get id with
  | none =>
      have none_mine (list : List SweepRow) (part : ∀ row ∈ list, row ∈ rows) :
          ofTier id list = [] := by
        refine List.filter_eq_nil_iff.mpr fun row found same => ?_
        have there := copies row (part row found)
        rw [of_decide_eq_true same, present] at there
        cases there
      simp [Database.counter, present, lastQuantity, none_mine rows fun _ found => found,
        none_mine _ taken, totalQuantity]
  | some tier =>
      have fits := lastQuantity_le_held (fun row found => copies row (taken row found))
        (fun row found => ready.covered row (taken row found)) present
      simp only [Database.counter, present, Option.map_some, Option.some.injEq]
      omega

end Stopped

/-- **When stopping loses nothing.**  From counters that agree with the holds, a
sweep that stops in front of its statement `n` loses neither a hold nor stock if
and only if it stops before the pop, or its batch is empty, or it stops after the
last status save and every row is empty except, for each tier, the last one
whose UPDATE has run. -/
theorem nothing_lost_iff (n : ℕ) (inputs : ℕ → Input) (world : World) (tokens : List Uuid)
    (due : world.redis.expiryZset.rangeByScore (inputs 0).now = tokens.map Uuid.str)
    (agrees : ∀ id tier, world.db.tiers.get id = some tier →
      tier.quantityHeld = world.db.heldSum id) :
    let rows := batch inputs world tokens
    NothingLost rows world (sweepExpiredHolds.run store (some n) inputs none world).2 ↔
      n < 2 ∨ rows = [] ∨ 4 * rows.length ≤ n ∧
        ∀ id, (∀ row ∈ (ofTier id (rows.take ((n - 1) / 4))).dropLast, row.hold.quantity = 0) ∧
          ∀ row ∈ ofTier id (rows.drop ((n - 1) / 4)), row.hold.quantity = 0 := by
  intro rows
  have ready : Ready rows world.db := ready_batch agrees
  obtain ⟨dbEq, popped, unpopped⟩ := sweepExpiredHolds_run (some n) inputs world tokens due agrees
  generalize (sweepExpiredHolds.run store (some n) inputs none world).2 = after at *
  -- before the pop nothing has happened, after it everything hangs on the loop
  by_cases early : n < 2
  · rw [unpopped (by simpa [Popped] using early)]
    exact iff_of_true (.unchanged due) (.inl early)
  · have saves : (n - 3 + 3) / 4 = n / 4 := by omega
    have updates : (n - 3 + 2) / 4 = (n - 1) / 4 := by omega
    simp only [Option.map_some, savedRows, updatedRows, saves, updates] at dbEq
    have tiersEq := congrArg Database.tiers dbEq
    have holdsEq := congrArg Database.holds dbEq
    have saved := found_iff_saved due ready (n / 4) holdsEq (popped (not_lt.mp early))
    have long : (batch inputs world tokens).length ≤ n / 4 ↔ 4 * rows.length ≤ n := by
      rw [Nat.le_div_iff_mul_le (by decide), Nat.mul_comm]
    by_cases empty : rows = []
    · have none_swept : batch inputs world tokens = [] := empty
      refine iff_of_true ⟨?_, fun id => ?_⟩ (.inr (.inl empty))
      · rw [empty]
        nofun
      · simp [Database.counter, tiersEq, restore, none_swept, empty, expiredIn, ofTier,
          totalQuantity, Function.comp_def]
    · have counted (complete : 4 * rows.length ≤ n) :=
        counted_iff_last ready ((n - 1) / 4)
          (holdsEq.trans (by rw [List.take_of_length_le (long.mpr complete)])) tiersEq
      constructor
      · rintro ⟨found, counts⟩
        have complete := long.mp (saved.mp found)
        exact .inr (.inr ⟨complete, fun id =>
          (totalQuantity_take_iff id rows _).mp ((counted complete id).mp (counts id))⟩)
      · rintro (before | none | ⟨complete, others⟩)
        · exact absurd before early
        · exact absurd none empty
        · exact ⟨saved.mpr (long.mpr complete), fun id =>
            (counted complete id).mpr ((totalQuantity_take_iff id rows _).mpr (others id))⟩

theorem nothing_lost_iff_sample :
    NothingLost (batch Sample.atZero Sample.due [Sample.id 7]) Sample.due
      (sweepExpiredHolds.run store (some 5) Sample.atZero none Sample.due).2 := by
  refine (nothing_lost_iff 5 Sample.atZero Sample.due [Sample.id 7] (by decide +kernel)
    Sample.world_balanced.heldMatches).mpr (.inr (.inr ?_))
  have single : batch Sample.atZero Sample.due [Sample.id 7] = [⟨Sample.id 7,
      { user := Sample.id 5, tierId := Sample.id 1, quantity := 2, expiresAt := 0 },
      { event := Sample.id 0, quantityTotal := 10, quantityHeld := 2 }⟩] := by
    decide +kernel
  rw [single]
  refine ⟨le_of_eq_of_le rfl (by decide : 4 ≤ 5), fun id => ⟨fun row found => ?_, nofun⟩⟩
  simp only [Nat.reduceSub, Nat.reduceDiv, List.take_succ_cons, List.take_zero, ofTier,
    List.filter_cons, List.filter_nil] at found
  split at found <;> cases found

/-- **A stopped sweep loses a hold or its stock.**  Stopped by an exception of the
query, it leaves the hold ACTIVE without its token; stopped right after the
status save, it leaves the hold EXPIRED and its two tickets held. -/
theorem stopped_sweep_loses :
    let start := Sample.due
    let atQuery := (sweepExpiredHolds.run store (some 2) Sample.atZero none start).2
    let afterSave := (sweepExpiredHolds.run store (some 4) Sample.atZero none start).2
    (∀ id tier, start.db.tiers.get id = some tier → tier.quantityHeld = start.db.heldSum id) ∧
    (Sample.id 7).str ∈ start.redis.expiryZset.members ∧
    (atQuery.db.holds.get (Sample.id 7)).map CheckoutHold.status = some .active ∧
    (Sample.id 7).str ∉ atQuery.redis.expiryZset.members ∧
    (afterSave.db.holds.get (Sample.id 7)).map CheckoutHold.status = some .expired ∧
    afterSave.db.counter (Sample.id 1) = start.db.counter (Sample.id 1) := by
  refine ⟨Sample.world_balanced.heldMatches, ?_, ?_, ?_, ?_, ?_⟩ <;> decide +kernel

end Ticketing
