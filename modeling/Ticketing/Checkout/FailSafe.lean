import Ticketing.Checkout.Runs
import Ticketing.Checkout.Brackets

/-!
# Interrupted calls

Requests and sweeps, one after another, each cut off by an exception in front of
any of its statements or not.  The counters drift away from the holds, but only
to one side: a tier can lose stock that nobody holds, and is never oversold.

## Main Definitions

* `interruptedJobs` — sequences of calls, each with the exception that hits it
* `NotOversold` — every counter covers its ACTIVE holds and fits into the tier
* `Drifts` — what a call can do to the counters

## Main Results

* `Request.drifts`, `sweepExpiredHolds_drifts` — one call, stopped anywhere
* `fail_safe` — the invariant, and the stock that is lost, over whole runs

## Design Notes

What a tier has lost is the difference between its counter and the sum of its
ACTIVE holds.  A request changes both by the same quantity, or neither.  The
sweep has no transaction: stopped between its two statements it has ended a hold
whose stock stays taken, and of several holds of one tier it returns the last.
-/

namespace Ticketing

open Transactional Program

/-! ## Runs with exceptions -/

/-- The world after a sequence of calls, each with its own inputs and the
exception that cuts it off. -/
def interruptedJobs : List (Job × Option ℕ × (ℕ → Input)) → World → World
  | [], world => world
  | (job, fault, inputs) :: rest, world =>
      interruptedJobs rest (job.program.run store fault inputs none world).2

/-! ## The counters -/

/-- Every counter covers the ACTIVE holds of its tier, and fits into the tier. -/
structure Database.NotOversold (db : Database) : Prop where
  covered : ∀ id tier, db.tiers.get id = some tier → db.heldSum id ≤ tier.quantityHeld
  withinCapacity : ∀ id, db.WithinCapacity id

/-- What a call does to the tiers: nothing but the counters changes, and none of
them comes closer to the sum of its ACTIVE holds. -/
structure Drifts (before after : Database) : Prop where
  notOversold : after.NotOversold
  tiers : ∀ id tier', after.tiers.get id = some tier' → ∃ tier, before.tiers.get id = some tier ∧
    tier' = { tier with quantityHeld := tier'.quantityHeld } ∧
    tier.quantityHeld + after.heldSum id ≤ tier'.quantityHeld + before.heldSum id

/-- The difference between a counter and the sum of its ACTIVE holds is as before. -/
def SameDrift (before after : Database) : Prop :=
  ∀ id tier tier', before.tiers.get id = some tier → after.tiers.get id = some tier' →
    tier.quantityHeld + after.heldSum id = tier'.quantityHeld + before.heldSum id

namespace Drifts

variable {before middle after : Database}

theorem refl (safe : before.NotOversold) : Drifts before before :=
  ⟨safe, fun _ tier present => ⟨tier, present, rfl, le_rfl⟩⟩

theorem trans (first : Drifts before middle) (second : Drifts middle after) :
    Drifts before after where
  notOversold := second.notOversold
  tiers id tier'' present'' := by
    obtain ⟨tier', present', frozen', step'⟩ := second.tiers id tier'' present''
    obtain ⟨tier, present, frozen, step⟩ := first.tiers id tier' present'
    refine ⟨tier, present, ?_, by omega⟩
    rw [frozen', frozen]

end Drifts

theorem SameDrift.refl (db : Database) : SameDrift db db := by
  intro id tier tier' present present'
  cases present.symm.trans present'
  rfl

theorem SameDrift.trans {before middle after : Database} (first : SameDrift before middle)
    (second : SameDrift middle after) (drifts : Drifts middle after) :
    SameDrift before after := by
  intro id tier tier'' present present''
  obtain ⟨tier', present', -, -⟩ := drifts.tiers id tier'' present''
  have step := first id tier tier' present present'
  have step' := second id tier' tier'' present' present''
  omega

/-! ## Placing and returning -/

section Change

variable {db : Database} {id token : Uuid} {tier : TicketTier} {hold : CheckoutHold}

theorem heldSum_place (absent : db.holds.get token = none) (tierEq : hold.tierId = id)
    (active : hold.status = .active) (other : Uuid) :
    (db.place id tier token hold).heldSum other
      = db.heldSum other + if other = id then hold.quantity else 0 := by
  have sum : (db.place id tier token hold).quantitySum (· = .active) other
      = db.quantitySum (· = .active) other + Database.heldBy (· = .active) other hold :=
    Database.quantitySum_insert _ other absent rfl
  simpa [Database.heldSum, Database.heldBy, tierEq, active, eq_comm] using sum

theorem heldSum_giveBack {held : ℕ} {status : HoldStatus}
    (stored : db.holds.get token = some hold) (active : hold.status = .active)
    (ends : status ≠ .active) (other : Uuid) :
    (db.giveBack tier held token hold status).heldSum other
      + (if other = hold.tierId then hold.quantity else 0) = db.heldSum other := by
  have sum : (db.giveBack tier held token hold status).quantitySum (· = .active) other
        + Database.heldBy (· = .active) other hold
      = db.quantitySum (· = .active) other
        + Database.heldBy (· = .active) other { hold with status } :=
    Database.quantitySum_update _ other stored rfl
  simpa [Database.heldSum, Database.heldBy, active, ends, eq_comm] using sum

/-- A hold that fits raises the counter and the sum by its quantity. -/
theorem Database.NotOversold.place (safe : db.NotOversold)
    (present : db.tiers.get id = some tier) (absent : db.holds.get token = none)
    (tierEq : hold.tierId = id) (active : hold.status = .active)
    (fits : (hold.quantity : ℤ) ≤ tier.quantityAvailable) :
    Drifts db (db.place id tier token hold) ∧ SameDrift db (db.place id tier token hold) := by
  have sum := @heldSum_place db id token tier hold absent tierEq active
  have row {other : Uuid} {tier' : TicketTier}
      (found : (db.place id tier token hold).tiers.get other = some tier') :
      ∃ old, db.tiers.get other = some old ∧ tier' = { old with
        quantityHeld := old.quantityHeld + if other = id then hold.quantity else 0 } := by
    simp only [Database.place, Table.get_set] at found
    split at found
    · rename_i same
      cases found
      exact ⟨tier, same ▸ present, by rw [if_pos same]⟩
    · rename_i different
      exact ⟨tier', found, by rw [if_neg different, Nat.add_zero]⟩
  refine ⟨⟨⟨fun other tier' found => ?_, fun other => ?_⟩, fun other tier' found => ?_⟩,
    fun other old tier' found found' => ?_⟩
  · obtain ⟨old, before, rfl⟩ := row found
    have covered := safe.covered other old before
    rw [sum]
    simp only
    omega
  · exact (safe.withinCapacity other).place present fits
  · obtain ⟨old, before, rfl⟩ := row found
    refine ⟨old, before, rfl, ?_⟩
    rw [sum]
    simp only
    omega
  · obtain ⟨old', before, rfl⟩ := row found'
    obtain rfl := Option.some.inj (before.symm.trans found)
    rw [sum]
    simp only
    omega

/-- A hold that ends lowers both. -/
theorem Database.NotOversold.giveBack {held : ℕ} {status : HoldStatus} (safe : db.NotOversold)
    (present : db.tiers.get hold.tierId = some tier) (stored : db.holds.get token = some hold)
    (active : hold.status = .active) (ends : status ≠ .active)
    (current : held + hold.quantity = tier.quantityHeld) :
    Drifts db (db.giveBack tier held token hold status) ∧
      SameDrift db (db.giveBack tier held token hold status) := by
  have sum := @heldSum_giveBack db token tier hold held status stored active ends
  have row {other : Uuid} {tier' : TicketTier}
      (found : (db.giveBack tier held token hold status).tiers.get other = some tier') :
      ∃ old, db.tiers.get other = some old ∧ tier' = { old with
        quantityHeld := tier'.quantityHeld } ∧
      tier'.quantityHeld + (if other = hold.tierId then hold.quantity else 0)
        = old.quantityHeld := by
    simp only [Database.giveBack, Table.get_set] at found
    split at found
    · rename_i same
      cases found
      exact ⟨tier, same ▸ present, rfl, by rw [if_pos same]; exact current⟩
    · rename_i different
      exact ⟨tier', found, rfl, by rw [if_neg different, Nat.add_zero]⟩
  refine ⟨⟨⟨fun other tier' found => ?_, fun other => ?_⟩, fun other tier' found => ?_⟩,
    fun other old tier' found found' => ?_⟩
  · obtain ⟨old, before, -, gone⟩ := row found
    have covered := safe.covered other old before
    have lost := sum other
    omega
  · exact (safe.withinCapacity other).giveBack present (by omega)
  · obtain ⟨old, before, frozen, gone⟩ := row found
    have lost := sum other
    exact ⟨old, before, frozen, by omega⟩
  · obtain ⟨old', before, -, gone⟩ := row found'
    obtain rfl := Option.some.inj (before.symm.trans found)
    have lost := sum other
    omega

end Change

/-! ## A request, stopped anywhere -/

/-- The database lasts. -/
theorem durable_db : Durable store World.db QuietStmt where
  rollback _ _ := rfl
  quiet := by
    intro input stmt world world' answer still executed
    cases stmt with
    | env stmt =>
        cases executed
        rfl
    | redis stmt =>
        cases executed
        rfl
    | sql stmt =>
        cases stmt with
        | selectHold token =>
            cases executed
            rfl
        | _ => exact still.elim

/-- **A request, stopped anywhere**, moves counters and sums alike. -/
theorem Request.drifts (request : Request) (fault : Option ℕ) (inputs : ℕ → Input) (world : World)
    (safe : world.db.NotOversold) :
    let after := (request.program.run store fault inputs none world).2
    Drifts world.db after.db ∧ SameDrift world.db after.db := by
  rcases request.singleTransaction.run_cases durable_db fault inputs world with same | same
  · simp only [same]
    exact ⟨.refl safe, .refl _⟩
  · simp only [same]
    cases request with
    | createHold user tierId quantity =>
        have spec := createHold_run user tierId quantity inputs world
        simp only [Runs] at spec
        rw [Request.program, run_discard]
        generalize (Ticketing.createHold user tierId quantity).run store none inputs none world
          = result at spec ⊢
        generalize heldUpdates (Ticketing.createHold user tierId quantity) inputs world = written
          at spec
        cases spec with
        | raised error => exact ⟨.refl safe, .refl _⟩
        | placed parsed present belowCap fits quantityEq userEq tierEq active absent =>
            exact safe.place present absent tierEq active (quantityEq ▸ fits)
    | releaseHoldByToken holdToken =>
        exact released (@releaseHoldByToken_run (fun _ => True) holdToken inputs world)
    | releaseHoldOnPaymentTimeout holdToken =>
        exact released (releaseHoldOnPaymentTimeout_run holdToken inputs world)
where
  released {due : CheckoutHold → Prop} {holdToken : String}
      {result : Outcome CheckoutError Unit × World} {written : List ℤ}
      (spec : ReleaseResult due holdToken world result written) :
      Drifts world.db result.2.db ∧ SameDrift world.db result.2.db := by
    cases spec with
    | raised error => exact ⟨.refl safe, .refl _⟩
    | ignored => exact ⟨.refl safe, .refl _⟩
    | overdrawn => exact ⟨.refl safe, .refl _⟩
    | released parsed stored active present current =>
        refine safe.giveBack present stored active ?_ current
        nofun

/-! ## The sweep, stopped anywhere -/

section Sweep

variable {world : World} {tokens : List Uuid} {inputs : ℕ → Input}

/-- The rows of the batch are ready: a counter covers each of its holds. -/
theorem Database.NotOversold.ready_batch (safe : world.db.NotOversold) :
    Ready (batch inputs world tokens) world.db where
  nodup := (((inputs 2).order_perm _).map _).nodup_iff.mpr (nodup_activeHolds _ _)
  stored row found := (mem_batch.mp found).2.1
  present row found := ⟨row.tier, (mem_batch.mp found).2.2.2⟩
  covered row found := by
    obtain ⟨-, stored, active, present⟩ := mem_batch.mp found
    have part := heldBy_le_quantitySum (· = .active) world.db row.hold.tierId stored
    simp only [heldBy, active, decide_true, and_self, if_true] at part
    exact part.trans (safe.covered _ _ present)

/-- **The sweep, stopped anywhere**, whatever the sorted set contains: the tables
are as they were, or the loop over some batch has got somewhere. -/
theorem sweepExpiredHolds_stopped (fault : Option ℕ) (inputs : ℕ → Input) (world : World)
    (safe : world.db.NotOversold) :
    let after := (sweepExpiredHolds.run store fault inputs none world).2
    after.db = world.db ∨ ∃ tokens stop, after.db =
      ⟨restore (updatedRows (batch inputs world tokens) stop) world.db.tiers,
        expire (savedRows (batch inputs world tokens) stop) world.db.holds⟩ := by
  have loop (tokens : List Uuid) (stop : Option ℕ) (later : ℕ → Input) (redis : Redis) :=
    (sweepLoop_run (batch inputs world tokens) stop later ⟨world.db, redis⟩ 0 safe.ready_batch).1
  simp only [sweepExpiredHolds, popExpiredHolds, now, redis, sql, send, call_bind, done_bind]
  rcases fault with _ | _ | _ | n
  · simp only [run_call, exec_env, exec_redis]
    split
    · exact .inl rfl
    · split
      · exact .inl rfl
      · rename_i tokens parsed
        simp only [run_call, exec_selectActiveHolds]
        exact .inr ⟨tokens, none, loop tokens none _ _⟩
  · exact .inl rfl
  · exact .inl rfl
  · simp only [run_call_succ, exec_env, exec_redis]
    split
    · exact .inl rfl
    · split
      · exact .inl rfl
      · rename_i tokens parsed
        cases n with
        | zero => exact .inl rfl
        | succ n =>
            simp only [run_call_succ, exec_selectActiveHolds]
            exact .inr ⟨tokens, some n, loop tokens (some n) _ _⟩

theorem savedRows_subset (rows : List SweepRow) (stop : Option ℕ) :
    (savedRows rows stop).Sublist rows := by
  cases stop with
  | none => exact .refl rows
  | some n => exact List.take_sublist _ _

/-- An UPDATE comes after the save of its row. -/
theorem updatedRows_subset (rows : List SweepRow) (stop : Option ℕ) :
    (updatedRows rows stop).Sublist (savedRows rows stop) := by
  cases stop with
  | none => exact .refl rows
  | some n => exact List.take_sublist_take_left (by omega)

theorem totalQuantity_ofTier_le (id : Uuid) {fewer more : List SweepRow}
    (sublist : fewer.Sublist more) :
    totalQuantity (ofTier id fewer) ≤ totalQuantity (ofTier id more) :=
  ((sublist.filter _).map _).sum_le_sum fun _ _ => Nat.zero_le _

/-- The sweep takes all quantities of the saved rows off the sum, and at most
that much off the counter. -/
theorem Database.NotOversold.sweep (safe : world.db.NotOversold) (stop : Option ℕ) :
    Drifts world.db ⟨restore (updatedRows (batch inputs world tokens) stop) world.db.tiers,
      expire (savedRows (batch inputs world tokens) stop) world.db.holds⟩ := by
  set rows := batch inputs world tokens
  have ready : Ready rows world.db := safe.ready_batch
  have saved := savedRows_subset rows stop
  have updated := updatedRows_subset rows stop
  have within {row : SweepRow} (found : row ∈ savedRows rows stop) := saved.subset found
  have copies : ∀ row ∈ updatedRows rows stop, world.db.tiers.get row.hold.tierId = some row.tier :=
    fun row found => (mem_batch.mp (within (updated.subset found))).2.2.2
  have sum (id : Uuid) := heldSum_expire id (savedRows rows stop) world.db
    ((saved.map _).nodup ready.nodup) (fun row found => ready.stored row (within found))
    (fun row found => (mem_batch.mp (within found)).2.2.1)
    (restore (updatedRows rows stop) world.db.tiers)
  have less (id : Uuid) : lastQuantity id (updatedRows rows stop)
      ≤ totalQuantity (ofTier id (savedRows rows stop)) :=
    (lastQuantity_le id _).trans (totalQuantity_ofTier_le id updated)
  refine ⟨⟨fun id tier' found => ?_, fun id tier' found => ?_⟩, fun id tier' found => ?_⟩
  all_goals
    rw [get_restore _ _ copies] at found
    obtain ⟨tier, present, rfl⟩ := Option.map_eq_some_iff.mp found
    have total := sum id
    have bound := less id
    have covered := safe.covered id tier present
  · simp only
    omega
  · have capacity := safe.withinCapacity id tier present
    simp only
    omega
  · refine ⟨tier, present, rfl, ?_⟩
    simp only
    omega

end Sweep

/-! ## Whole runs -/

/-- One job, stopped anywhere. -/
theorem Job.drifts (job : Job) (fault : Option ℕ) (inputs : ℕ → Input) (world : World)
    (safe : world.db.NotOversold) :
    Drifts world.db (job.program.run store fault inputs none world).2.db := by
  cases job with
  | request call => exact (call.drifts fault inputs world safe).1
  | sweepExpiredHolds =>
      rw [Job.program, run_discard]
      rcases sweepExpiredHolds_stopped fault inputs world safe with same | ⟨tokens, stop, swept⟩
      · rw [same]
        exact .refl safe
      · rw [swept]
        exact safe.sweep stop

theorem interruptedJobs_drifts (jobs : List (Job × Option ℕ × (ℕ → Input))) {world : World}
    (safe : world.db.NotOversold) : Drifts world.db (interruptedJobs jobs world).db := by
  induction jobs generalizing world with
  | nil => exact .refl safe
  | cons head rest ih =>
      have first := head.1.drifts head.2.1 head.2.2 world safe
      exact first.trans (ih first.notOversold)

/-- Requests alone lose nothing. -/
theorem interruptedJobs_sameDrift (jobs : List (Job × Option ℕ × (ℕ → Input))) {world : World}
    (safe : world.db.NotOversold) (noSweep : ∀ job ∈ jobs, ∃ call, job.1 = .request call) :
    SameDrift world.db (interruptedJobs jobs world).db := by
  induction jobs generalizing world with
  | nil => exact .refl _
  | cons head rest ih =>
      obtain ⟨job, fault, inputs⟩ := head
      obtain ⟨call, isRequest⟩ := noSweep _ List.mem_cons_self
      have first := call.drifts fault inputs world safe
      simp only at isRequest
      subst isRequest
      have others := fun job found => noSweep job (List.mem_cons_of_mem _ found)
      exact first.2.trans (ih first.1.notOversold others)
        (interruptedJobs_drifts rest first.1.notOversold)

/-- **The inventory is fail-safe.**  Whatever calls run one after another, each
complete or cut off in front of any of its statements, no tier is oversold: its
counter covers its ACTIVE holds, and held and sold tickets fit into its total.
The stock a tier has lost (its counter less its ACTIVE holds) never comes back,
and only a sweep makes it grow. -/
theorem fail_safe (jobs : List (Job × Option ℕ × (ℕ → Input))) (world : World)
    (covered : ∀ id tier, world.db.tiers.get id = some tier →
      world.db.heldSum id ≤ tier.quantityHeld)
    (capacity : ∀ id tier, world.db.tiers.get id = some tier →
      tier.quantityHeld + tier.quantitySold ≤ tier.quantityTotal) :
    let reached := interruptedJobs jobs world
    ∀ id tier', reached.db.tiers.get id = some tier' →
      reached.db.heldSum id ≤ tier'.quantityHeld ∧
      tier'.quantityHeld + tier'.quantitySold ≤ tier'.quantityTotal ∧
      ∃ tier, world.db.tiers.get id = some tier ∧
        tier' = { tier with quantityHeld := tier'.quantityHeld } ∧
        tier.quantityHeld - world.db.heldSum id ≤ tier'.quantityHeld - reached.db.heldSum id ∧
        ((∀ job ∈ jobs, ∃ call, job.1 = .request call) →
          tier'.quantityHeld - reached.db.heldSum id
            = tier.quantityHeld - world.db.heldSum id) := by
  intro reached id tier' present'
  have safe : world.db.NotOversold := ⟨covered, capacity⟩
  have drifts : Drifts world.db reached.db := interruptedJobs_drifts jobs safe
  have covered' := drifts.notOversold.covered id tier' present'
  obtain ⟨tier, present, frozen, lost⟩ := drifts.tiers id tier' present'
  have before := covered id tier present
  refine ⟨covered', drifts.notOversold.withinCapacity id tier' present', tier, present, frozen,
    by omega, fun noSweep => ?_⟩
  have same : SameDrift world.db reached.db := interruptedJobs_sameDrift jobs safe noSweep
  have kept := same id tier tier' present present'
  omega

namespace Sample

/-- A sweep that dies between its first two statements, and a `create_hold` that
dies in front of its commit. -/
def stopped : List (Job × Option ℕ × (ℕ → Input)) :=
  [(.sweepExpiredHolds, some 4, atZero),
    (.request (.createHold (id 5) (id 1).str 1), some 11, atZero),
    (.request (.releaseHoldByToken (id 8).str), none, atZero)]

end Sample

theorem fail_safe_sample :
    (interruptedJobs Sample.stopped Sample.dueTwice).db.heldSum (Sample.id 1) ≤ 2 ∧ 2 + 0 ≤ 10 := by
  have start := Sample.dueTwice_agrees
  have row : (interruptedJobs Sample.stopped Sample.dueTwice).db.tiers.get (Sample.id 1)
      = some { event := Sample.id 0, quantityTotal := 10, quantityHeld := 2 } := by
    decide +kernel
  have capacity (tierId : Uuid) (tier : TicketTier)
      (present : Sample.dueTwice.db.tiers.get tierId = some tier) :
      tier.quantityHeld + tier.quantitySold ≤ tier.quantityTotal := by
    simp only [Sample.dueTwice, Table.get_set] at present
    split at present
    · cases present
      decide
    · cases present
  have kept := fail_safe Sample.stopped Sample.dueTwice
    (fun id tier present => (start id tier present).ge) capacity (Sample.id 1) _ row
  exact ⟨kept.1, kept.2.1⟩

end Ticketing
