import Ticketing.Checkout.Brackets
import Ticketing.Transactional.Progress

/-!
# The checkout does not deadlock

Requests and sweeps wait for each other's rows: `create_hold` locks a tier and
inserts a hold, `release_hold_by_token` locks a hold and then updates its tier,
and the sweep takes both kinds of locks one at a time.  The two orders are
opposite; they do not meet, since the hold that is inserted under the lock of a
tier is not one that a release can have locked.

## Main Definitions

* `InOrder` — what a client owns in front of each of its statements
* `lockRank` — holds that exist, tiers, holds that are being inserted

## Main Results

* `waits_upwards` — whoever waits, waits for a client of higher rank
* `checkout_completes` — no interleaving of calls is a dead end
-/

namespace Ticketing

open Transactional VersionedTable

/-! ## The order -/

/-- What a client owns in front of a statement: the first lock is taken by a
client without locks, a hold is inserted under the lock of a tier, and a tier is
updated under its lock or by a client that has locked holds that exist. -/
def InOrder : Stmt → Own → Prop
  | .sql (.selectTierForUpdate _), own => own = .nothing
  | .sql (.selectActiveHoldForUpdate _), own => own = .nothing
  | .sql (.insertHold ..), own => own.holds = (fun _ => none) ∧ own.tiers ≠ fun _ => none
  | .sql (.saveStatus token _), own => own = .nothing ∨ own.holds token ≠ none
  | .sql (.updateQuantityHeld id _), own => own.tiers id ≠ none ∨
      own.tiers = (fun _ => none) ∧
        ∀ token locked, own.holds token = some locked → locked.committed ≠ none
  | _, _ => True

open Classical in
/-- The rank of what a client owns: nothing, holds that exist, tiers, and a tier
together with a hold that is being inserted. -/
noncomputable def lockRank (own : Own) : ℕ :=
  if own = .nothing then 0
  else if own.tiers = (fun _ => none) ∧
      ∀ token locked, own.holds token = some locked → locked.committed ≠ none then 1
  else if own.holds = fun _ => none then 2
  else 3

theorem lockRank_le (own : Own) : lockRank own ≤ 3 := by
  unfold lockRank
  split_ifs <;> omega

theorem lockRank_nothing : lockRank .nothing = 0 := if_pos rfl

section Rank

variable {own : Own}

/-- Owning anything counts. -/
theorem lockRank_pos (something : own ≠ .nothing) : 0 < lockRank own := by
  unfold lockRank
  rw [if_neg something]
  split_ifs <;> omega

theorem lockRank_of_tier {id : Uuid} (locked : own.tiers id ≠ none) : 2 ≤ lockRank own := by
  have tiers : own.tiers ≠ fun _ => none := fun none => locked (congrFun none id)
  have something : own ≠ .nothing := fun nothing => tiers (congrArg Own.tiers nothing)
  unfold lockRank
  rw [if_neg something, if_neg fun both => tiers both.1]
  split_ifs <;> omega

/-- A hold that is being inserted has the highest rank. -/
theorem lockRank_of_inserted {token : Uuid} {locked : LockedRow CheckoutHold}
    (owned : own.holds token = some locked) (inserted : locked.committed = none) :
    lockRank own = 3 := by
  have holds : own.holds ≠ fun _ => none := fun none => by
    rw [congrFun none token] at owned
    cases owned
  have something : own ≠ .nothing := fun nothing => holds (congrArg Own.holds nothing)
  unfold lockRank
  rw [if_neg something, if_neg fun both => both.2 token locked owned inserted, if_neg holds]

theorem lockRank_of_existing (tiers : own.tiers = fun _ => none)
    (existing : ∀ token locked, own.holds token = some locked → locked.committed ≠ none) :
    lockRank own ≤ 1 := by
  unfold lockRank
  split_ifs
  · omega
  · omega
  · rename_i not_existing _
    exact absurd ⟨tiers, existing⟩ not_existing
  · rename_i not_existing _
    exact absurd ⟨tiers, existing⟩ not_existing

theorem lockRank_of_no_holds (holds : own.holds = fun _ => none) : lockRank own ≤ 2 := by
  unfold lockRank
  split_ifs <;> omega

end Rank

/-! ## Waiting -/

section Waiting

variable {ι : Type} [DecidableEq ι] {agent : ι} {input : Input} {world : SharedWorld ι}

/-- Whoever waits for a lock waits for its owner. -/
theorem exists_owner {K V : Type} [DecidableEq K] {table : VersionedTable K ι V} {key : K}
    {written : Option V} (waiting : table.put agent key written = none) :
    ∃ other, other ≠ agent ∧ own other table key ≠ none := by
  by_contra free
  refine put_ne_none (fun other different => ?_) written waiting
  by_contra owned
  exact free ⟨other, different, owned⟩

theorem exists_owner_of_lockWhere {K V : Type} [DecidableEq K] {table : VersionedTable K ι V}
    {key : K} {keep : V → Bool} (waiting : table.lockWhere agent key keep = none) :
    ∃ other, other ≠ agent ∧ own other table key ≠ none := by
  by_contra free
  refine lockWhere_ne_none (fun other different => ?_) keep waiting
  by_contra owned
  exact free ⟨other, different, owned⟩

/-- Nobody waits for a row it has locked. -/
theorem own_eq_none {K V : Type} {table : VersionedTable K ι V} {key : K} {other : ι}
    (mine : own agent table key ≠ none) (different : other ≠ agent) :
    own other table key = none := by
  unfold own at mine ⊢
  cases present : table.get key with
  | none => rfl
  | some row =>
      rw [present, Option.bind_some] at mine
      obtain ⟨locked, owned⟩ := Option.ne_none_iff_exists'.mp mine
      exact Row.lockedBy_unique owned different

/-- A row that somebody else has locked cannot be locked. -/
theorem lockWhere_eq_none {K V : Type} [DecidableEq K] {table : VersionedTable K ι V} {key : K}
    {other : ι} {row : V} {written : Option V}
    (locked : own agent table key = some ⟨some row, written⟩) (different : other ≠ agent) :
    table.lockWhere other key (fun _ => true) = none := by
  have mine : own agent table key ≠ none := by
    rw [locked]
    exact Option.some_ne_none _
  have free : own other table key = none := own_eq_none mine different
  have visible : table.read other key = some row := by
    rw [read_of_not_own free]
    exact get_committed_of_own locked
  have blocked : table.put other key none = none := by
    by_contra granted
    obtain ⟨table', granted⟩ := Option.ne_none_iff_exists'.mp granted
    exact mine ((put_eq_some granted).2 agent different.symm)
  rw [lockWhere, visible, Option.filter_some_pos rfl, free]
  exact Option.map_eq_none_iff.mpr blocked

/-- **Whoever waits, waits for a client of higher rank.** -/
theorem waits_upwards {stmt : Stmt} (order : InOrder stmt (world.own agent))
    (waiting : world.exec agent input stmt = none) :
    ∃ other, lockRank (world.own agent) < lockRank (world.own other) := by
  cases stmt with
  | env stmt => cases waiting
  | redis stmt => cases waiting
  | sql stmt =>
      cases stmt with
      | selectTierForUpdate id =>
          simp only [SharedWorld.exec, SharedWorld.execSql, Option.map_eq_none_iff] at waiting
          obtain ⟨other, -, owned⟩ := exists_owner_of_lockWhere waiting
          have rank : 2 ≤ lockRank (world.own other) := lockRank_of_tier owned
          refine ⟨other, ?_⟩
          rw [show world.own agent = .nothing from order, lockRank_nothing]
          omega
      | selectTier id => cases waiting
      | updateQuantityHeld id quantityHeld =>
          have waiting : ∃ tier : TicketTier, world.tiers.put agent id (some tier) = none := by
            simp only [SharedWorld.exec, SharedWorld.execSql] at waiting
            split at waiting
            · cases waiting
            · exact ⟨_, Option.map_eq_none_iff.mp waiting⟩
          obtain ⟨_, waiting⟩ := waiting
          obtain ⟨other, different, owned⟩ := exists_owner waiting
          have rank : 2 ≤ lockRank (world.own other) := lockRank_of_tier owned
          rcases order with mine | ⟨tiers, existing⟩
          · exact absurd (own_eq_none mine different) owned
          · have less := lockRank_of_existing tiers existing
            exact ⟨other, by omega⟩
      | countActiveHolds user event => cases waiting
      | selectHold token => cases waiting
      | selectActiveHoldForUpdate token =>
          simp only [SharedWorld.exec, SharedWorld.execSql, Option.map_eq_none_iff] at waiting
          obtain ⟨other, -, owned⟩ := exists_owner_of_lockWhere waiting
          refine ⟨other, ?_⟩
          rw [show world.own agent = .nothing from order, lockRank_nothing]
          exact lockRank_pos fun nothing => owned (congrFun (congrArg Own.holds nothing) token)
      | selectActiveHolds tokens => cases waiting
      | insertHold token user tierId quantity expiresAt =>
          -- the row that keeps the insert waiting is not there yet, so it is being inserted too
          simp only [SharedWorld.exec, SharedWorld.execSql] at waiting
          split at waiting
          · cases waiting
          · rename_i accepted
            simp only [not_or, Option.not_isSome_iff_eq_none] at accepted
            obtain ⟨other, -, owned⟩ := exists_owner (Option.map_eq_none_iff.mp waiting)
            obtain ⟨locked, owned⟩ := Option.ne_none_iff_exists'.mp owned
            have inserted : locked.committed = none :=
              (get_committed_of_own owned).symm.trans (absent_of_read accepted.2.2).1
            have rank : lockRank (world.own other) = 3 := lockRank_of_inserted owned inserted
            have less := lockRank_of_no_holds order.1
            exact ⟨other, by omega⟩
      | saveStatus token status =>
          have waiting : ∃ hold : CheckoutHold, world.holds.put agent token (some hold) = none := by
            simp only [SharedWorld.exec, SharedWorld.execSql] at waiting
            split at waiting
            · cases waiting
            · exact ⟨_, Option.map_eq_none_iff.mp waiting⟩
          obtain ⟨_, waiting⟩ := waiting
          obtain ⟨other, different, owned⟩ := exists_owner waiting
          rcases order with nothing | mine
          · refine ⟨other, ?_⟩
            rw [nothing, lockRank_nothing]
            exact lockRank_pos fun nothing => owned (congrFun (congrArg Own.holds nothing) token)
          · exact absurd (own_eq_none mine different) owned

/-- The lock order of the checkout. -/
noncomputable def lockOrder (ι : Type) [DecidableEq ι] : LockOrder (isolation ι) InOrder where
  rank := lockRank
  bound := 3
  rank_le := lockRank_le
  rank_nothing := lockRank_nothing
  waits := waits_upwards

end Waiting

/-! ## The functions keep the order -/

/-- Every statement of a client finds it in order. -/
def orderly : Contract signature Own where
  Local := Moves .any
  Pre _ := InOrder
  Post _ _ _ := True
  Unfinished _ := True

/-- A tier is locked. -/
theorem single_ne_none {K V : Type} [DecidableEq K] (key : K) (locked : LockedRow V) :
    single key locked ≠ fun _ => none := by
  intro none
  have absent := congrFun none key
  rw [single_self] at absent
  cases absent

theorem placeHold_orderly (user : Uuid) (tierId : String) (id : Uuid) (tier : TicketTier)
    (quantity : ℤ) (history events : List (Event signature)) :
    (placeHold user tierId id tier quantity >>= fun value =>
        Program.commit (Program.done value)).Safe .nothing orderly history (some events)
      ⟨single id ⟨some tier, none⟩, fun _ => none⟩ := by
  simp only [placeHold, now, uuid4, sql, redis, registerHold, pushHoldExpiry,
    invalidateAvailability, Program.send, Program.call_bind, Program.done_bind]
  refine ⟨trivial, trivial, ?_⟩
  rintro readAt own rfl
  refine ⟨trivial, trivial, ?_⟩
  rintro token own rfl
  refine ⟨trivial, ⟨rfl, single_ne_none _ _⟩, ?_⟩
  rintro hold own ⟨-, -, rfl⟩
  refine ⟨trivial, .inl (by simp), ?_⟩
  rintro answer own -
  refine ⟨trivial, trivial, ?_⟩
  rintro registeredAt own rfl
  refine ⟨trivial, trivial, ?_⟩
  rintro registered own rfl
  refine ⟨trivial, trivial, ?_⟩
  rintro pushed own rfl
  refine ⟨trivial, trivial, ?_⟩
  rintro invalidated own rfl
  exact ⟨trivial, trivial, trivial⟩

theorem createHold_orderly (user : Uuid) (tierId : String) (quantity : ℤ)
    (history : List (Event signature)) :
    (createHold user tierId quantity).Safe .nothing orderly history none .nothing := by
  unfold createHold Program.atomic
  refine ⟨trivial, ?_⟩
  cases Uuid.parse tierId with
  | none => trivial
  | some id =>
      simp only [sql, Program.send, Program.call_bind, Program.done_bind]
      refine ⟨trivial, rfl, ?_⟩
      rintro answer own (⟨rfl, rfl⟩ | ⟨tier, locked, rfl, sees, current, rfl⟩)
      · trivial
      · obtain rfl := sees.committed rfl current
        simp only [Program.call_bind]
        refine ⟨trivial, trivial, ?_⟩
        rintro (count : ℕ) own rfl
        beta_reduce
        split
        · trivial
        · split
          · trivial
          · exact placeHold_orderly ..

theorem releaseHoldByToken_orderly (holdToken : String) (history : List (Event signature)) :
    (releaseHoldByToken holdToken).Safe .nothing orderly history none .nothing := by
  unfold releaseHoldByToken Program.atomic
  refine ⟨trivial, ?_⟩
  cases Uuid.parse holdToken with
  | none => trivial
  | some token =>
      simp only [sql, Program.send, Program.call_bind, Program.done_bind]
      refine ⟨trivial, rfl, ?_⟩
      rintro answer own (⟨rfl, rfl⟩ | ⟨hold, locked, rfl, active, sees, current, rfl⟩)
      · exact ⟨trivial, trivial, trivial⟩
      · obtain rfl := sees.committed rfl current
        simp only [returnStock, sql, redis, releaseHold, invalidateAvailability, Program.send,
          Program.call_bind, Program.done_bind]
        refine ⟨trivial, .inr (by simp), ?_⟩
        rintro saved own ⟨row, locked, sees, -, -, rfl⟩
        obtain rfl := sees.eq (Function.update_self ..)
        refine ⟨trivial, trivial, ?_⟩
        rintro (loaded : Option TicketTier) own rfl
        cases loaded with
        | none => trivial
        | some tier =>
            simp only [Program.call_bind, Program.done_bind]
            -- the only hold that is locked is the one that was found
            refine ⟨trivial, .inr ⟨rfl, fun other found owned => ?_⟩, ?_⟩
            · rw [Function.update_idem] at owned
              obtain ⟨-, rfl⟩ := eq_of_single owned
              exact Option.some_ne_none _
            rintro updated own -
            refine ⟨trivial, trivial, ?_⟩
            rintro dropped own rfl
            refine ⟨trivial, trivial, ?_⟩
            rintro invalidated own rfl
            exact ⟨trivial, trivial, trivial⟩

theorem releaseHoldOnPaymentTimeout_orderly (holdToken : String) :
    (releaseHoldOnPaymentTimeout holdToken).Safe .nothing orderly [] none .nothing := by
  unfold releaseHoldOnPaymentTimeout
  cases Uuid.parse holdToken with
  | none => trivial
  | some token =>
      simp only [sql, now, Program.send, Program.call_bind, Program.done_bind]
      refine ⟨trivial, trivial, ?_⟩
      rintro (found : Option CheckoutHold) own rfl
      refine ⟨trivial, ?_⟩
      cases found with
      | none => trivial
      | some hold =>
          beta_reduce
          simp only
          split
          · refine ⟨trivial, trivial, ?_⟩
            rintro (readAt : Time) own rfl
            refine ⟨trivial, ?_⟩
            beta_reduce
            split
            · exact releaseHoldByToken_orderly ..
            · trivial
          · trivial

theorem sweepLoop_orderly (rows : List SweepRow) (expiredCount : ℕ)
    (history : List (Event signature)) :
    (sweepLoop rows expiredCount).Safe .nothing orderly history none .nothing := by
  induction rows generalizing expiredCount history with
  | nil => trivial
  | cons row rest ih =>
      simp only [sweepLoop, sql, redis, releaseHold, invalidateAvailability, Program.send,
        Program.call_bind, Program.done_bind]
      refine ⟨trivial, .inl rfl, fun saved own _ => ⟨trivial, trivial, ?_⟩⟩
      have unlocked : ∀ token locked, Own.nothing.holds token = some locked →
          locked.committed ≠ none := by
        intro token locked owned
        cases owned
      refine ⟨.inr ⟨rfl, unlocked⟩, fun updated own _ => ⟨trivial, trivial, trivial, ?_⟩⟩
      exact fun dropped own _ => ⟨trivial, trivial, trivial, fun _ _ _ => ⟨trivial, ih _ _⟩⟩

theorem sweepExpiredHolds_orderly :
    sweepExpiredHolds.Safe .nothing orderly [] none .nothing := by
  simp only [sweepExpiredHolds, popExpiredHolds, now, redis, sql, Program.send, Program.call_bind,
    Program.done_bind]
  refine ⟨trivial, trivial, fun readAt own _ => ⟨trivial, trivial, trivial, ?_⟩⟩
  rintro (expiredTokens : List String) own -
  refine ⟨trivial, ?_⟩
  beta_reduce
  by_cases empty : expiredTokens = []
  · rw [if_pos empty]
    trivial
  · rw [if_neg empty]
    cases expiredTokens.mapM Uuid.parse with
    | none => trivial
    | some tokens =>
        exact ⟨trivial, trivial, fun rows own _ => ⟨trivial, sweepLoop_orderly _ _ _⟩⟩

theorem Job.orderly (job : Job) : job.program.Safe .nothing orderly [] none .nothing := by
  cases job with
  | request call =>
      cases call with
      | createHold user tierId quantity =>
          exact (createHold_orderly user tierId quantity []).discard
      | releaseHoldByToken holdToken => exact releaseHoldByToken_orderly holdToken []
      | releaseHoldOnPaymentTimeout holdToken =>
          exact releaseHoldOnPaymentTimeout_orderly holdToken
  | sweepExpiredHolds => exact sweepExpiredHolds_orderly.discard

/-! ## No dead ends -/

section Completion

variable {ι : Type} [DecidableEq ι] {system system' : System signature ι (SharedWorld ι)
  CheckoutError Unit} {action : Action ι Input CheckoutError}

/-- Clients in the middle of their jobs. -/
structure Underway (system : System signature ι (SharedWorld ι) CheckoutError Unit) : Prop where
  safe : AllSafe (isolation ι) orderly system
  tidy : Tidy (isolation ι) system

theorem Underway.start (world : World) (jobs : ι → Job) :
    Underway (.start (.ofWorld world) fun agent => (jobs agent).program) where
  safe := .start (fun agent => SharedWorld.own_ofWorld agent world) fun agent =>
    (jobs agent).orderly
  tidy := .start (fun agent => SharedWorld.own_ofWorld agent world) fun agent =>
    (jobs agent).singleTransaction

theorem Underway.step (underway : Underway system)
    (stepped : system.step (engine ι) action = some system') : Underway system' where
  safe := (System.step_sound stepped).safe underway.safe fun _ _ result =>
    moves_of_exec result (Finds.at_any ..)
  tidy := underway.tidy.step stepped

/-- What a client owns in front of its next statement is in order. -/
theorem Underway.inOrder (underway : Underway system) {agent : ι} {stmt : Stmt}
    (next : (system.thread agent).program.nextStmt = some stmt) :
    InOrder stmt (system.world.own agent) := by
  have safe := underway.safe agent
  rcases isAt : system.thread agent with ⟨program, transaction⟩
  rw [isAt] at safe next
  cases program with
  | call first rest =>
      cases next
      cases transaction with
      | none => exact safe.2.1
      | some events => exact safe.2.1
  | _ => cases next

/-- As long as one client has not ended, one of those that have not can move,
whatever it takes from its surroundings. -/
theorem Underway.moves (underway : Underway system)
    (running : ∃ agent, ¬ (system.thread agent).Ended) (input : ι → Input) :
    ∃ agent, ¬ (system.thread agent).Ended ∧
      ∃ after, system.step (engine ι) ⟨agent, input agent, none⟩ = some after :=
  (lockOrder ι).moves underway.tidy (fun _ _ => underway.inOrder) running input

/-- **The checkout does not deadlock.**  In any interleaving of calls of
`create_hold`, `release_hold_by_token`, `release_hold_on_payment_timeout` and
`sweep_expired_holds`, exceptions included: as long as one client has not ended,
one of those that have not can move; and finitely many clients, who cannot run
for ever, always have a way on which all of them end without an exception from outside. -/
theorem checkout_completes (world : World) (jobs : ι → Job)
    (reached : Reaches (engine ι) Unrestricted
      (.start (.ofWorld world) fun agent => (jobs agent).program) system) :
    ((∃ agent, ¬ (system.thread agent).Ended) → ∀ input : ι → Input,
      ∃ agent, ¬ (system.thread agent).Ended ∧
        ∃ after, system.step (engine ι) ⟨agent, input agent, none⟩ = some after) ∧
    (Finite ι →
      Acc (fun after before => ∃ action, before.step (engine ι) action = some after) system ∧
      ∃ schedule after, (∀ action ∈ schedule, action.fault = none) ∧
        system.run (engine ι) schedule = some after ∧ ∀ agent, (after.thread agent).Ended) := by
  have underway : Underway system := reached.invariant Underway (.start world jobs)
    fun before _ stepped => before.step stepped
  refine ⟨underway.moves, fun finite => ⟨(wellFounded_steps _).apply system, ?_⟩⟩
  refine completes Underway (fun before _ stepped => before.step stepped)
    (fun inside running => ?_) underway
  obtain ⟨agent, -, after, stepped⟩ := inside.moves running fun _ => .plain 0 (.ofNat 0)
  exact ⟨_, after, rfl, stepped⟩

end Completion

namespace Sample

/-- The hold is released while another one of its tier is created. -/
def opposite : Fin 2 → Job
  | 0 => .request (.releaseHoldByToken (id 7).str)
  | 1 => .request (.createHold (id 6) (id 1).str 3)

/-- The release has locked the hold and is about to update the tier, which the
other client has locked. -/
def crossing : List (Action (Fin 2) Input CheckoutError) :=
  List.replicate 4 (act one (id 8)) ++ List.replicate 2 (act other (id 8))

end Sample

theorem checkout_completes_sample :
    ∃ system : System signature (Fin 2) (SharedWorld (Fin 2)) CheckoutError Unit,
      system.step (engine (Fin 2)) (Sample.act Sample.one (Sample.id 8)) = none ∧
      ∃ schedule after, (∀ action ∈ schedule, action.fault = none) ∧
        system.run (engine (Fin 2)) schedule = some after ∧
        ∀ agent, (after.thread agent).Ended := by
  have executed : ((System.start (.ofWorld Sample.world) fun agent =>
      (Sample.opposite agent).program).run (engine (Fin 2)) Sample.crossing).map
        (fun system => (system.step (engine (Fin 2)) (Sample.act Sample.one (Sample.id 8))).isNone)
      = some true := by
    decide +kernel
  obtain ⟨system, ran, waits⟩ := Option.map_eq_some_iff.mp executed
  exact ⟨system, Option.isNone_iff_eq_none.mp waits,
    ((checkout_completes Sample.world Sample.opposite (reaches_of_run ran)).2 inferInstance).2⟩

end Ticketing
