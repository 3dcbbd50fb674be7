import Ticketing.Checkout.Shared
import Ticketing.Checkout.Balance

/-!
# What the transactions of the checkout publish

Each function is followed once through its text, knowing only what its client
owns.  The result is the list of things a commit of that function can publish;
the modules about concurrent runs argue about these alone.

## Main Definitions

* `CreateCommit`, `ReleaseCommit`, `SweepCommit` — what a commit of each
  function can publish
* `contract` — the guarantees of a client, for a choice of such commits

## Main Results

* `createHold_safe`, `releaseHoldByToken_safe`, `sweepExpiredHolds_safe`
* `CreateCommit.change`, `ReleaseCommit.change`, `SweepCommit.change` — what these
  commits do to the committed rows
-/

namespace Ticketing

open Transactional VersionedTable

/-! ## Statements of a transaction -/

/-- What a statement means for one hold. -/
inductive HoldEffect
  /-- Its status is saved. -/
  | saved (token : Uuid)
  /-- Its quantity is subtracted from the counter of its tier. -/
  | returned (token : Uuid)
  deriving DecidableEq

def Stmt.holdEffect : Stmt → Option HoldEffect
  | .sql (.saveStatus token _) => some (.saved token)
  | .sql (.updateQuantityHeld _ (.minus _ token _)) => some (.returned token)
  | _ => none

/-- The effects of a list of statements, in their order. -/
def effects (events : List (Event signature)) : List HoldEffect :=
  events.filterMap (·.stmt.holdEffect)

/-- The abuse guard has let a hold of `user` on `event` pass. -/
def PassedGuard (user event : Uuid) (events : List (Event signature)) : Prop :=
  ∃ count : ℕ, (⟨.sql (.countActiveHolds user event), count⟩ : Event signature) ∈ events ∧
    count < maxHoldsPerUserPerEvent

/-- Nothing has been written to the tables. -/
structure Silent (events : List (Event signature)) (own : Own) : Prop where
  unwritten : own.Unwritten
  effects_eq : effects events = []

/-! ## What the commits can publish -/

/-- What a commit of `create_hold` can publish. -/
inductive CreateCommit (events : List (Event signature)) : Own → Prop
  | silent {own : Own} (silent : Silent events own) : CreateCommit events own
  | created {id token : Uuid} {tier : TicketTier} {hold : CheckoutHold}
      (tierEq : hold.tierId = id) (active : hold.status = .active)
      (fits : (hold.quantity : ℤ) ≤ tier.quantityAvailable)
      (guard : PassedGuard hold.user tier.event events)
      (inserted : ∃ quantity expiresAt,
        (⟨.sql (.insertHold token hold.user id quantity expiresAt), hold⟩ : Event signature)
          ∈ events)
      (effects_eq : effects events = []) :
      CreateCommit events
        ⟨single id
            ⟨some tier, some { tier with quantityHeld := tier.quantityHeld + hold.quantity }⟩,
          single token ⟨none, some hold⟩⟩

/-- What a commit of `release_hold_by_token` can publish.  The value it writes is
computed from `quantityHeld`, its copy of the counter. -/
inductive ReleaseCommit (finds : Finds) (events : List (Event signature)) : Own → Prop
  | silent {own : Own} (silent : Silent events own) : ReleaseCommit finds events own
  | released {token : Uuid} {hold : CheckoutHold} {tier : TicketTier} {quantityHeld : ℕ}
      (active : hold.status = .active)
      (nonneg : 0 ≤ (HeldExpr.minus quantityHeld token hold).value)
      (found : finds.tier hold.tierId (.minus quantityHeld token hold) (some tier))
      (effects_eq : effects events = [.saved token, .returned token]) :
      ReleaseCommit finds events
        ⟨single hold.tierId ⟨some tier, some { tier with
            quantityHeld := (HeldExpr.minus quantityHeld token hold).value.toNat }⟩,
          single token ⟨some hold, some { hold with status := .released }⟩⟩
  /-- The tier is gone when its counter is to be written. -/
  | orphaned {token : Uuid} {hold : CheckoutHold} {quantityHeld : ℕ}
      (active : hold.status = .active)
      (found : finds.tier hold.tierId (.minus quantityHeld token hold) none)
      (effects_eq : effects events = [.saved token, .returned token]) :
      ReleaseCommit finds events
        ⟨fun _ => none, single token ⟨some hold, some { hold with status := .released }⟩⟩

/-- What a commit of `sweep_expired_holds` can publish: every statement is one. -/
inductive SweepCommit (finds : Finds) (history events : List (Event signature)) : Own → Prop
  | silent {own : Own} (silent : Silent events own) : SweepCommit finds history events own
  | expired {token : Uuid} {hold : CheckoutHold}
      (found : finds.hold token .expired (some hold))
      (effects_eq : effects events = [.saved token]) :
      SweepCommit finds history events
        ⟨fun _ => none, single token ⟨some hold, some { hold with status := .expired }⟩⟩
  /-- The counter is written right after the status of the hold. -/
  | returned {own : Own} {token : Uuid} {before : List HoldEffect}
      (before_eq : effects history = before ++ [.saved token])
      (effects_eq : effects events = [.returned token])
      (holds : own.holds = fun _ => none) : SweepCommit finds history events own

/-- The guarantees of a client: the abuse guard counts before anything has been
written, every commit satisfies `post`, and `unfinished` holds of its durable
statements until it returns. -/
def contract (finds : Finds)
    (post : List (Event signature) → List (Event signature) → Own → Prop)
    (unfinished : List (Event signature) → Prop) : Contract signature Own where
  Local := Moves finds
  Pre _ stmt own := ∀ user event, stmt = .sql (.countActiveHolds user event) → own.Unwritten
  Post := post
  Unfinished := unfinished

/-- A client whose commits publish less keeps the contract. -/
theorem safe_of_post {α : Type} {finds : Finds} {unfinished : List (Event signature) → Prop}
    {post post' : List (Event signature) → List (Event signature) → Own → Prop}
    {program : Checkout α} {history : List (Event signature)}
    {transaction : Option (List (Event signature))} {own : Own}
    (safe : program.Safe .nothing (contract finds post unfinished) history transaction own)
    (weaker : ∀ history events own, post history events own → post' history events own) :
    program.Safe .nothing (contract finds post' unfinished) history transaction own := by
  refine safe.mono ?_ ?_ ?_ ?_
  · exact id
  · exact id
  · exact weaker _ _ _
  · exact id

theorem localAt_of_meets {ι α : Type} [DecidableEq ι] {finds : Finds}
    {post : List (Event signature) → List (Event signature) → Own → Prop}
    {unfinished : List (Event signature) → Prop}
    {system : System signature ι (SharedWorld ι) CheckoutError α}
    {action : Action ι Input CheckoutError} (meets : finds.Meets system action) :
    LocalAt (isolation ι) (contract finds post unfinished) system action :=
  fun unharmed next result => moves_of_exec result (meets unharmed _ next)

/-! ## The functions keep their contracts -/

section Safe

variable (finds : Finds) (unfinished : List (Event signature) → Prop)

/-- After the guards: the hold is inserted and its quantity added to the counter
of the row that is still locked. -/
theorem placeHold_safe {user id : Uuid} {tierId : String} {tier : TicketTier} {quantity : ℤ}
    {events : List (Event signature)} (initially : unfinished [])
    (fits : quantity ≤ tier.quantityAvailable) (guard : PassedGuard user tier.event events)
    (quiet : effects events = []) :
    (placeHold user tierId id tier quantity >>= fun value =>
        Program.commit (Program.done value)).Safe .nothing
      (contract finds (fun _ events own => CreateCommit events own) unfinished) [] (some events)
      ⟨single id ⟨some tier, none⟩, fun _ => none⟩ := by
  simp only [placeHold, now, uuid4, sql, redis, registerHold, pushHoldExpiry,
    invalidateAvailability, Program.send, Program.call_bind, Program.done_bind]
  refine ⟨initially, by rintro _ _ ⟨⟩, ?_⟩
  rintro readAt own rfl
  refine ⟨initially, by rintro _ _ ⟨⟩, ?_⟩
  rintro token own rfl
  refine ⟨initially, by rintro _ _ ⟨⟩, ?_⟩
  rintro hold own ⟨nonneg, rfl, rfl⟩
  refine ⟨initially, by rintro _ _ ⟨⟩, ?_⟩
  -- the row is the one that is locked, so the UPDATE finds it as it was read
  rintro answer own (⟨-, -, absent⟩ | ⟨row, locked, sees, current, -, -, rfl⟩)
  · cases absent _ (single_self ..)
  · obtain rfl := sees.eq (single_self ..)
    cases current
    refine ⟨initially, by rintro _ _ ⟨⟩, ?_⟩
    rintro registeredAt own rfl
    refine ⟨initially, by rintro _ _ ⟨⟩, ?_⟩
    rintro registered own rfl
    refine ⟨initially, by rintro _ _ ⟨⟩, ?_⟩
    rintro pushed own rfl
    refine ⟨initially, by rintro _ _ ⟨⟩, ?_⟩
    rintro invalidated own rfl
    have value : (HeldExpr.plus tier.quantityHeld quantity).value.toNat
        = tier.quantityHeld + quantity.toNat := by
      simp only [HeldExpr.value]
      omega
    obtain ⟨count, counted, belowCap⟩ := guard
    refine ⟨initially, ?_, trivial⟩
    simp only [value, update_single, update_none]
    have fitsHold : ((quantity.toNat : ℕ) : ℤ) ≤ tier.quantityAvailable := by
      rwa [Int.toNat_of_nonneg nonneg]
    refine @CreateCommit.created _ id token tier
      { user, tierId := id, quantity := quantity.toNat, expiresAt := readAt + holdDuration } rfl rfl
      fitsHold ⟨count, by simp [counted], belowCap⟩ ⟨quantity, readAt + holdDuration, by simp⟩ ?_
    simpa [effects, Stmt.holdEffect] using quiet

/-- **`create_hold` publishes one hold that passed both guards, or nothing.** -/
theorem createHold_safe (user : Uuid) (tierId : String) (quantity : ℤ) (initially : unfinished []) :
    (createHold user tierId quantity).Safe .nothing
      (contract finds (fun _ events own => CreateCommit events own) unfinished) [] none
      .nothing := by
  unfold createHold Program.atomic
  refine ⟨initially, ?_⟩
  cases Uuid.parse tierId with
  | none => exact initially
  | some id =>
      simp only [sql, Program.send, Program.call_bind, Program.done_bind]
      refine ⟨initially, nofun, fun answer own selecting => ?_⟩
      rcases selecting with ⟨rfl, rfl⟩ | ⟨tier, locked, rfl, sees, current, rfl⟩
      · exact initially
      · obtain rfl := sees.committed rfl current
        simp only [Program.call_bind]
        refine ⟨initially, fun _ _ _ => ?_, ?_⟩
        -- the count comes before any write: all there is is the lock on the tier
        · refine ⟨fun other found eq => ?_, nofun⟩
          obtain ⟨-, rfl⟩ := eq_of_single eq
          rfl
        · rintro (count : ℕ) own rfl
          beta_reduce
          by_cases atCap : count ≥ maxHoldsPerUserPerEvent
          · rw [if_pos atCap]
            exact initially
          · rw [if_neg atCap]
            by_cases short : tier.quantityAvailable < quantity
            · rw [if_pos short]
              exact initially
            · rw [if_neg short]
              refine placeHold_safe finds unfinished initially (le_of_not_gt short)
                ⟨count, by simp, lt_of_not_ge atCap⟩ rfl

theorem returnStock_safe {holdToken : String} {token : Uuid} {hold : CheckoutHold}
    {history events : List (Event signature)} (initially : unfinished history)
    (active : hold.status = .active) (quiet : effects events = []) :
    (returnStock holdToken token hold >>= fun value =>
        Program.commit (Program.done value)).Safe .nothing
      (contract finds (fun _ events own => ReleaseCommit finds events own) unfinished) history
      (some events) ⟨fun _ => none, single token ⟨some hold, none⟩⟩ := by
  simp only [returnStock, sql, redis, releaseHold, invalidateAvailability, Program.send,
    Program.call_bind, Program.done_bind]
  refine ⟨initially, by rintro _ _ ⟨⟩, ?_⟩
  rintro saved own ⟨row, locked, sees, current, -, rfl⟩
  obtain rfl := sees.eq (single_self ..)
  cases current
  refine ⟨initially, by rintro _ _ ⟨⟩, ?_⟩
  rintro answer own rfl
  cases answer with
  | none => exact initially
  | some copy =>
      simp only [Program.call_bind, Program.done_bind]
      refine ⟨initially, by rintro _ _ ⟨⟩, ?_⟩
      -- the tier has not been locked: it may have changed, or gone, since it was read
      rintro updated own (⟨rfl, found, -⟩ | ⟨tier, locked, sees, current, nonneg, found, rfl⟩)
      · refine ⟨initially, by rintro _ _ ⟨⟩, ?_⟩
        rintro dropped own rfl
        refine ⟨initially, by rintro _ _ ⟨⟩, ?_⟩
        rintro invalidated own rfl
        refine ⟨initially, ?_, trivial⟩
        simp only [update_single]
        refine .orphaned active found ?_
        simpa [effects, Stmt.holdEffect] using quiet
      · obtain rfl := sees.committed rfl current
        refine ⟨initially, by rintro _ _ ⟨⟩, ?_⟩
        rintro dropped own rfl
        refine ⟨initially, by rintro _ _ ⟨⟩, ?_⟩
        rintro invalidated own rfl
        refine ⟨initially, ?_, trivial⟩
        simp only [update_single, update_none]
        refine .released active nonneg found ?_
        simpa [effects, Stmt.holdEffect] using quiet

/-- **`release_hold_by_token` publishes the end of one ACTIVE hold and one counter,
or nothing.** -/
theorem releaseHoldByToken_safe (holdToken : String) {history : List (Event signature)}
    (initially : unfinished history) :
    (releaseHoldByToken holdToken).Safe .nothing
      (contract finds (fun _ events own => ReleaseCommit finds events own) unfinished) history none
      .nothing := by
  unfold releaseHoldByToken Program.atomic
  refine ⟨initially, ?_⟩
  cases Uuid.parse holdToken with
  | none => exact initially
  | some token =>
      simp only [sql, Program.send, Program.call_bind, Program.done_bind]
      refine ⟨initially, nofun, fun answer own selecting => ?_⟩
      rcases selecting with ⟨rfl, rfl⟩ | ⟨hold, locked, rfl, active, sees, current, rfl⟩
      · exact ⟨initially, .silent ⟨Own.nothing_unwritten, rfl⟩, trivial⟩
      · obtain rfl := sees.committed rfl current
        exact returnStock_safe finds unfinished initially active rfl

variable (always : ∀ history, unfinished history)
include always

/-- `release_hold_on_payment_timeout` publishes what `release_hold_by_token` does. -/
theorem releaseHoldOnPaymentTimeout_safe (holdToken : String) :
    (releaseHoldOnPaymentTimeout holdToken).Safe .nothing
      (contract finds (fun _ events own => ReleaseCommit finds events own) unfinished) [] none
      .nothing := by
  unfold releaseHoldOnPaymentTimeout
  cases Uuid.parse holdToken with
  | none => exact always _
  | some token =>
      simp only [sql, now, Program.send, Program.call_bind, Program.done_bind]
      refine ⟨always _, nofun, ?_⟩
      rintro (answer : Option CheckoutHold) own rfl
      refine ⟨.silent ⟨Own.nothing_unwritten, rfl⟩, ?_⟩
      cases answer with
      | none => trivial
      | some hold =>
          beta_reduce
          simp only
          split
          · refine ⟨always _, nofun, ?_⟩
            rintro (readAt : Time) own rfl
            refine ⟨.silent ⟨Own.nothing_unwritten, rfl⟩, ?_⟩
            beta_reduce
            split
            · exact releaseHoldByToken_safe finds unfinished holdToken (always _)
            · trivial
          · trivial

theorem sweepLoop_safe (rows : List SweepRow) (expiredCount : ℕ)
    (history : List (Event signature)) :
    (sweepLoop rows expiredCount).Safe .nothing (contract finds (SweepCommit finds) unfinished)
      history none .nothing := by
  induction rows generalizing expiredCount history with
  | nil => trivial
  | cons row rest ih =>
      obtain ⟨token, hold, tier⟩ := row
      simp only [sweepLoop, sql, redis, releaseHold, invalidateAvailability, Program.send,
        Program.call_bind, Program.done_bind]
      refine ⟨always _, nofun, ?_⟩
      rintro saved own ⟨row, locked, sees, current, found, rfl⟩
      obtain rfl := sees.committed rfl current
      refine ⟨.expired found rfl, always _, nofun, ?_⟩
      rintro updated own moved
      have holds : own.holds = fun _ => none := by
        rcases moved with ⟨rfl, -, -⟩ | ⟨tier, locked, -, -, -, -, rfl⟩ <;> rfl
      refine ⟨.returned (List.filterMap_append ..) rfl holds, always _, nofun, ?_⟩
      rintro dropped own rfl
      refine ⟨.silent ⟨Own.nothing_unwritten, rfl⟩, always _, nofun, ?_⟩
      rintro invalidated own rfl
      exact ⟨.silent ⟨Own.nothing_unwritten, rfl⟩, ih _ _⟩

/-- **`sweep_expired_holds` publishes one status or, right after it, one counter.** -/
theorem sweepExpiredHolds_safe :
    sweepExpiredHolds.Safe .nothing (contract finds (SweepCommit finds) unfinished) [] none
      .nothing := by
  simp only [sweepExpiredHolds, popExpiredHolds, now, redis, sql, Program.send, Program.call_bind,
    Program.done_bind]
  refine ⟨always _, nofun, ?_⟩
  rintro readAt own rfl
  refine ⟨.silent ⟨Own.nothing_unwritten, rfl⟩, always _, nofun, ?_⟩
  rintro (expiredTokens : List String) own rfl
  refine ⟨.silent ⟨Own.nothing_unwritten, rfl⟩, ?_⟩
  beta_reduce
  by_cases empty : expiredTokens = []
  · rw [if_pos empty]
    trivial
  · rw [if_neg empty]
    cases expiredTokens.mapM Uuid.parse with
    | none => exact always _
    | some tokens =>
        refine ⟨always _, nofun, ?_⟩
        rintro rows own rfl
        exact ⟨.silent ⟨Own.nothing_unwritten, rfl⟩, sweepLoop_safe finds unfinished always _ _ _⟩

end Safe

/-! ## What a commit does to the committed rows -/

/-- What a commit of `create_hold` does to the database. -/
inductive CreateChange (events : List (Event signature)) (db : Database) : Database → Prop
  | unchanged : CreateChange events db db
  | placed {token : Uuid} {tier : TicketTier} {hold : CheckoutHold}
      (present : db.tiers.get hold.tierId = some tier) (absent : db.holds.get token = none)
      (active : hold.status = .active) (fits : (hold.quantity : ℤ) ≤ tier.quantityAvailable)
      (guard : PassedGuard hold.user tier.event events)
      (inserted : ∃ quantity expiresAt,
        (⟨.sql (.insertHold token hold.user hold.tierId quantity expiresAt), hold⟩ :
          Event signature) ∈ events) :
      CreateChange events db (db.place hold.tierId tier token hold)

/-- What a commit of `release_hold_by_token` does to the database. -/
inductive ReleaseChange (finds : Finds) (events : List (Event signature)) (db : Database) :
    Database → Prop
  | unchanged (effects_eq : effects events = []) : ReleaseChange finds events db db
  | released {token : Uuid} {hold : CheckoutHold} {tier : TicketTier} {quantityHeld : ℕ}
      (stored : db.holds.get token = some hold) (active : hold.status = .active)
      (present : db.tiers.get hold.tierId = some tier)
      (nonneg : 0 ≤ (HeldExpr.minus quantityHeld token hold).value)
      (found : finds.tier hold.tierId (.minus quantityHeld token hold) (some tier))
      (effects_eq : effects events = [.saved token, .returned token]) :
      ReleaseChange finds events db (db.giveBack tier
        (HeldExpr.minus quantityHeld token hold).value.toNat token hold .released)
  | orphaned {token : Uuid} {hold : CheckoutHold} {quantityHeld : ℕ}
      (stored : db.holds.get token = some hold) (active : hold.status = .active)
      (found : finds.tier hold.tierId (.minus quantityHeld token hold) none)
      (effects_eq : effects events = [.saved token, .returned token]) :
      ReleaseChange finds events db
        { db with holds := db.holds.set token { hold with status := .released } }

/-- What a commit of `sweep_expired_holds` does to the database. -/
inductive SweepChange (finds : Finds) (history events : List (Event signature)) (db : Database) :
    Database → Prop
  | unchanged (effects_eq : effects events = []) : SweepChange finds history events db db
  | expired {token : Uuid} {hold : CheckoutHold} (stored : db.holds.get token = some hold)
      (found : finds.hold token .expired (some hold))
      (effects_eq : effects events = [.saved token]) :
      SweepChange finds history events db
        { db with holds := db.holds.set token { hold with status := .expired } }
  | returned {db' : Database} {token : Uuid} {before : List HoldEffect}
      (before_eq : effects history = before ++ [.saved token])
      (effects_eq : effects events = [.returned token])
      (holds : db'.holds = db.holds) : SweepChange finds history events db db'

section Commit

variable {ι : Type} [DecidableEq ι] {agent : ι} {world : SharedWorld ι}

/-- Committing nothing but locks changes nothing. -/
theorem SharedWorld.db_commit_of_unwritten (unwritten : (world.own agent).Unwritten) :
    (world.commit agent).db = world.db := by
  simp only [commit, db, committed_commit_of_unwritten unwritten.tiers,
    committed_commit_of_unwritten unwritten.holds]

/-- Committing one written hold stores it. -/
theorem SharedWorld.db_commit_of_hold {token : Uuid} {hold version : CheckoutHold}
    (owns : world.own agent = ⟨fun _ => none, single token ⟨some hold, some version⟩⟩) :
    world.db.holds.get token = some hold ∧
      (world.commit agent).db = { world.db with holds := world.db.holds.set token version } := by
  have holdsOwn := congrArg Own.holds owns
  have unwritten : ∀ id locked, VersionedTable.own agent world.tiers id = some locked →
      locked.written = none := by
    intro id locked held
    exact absurd ((congrFun (congrArg Own.tiers owns) id).symm.trans held) nofun
  refine ⟨get_committed_of_own ((congrFun holdsOwn _).trans (single_self ..)), ?_⟩
  simp only [commit, db, committed_commit_of_unwritten unwritten,
    committed_commit_of_single holdsOwn]

theorem CreateCommit.change {events : List (Event signature)}
    (commit : CreateCommit events (world.own agent)) :
    CreateChange events world.db (world.commit agent).db := by
  generalize owns : world.own agent = own at commit
  cases commit with
  | silent silent =>
      rw [SharedWorld.db_commit_of_unwritten (owns ▸ silent.unwritten)]
      exact .unchanged
  | @created id token tier hold tierEq active fits guard inserted =>
      subst tierEq
      have tiersOwn := congrArg Own.tiers owns
      have holdsOwn := congrArg Own.holds owns
      have present : world.db.tiers.get hold.tierId = some tier :=
        get_committed_of_own ((congrFun tiersOwn _).trans (single_self ..))
      have absent : world.db.holds.get token = none :=
        get_committed_of_own ((congrFun holdsOwn _).trans (single_self ..))
      have after : (world.commit agent).db = world.db.place hold.tierId tier token hold := by
        simp only [SharedWorld.commit, SharedWorld.db, Database.place,
          committed_commit_of_single tiersOwn, committed_commit_of_single holdsOwn]
      rw [after]
      exact .placed present absent active fits guard inserted

theorem ReleaseCommit.change {finds : Finds} {events : List (Event signature)}
    (commit : ReleaseCommit finds events (world.own agent)) :
    ReleaseChange finds events world.db (world.commit agent).db := by
  generalize owns : world.own agent = own at commit
  cases commit with
  | silent silent =>
      rw [SharedWorld.db_commit_of_unwritten (owns ▸ silent.unwritten)]
      exact .unchanged silent.effects_eq
  | @released token hold tier quantityHeld active nonneg found effects_eq =>
      have tiersOwn := congrArg Own.tiers owns
      have holdsOwn := congrArg Own.holds owns
      have present : world.db.tiers.get hold.tierId = some tier :=
        get_committed_of_own ((congrFun tiersOwn _).trans (single_self ..))
      have stored : world.db.holds.get token = some hold :=
        get_committed_of_own ((congrFun holdsOwn _).trans (single_self ..))
      have after : (world.commit agent).db = world.db.giveBack tier
          (HeldExpr.minus quantityHeld token hold).value.toNat token hold .released := by
        simp only [SharedWorld.commit, SharedWorld.db, Database.giveBack,
          committed_commit_of_single tiersOwn, committed_commit_of_single holdsOwn]
      rw [after]
      exact .released stored active present nonneg found effects_eq
  | @orphaned token hold quantityHeld active found effects_eq =>
      have after := SharedWorld.db_commit_of_hold owns
      rw [after.2]
      exact .orphaned after.1 active found effects_eq

theorem CreateCommit.effects_eq {events : List (Event signature)} {own : Own}
    (commit : CreateCommit events own) : effects events = [] := by
  cases commit with
  | silent silent => exact silent.effects_eq
  | created tierEq active fits guard inserted quiet => exact quiet

theorem SweepCommit.change {finds : Finds} {history events : List (Event signature)}
    (commit : SweepCommit finds history events (world.own agent)) :
    SweepChange finds history events world.db (world.commit agent).db := by
  generalize owns : world.own agent = own at commit
  cases commit with
  | silent silent =>
      rw [SharedWorld.db_commit_of_unwritten (owns ▸ silent.unwritten)]
      exact .unchanged silent.effects_eq
  | expired found effects_eq =>
      have after := SharedWorld.db_commit_of_hold owns
      rw [after.2]
      exact .expired after.1 found effects_eq
  | returned before_eq effects_eq holds =>
      refine .returned before_eq effects_eq (committed_commit_of_unwritten ?_)
      intro token locked held
      exact absurd ((congrFun ((congrArg Own.holds owns).trans holds) token).symm.trans held) nofun

variable {α : Type} {finds : Finds}
variable {post : List (Event signature) → List (Event signature) → Own → Prop}
variable {unfinished : List (Event signature) → Prop}
variable {system system' : System signature ι (SharedWorld ι) CheckoutError α}
variable {action : Action ι Input CheckoutError}

/-- A step leaves the committed rows and the log alone, or commits something `post` allows. -/
theorem commits_of_step (step : Step (engine ι) system action system')
    (safe : AllSafe (isolation ι) (contract finds post unfinished) system)
    (meets : finds.Meets system action) :
    (system'.world.db = system.world.db ∧ system'.log = system.log) ∨
      ∃ (events : List (Event signature)) (world : SharedWorld ι),
        post (durable action.agent system.log) events (world.own action.agent) ∧
        world.db = system.world.db ∧ system'.world = world.commit action.agent ∧
        system'.log = system.log ++ events.map (action.agent, ·) := by
  rcases step.publishes safe (localAt_of_meets meets) with
    same | ⟨events, world, holds, sharedEq, -, worldEq, logEq⟩
  · exact .inl same
  · exact .inr ⟨events, world, holds, sharedEq, worldEq, logEq⟩

/-- Clients about to start on a world nobody is working on. -/
theorem allSafe_start {world : World} {program : ι → Checkout α}
    (safe : ∀ agent, (program agent).Safe .nothing (contract finds post unfinished) [] none
      .nothing) :
    AllSafe (isolation ι) (contract finds post unfinished)
      (System.start (.ofWorld world) program) :=
  .start (fun agent => SharedWorld.own_ofWorld agent world) safe

end Commit

end Ticketing
