import Ticketing.Checkout.LockOrder
import Ticketing.Checkout.Conservation
import Ticketing.Transactional.Serializable

/-!
# Requests for one tier are serializable

`create_hold` locks its tier before it looks at anything, and keeps the lock until it
commits or rolls back.  Requests for one tier therefore run one after another, whatever the
interleaving of their statements: the tables, the registry, the queue and the cache are what
a serial run leaves, and every caller gets the answer that the serial run gives it, or the
exception from outside that has cut its call off.

## Main Definitions

* `tierLock` — the row lock of one tier, as a common lock

## Main Results

* `createHold_guards` — `create_hold` takes the lock first
* `hot_tier_serializable` — any interleaving is a serial run

## Design Notes

The abuse guard counts holds on all tiers of the event without locking them.  Requests for
two tiers of one event are not serializable for that reason.
-/

namespace Ticketing

open Transactional VersionedTable

/-! ## The lock -/

section TierLock

variable {ι : Type} [DecidableEq ι] {agent other : ι} {input : Input}
variable {world world' : SharedWorld ι} {value : World}

/-- Nobody has any lock, and the stores are `value`. -/
structure Settled (world : SharedWorld ι) (value : World) : Prop where
  nobody : ∀ agent, SharedWorld.own agent world = .nothing
  db : world.db = value.db
  redis : world.redis = value.redis

/-- Nobody but `agent` has any lock, and the committed rows are those of `saved`. -/
structure Alone (agent : ι) (saved : World) (world : SharedWorld ι) : Prop where
  others : ∀ other, other ≠ agent → SharedWorld.own other world = .nothing
  db : world.db = saved.db

/-- `agent` has locked the row of the tier. -/
def HoldsTier (id : Uuid) (agent : ι) (world : SharedWorld ι) : Prop :=
  ∃ tier written, (SharedWorld.own agent world).tiers id = some ⟨some tier, written⟩

/-- The statement asks for the lock of the tier. -/
def AsksFor (id : Uuid) (stmt : Stmt) : Prop := stmt = .sql (.selectTierForUpdate id)

/-- The tier does not exist. -/
def NoTier : (stmt : Stmt) → stmt.Res → Prop
  | .sql (.selectTierForUpdate _), answer => answer = none
  | _, _ => False

theorem Settled.view (settled : Settled world value) (agent : ι) : world.view agent = value := by
  have db : (world.view agent).db = value.db := by
    rw [SharedWorld.view_of_unwritten (settled.nobody agent ▸ Own.nothing_unwritten)]
    exact settled.db
  obtain ⟨db', redis'⟩ := value
  exact congrArg₂ World.mk db settled.redis

/-- A client keeps the lock of a tier as long as it executes statements. -/
theorem HoldsTier.exec {id : Uuid} (holds : HoldsTier id agent world) {stmt : Stmt}
    {answer : stmt.Res} (result : world.exec agent input stmt = some (.ok (answer, world'))) :
    HoldsTier id agent world' := by
  obtain ⟨tier, written, locked⟩ := holds
  cases SharedWorld.touches_of_exec result with
  | redis redis => exact ⟨tier, written, locked⟩
  | hold granted => exact ⟨tier, written, locked⟩
  | @tier touched version tiers granted =>
      unfold HoldsTier
      simp only [SharedWorld.own, own_put_self granted]
      by_cases same : id = touched
      · subst same
        rw [Function.update_self, show world.tiers.committed.get id = some tier from
          get_committed_of_own locked]
        exact ⟨tier, version, rfl⟩
      · rw [Function.update_of_ne same]
        exact ⟨tier, written, locked⟩

/-- Nobody else gets the lock. -/
theorem HoldsTier.waits {id : Uuid} (holds : HoldsTier id agent world) (different : other ≠ agent) :
    world.exec other input (.sql (.selectTierForUpdate id)) = none := by
  obtain ⟨tier, written, locked⟩ := holds
  have waiting : world.tiers.lockWhere other id (fun _ => true) = none :=
    lockWhere_eq_none locked different
  change Option.map _ _ = none
  rw [waiting]
  rfl

/-- Asking for the lock while nobody has one gives the lock, unless there is no such tier. -/
theorem Settled.takes {id : Uuid} {found : Option TicketTier} (settled : Settled world value)
    (result :
      world.exec agent input (.sql (.selectTierForUpdate id)) = some (.ok (found, world'))) :
    HoldsTier id agent world' ∨ world' = world ∧ found = none := by
  have executed :
      world.execSql agent input (.selectTierForUpdate id) = some (.ok (found, world')) := result
  cases executed_of_execSql executed with
  | selectTierForUpdate locking =>
      rcases lockWhere_eq_some locking with
        ⟨rfl, rfl⟩ | ⟨tier, locked, rfl, -, current, shows, granted⟩
      · exact .inr ⟨rfl, rfl⟩
      · have unlocked : own agent world.tiers id = none :=
          congrFun (congrArg Own.tiers (settled.nobody agent)) id
        obtain rfl := (Sees.of_shows shows).committed unlocked current
        refine .inl ⟨tier, none, ?_⟩
        simp only [SharedWorld.own, own_put_self granted, ← shows.1, Function.update_self]

/-- The row lock of a tier lets one client work at a time. -/
def tierLock (ι : Type) [DecidableEq ι] (id : Uuid) : CommonLock (engine ι) store where
  toViewed := viewed ι
  Settled := Settled
  Working := Alone
  Holds := HoldsTier id
  Takes := AsksFor id
  Misses := NoTier
  rollback_self _ := rfl
  view_of_settled agent settled := settled.view agent
  working _ settled := ⟨fun other _ => settled.nobody other, settled.db⟩
  working_exec alone result :=
    have touches := SharedWorld.touches_of_exec result
    ⟨fun other different => (touches.own_of_ne different).trans (alone.others other different),
      touches.db_eq.trans alone.db⟩
  holds_exec holds result := holds.exec result
  settled_commit := by
    intro agent saved world alone
    refine ⟨fun other => ?_, SharedWorld.db_commit agent world, rfl⟩
    by_cases same : other = agent
    · subst same
      exact (isolation ι).own_commit_self other world
    · exact ((isolation ι).own_commit_of_ne world same).trans (alone.others other same)
  settled_rollback := by
    intro agent saved world alone
    refine ⟨fun other => ?_, ((isolation ι).shared_rollback agent world).trans alone.db, rfl⟩
    by_cases same : other = agent
    · subst same
      exact (isolation ι).own_rollback_self other world
    · exact ((isolation ι).own_rollback_of_ne world same).trans (alone.others other same)
  rollback_settled agent settled := SharedWorld.rollback_of_nothing (settled.nobody agent)
  rollback_of_ne alone different := SharedWorld.rollback_of_nothing (alone.others _ different)
  takes := by
    rintro agent value input stmt answer world world' rfl settled result
    exact @Settled.takes ι _ agent input world world' value id answer settled result
  waits := by
    rintro agent other input stmt world rfl holds different
    exact @HoldsTier.waits ι _ agent other input world id holds different

end TierLock

/-! ## The requests -/

theorem placeHold_closes (user : Uuid) (tierId : String) (id : Uuid) (tier : TicketTier)
    (quantity : ℤ) : (placeHold user tierId id tier quantity >>= fun value =>
      Program.commit (Program.done value)).Closes := by
  intro readAt token hold updated registeredAt registered pushed invalidated
  exact ⟨_, rfl⟩

/-- **`create_hold` takes the lock of its tier first.** -/
theorem createHold_guards {ι : Type} [DecidableEq ι] {user id : Uuid} {tierId : String}
    (named : Uuid.parse tierId = some id) (quantity : ℤ) :
    (tierLock ι id).Guards (createHold user tierId quantity) := by
  unfold createHold Program.atomic
  rw [named]
  refine ⟨_, _, rfl, rfl, fun found => ?_, ?_⟩
  · cases found with
    | none => trivial
    | some tier =>
        intro count
        change Program.Closes
          (bind (if count ≥ maxHoldsPerUserPerEvent then _ else _ : Checkout _) _)
        split
        · trivial
        · split
          · trivial
          · exact placeHold_closes user tierId id tier quantity
  · rintro found rfl
    exact ⟨_, rfl⟩

/-! ## Runs -/

section Runs

variable {ι : Type} [DecidableEq ι]
variable {system system' : System signature ι (SharedWorld ι) CheckoutError (Uuid × CheckoutHold)}

/-- What is over in the system are these calls, with these outcomes, where `cut` says which
exceptions from outside may have hit whom; the committed rows are those of `value`, and while
nobody has a lock so is Redis. -/
structure Reflects (cut : ι → CheckoutError → Prop)
    (system : System signature ι (SharedWorld ι) CheckoutError (Uuid × CheckoutHold))
    (ended : List (ι × Outcome CheckoutError (Uuid × CheckoutHold))) (value : World) : Prop where
  nodup : (ended.map Prod.fst).Nodup
  complete : ∀ agent, (system.thread agent).Ended → agent ∈ ended.map Prod.fst
  shown : ∀ agent outcome, (agent, outcome) ∈ ended →
    EndsAs (cut agent) (system.thread agent).program outcome
  db : system.world.db = value.db
  redis : (∀ agent, SharedWorld.own agent system.world = .nothing) →
    system.world.redis = value.redis

theorem Serializes.reflects {id : Uuid} {program : ι → Checkout (Uuid × CheckoutHold)}
    {cut : ι → CheckoutError → Prop} {start value : World}
    {ended : List (ι × Outcome CheckoutError (Uuid × CheckoutHold))}
    {inside : Option ι} (guards : ∀ agent, (tierLock ι id).Guards (program agent))
    (serializes : Serializes (tierLock ι id) program cut start ended value inside system) :
    Reflects cut system ended value := by
  refine ⟨serializes.nodup, fun agent => serializes.complete (guards agent), serializes.shown, ?_,
    fun nobody => ?_⟩
  · have stage := serializes.stage
    cases inside with
    | none => exact stage.db
    | some agent => exact stage.working.db
  · have stage := serializes.stage
    cases inside with
    | none => exact stage.redis
    | some agent =>
        obtain ⟨tier, written, locked⟩ := stage.holds
        rw [nobody agent] at locked
        cases locked

/-- **Requests for one tier are serializable.**  In any interleaving of calls of `create_hold`
that name one tier, in whatever spelling, where `cut` says which exceptions from outside may
hit whom, the calls that are over form a serial run of the same calls: the rows are those of
the serial run, and so is Redis while nobody has a lock; a call that no exception from
outside has hit ends as it does in the serial run, with its hold or with the exception it
raises there, and one that has been hit may have been interrupted there instead.  Later
moments add calls at the end: the order is that of the ends of the calls. -/
theorem hot_tier_serializable (id : Uuid) (world : World) (requests : ι → HoldRequest)
    (cut : ι → CheckoutError → Prop)
    (oneTier : ∀ agent, Uuid.parse (requests agent).tierId = some id)
    (reached : Reaches (engine ι)
      (fun _ action => ∀ error, action.fault = some error → cut action.agent error)
      (.start (.ofWorld world) fun agent => (requests agent).program) system)
    (later : Reaches (engine ι)
      (fun _ action => ∀ error, action.fault = some error → cut action.agent error)
      system system') :
    ∃ ended value more value',
      SerialRun store (fun agent => (requests agent).program) cut world ended value ∧
      Reflects cut system ended value ∧
      SerialRun store (fun agent => (requests agent).program) cut world (ended ++ more) value' ∧
      Reflects cut system' (ended ++ more) value' := by
  have guards (agent : ι) : (tierLock ι id).Guards (requests agent).program :=
    createHold_guards (oneTier agent) _
  have settled : (tierLock ι id).Settled (.ofWorld world) world :=
    ⟨fun agent => SharedWorld.own_ofWorld agent world, SharedWorld.db_ofWorld world, rfl⟩
  obtain ⟨ended, value, inside, before, more, value', inside', after⟩ :=
    (tierLock ι id).serializes guards settled reached later
  exact ⟨ended, value, more, value', before.serial, Serializes.reflects guards before,
    after.serial, Serializes.reflects guards after⟩

end Runs

namespace Sample

/-- Two users ask for the same tier, in two spellings. -/
def hotTier : Bool → HoldRequest
  | false => ⟨id 5, (id 1).str, 6⟩
  | true => ⟨id 6, "00000000000000000000000000000001", 2⟩

/-- The second starts while the first has the tier locked. -/
def rush : List (Action Bool Input CheckoutError) :=
  List.replicate 2 (act false (id 8)) ++ [act true (id 9)] ++
    List.replicate 10 (act false (id 8)) ++ List.replicate 11 (act true (id 9))

end Sample

/-- No exception from outside hits the two: both get what the serial run gives them. -/
theorem hot_tier_serializable_sample :
    ∃ ended value, SerialRun store (fun agent => (Sample.hotTier agent).program)
        (fun _ _ => False) Sample.world ended value ∧
      (∀ agent, ∃ hold, (agent, .returned hold) ∈ ended) ∧
      value.db.tiers.get (Sample.id 1)
        = some { event := Sample.id 0, quantityTotal := 10, quantityHeld := 10 } := by
  have executed : ((System.start (.ofWorld Sample.world) fun agent =>
      (Sample.hotTier agent).program).runWhile (engine Bool) (fun _ action => action.fault.isNone)
        Sample.rush).map (fun system => (system.world.db.tiers.get (Sample.id 1),
          (system.thread false).program.result.isSome, (system.thread true).program.result.isSome))
      = some (some { event := Sample.id 0, quantityTotal := 10, quantityHeld := 10 },
          true, true) := by
    decide +kernel
  obtain ⟨system, ran, seen⟩ := Option.map_eq_some_iff.mp executed
  simp only [Prod.mk.injEq] at seen
  have reached := reaches_of_unharmed ran fun _ _ => False
  have oneTier (agent : Bool) : Uuid.parse (Sample.hotTier agent).tierId = some (Sample.id 1) := by
    cases agent <;> decide +kernel
  obtain ⟨ended, value, -, -, serial, reflects, -⟩ := hot_tier_serializable (Sample.id 1)
    Sample.world Sample.hotTier (fun _ _ => False) oneTier reached .refl
  refine ⟨ended, value, serial, fun agent => ?_, reflects.db ▸ seen.1⟩
  have returned : (system.thread agent).program.result.isSome = true := by
    cases agent
    · exact seen.2.1
    · exact seen.2.2
  cases left : (system.thread agent).program with
  | done hold =>
      obtain ⟨⟨other, outcome⟩, found, same⟩ := List.mem_map.mp
        (reflects.complete agent (.inl ⟨hold, left⟩))
      obtain rfl : other = agent := same
      have shown := reflects.shown _ _ found
      rw [left] at shown
      cases shown
      exact ⟨hold, found⟩
  | _ => rw [left] at returned; cases returned

end Ticketing
