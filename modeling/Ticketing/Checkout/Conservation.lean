import Ticketing.Checkout.Transactions
import Ticketing.Checkout.Serial

/-!
# Counters in concurrent runs

Whether `quantity_held` stays the sum over the holds when any number of
transactions run statement by statement.

## Main Results

* `create_holds_conserve` — `create_hold` transactions alone, in any
  interleaving and with exceptions anywhere, never oversell a tier
* `fresh_updates_conserve` — with releases among them the counters still agree
  when every release writes over the counter it has read
* `lost_update` — a run in which one does not

## Design Notes

The tier lock of `create_hold` is what makes its copy of the counter current: the
copy is the committed row that its client still owns when it commits.  A release
reads its copy without a lock, so the same has to be asked of the run.
-/

namespace Ticketing

open Transactional

variable {ι : Type} [DecidableEq ι]

/-! ## Only create_hold -/

/-- One request for a hold. -/
structure HoldRequest where
  user : Uuid
  tierId : String
  quantity : ℤ

/-- The program of a request. -/
def HoldRequest.program (request : HoldRequest) : Checkout (Uuid × CheckoutHold) :=
  createHold request.user request.tierId request.quantity

/-- A durable statement of the run has inserted the hold. -/
def InsertedBy (agent : ι) (token : Uuid) (hold : CheckoutHold)
    (log : List (ι × Event signature)) : Prop :=
  ∃ quantity expiresAt,
    (agent, ⟨.sql (.insertHold token hold.user hold.tierId quantity expiresAt), hold⟩) ∈ log

omit [DecidableEq ι] in
theorem InsertedBy.append {agent : ι} {token : Uuid} {hold : CheckoutHold}
    {log : List (ι × Event signature)} (inserted : InsertedBy agent token hold log)
    (more : List (ι × Event signature)) : InsertedBy agent token hold (log ++ more) := by
  obtain ⟨quantity, expiresAt, found⟩ := inserted
  exact ⟨quantity, expiresAt, List.mem_append_left _ found⟩

/-- What every state of a run of `create_hold` transactions satisfies for a tier:
the counter is the sum over its counted holds, the tier is not oversold, and
every hold was there at the start or has been inserted durably. -/
structure CreateInvariant (counted : HoldStatus → Bool) (id : Uuid) (start : Database)
    (db : Database) (log : List (ι × Event signature)) : Prop where
  heldMatches : db.HeldMatches counted id
  withinCapacity : db.WithinCapacity id
  origin : ∀ token hold, db.holds.get token = some hold →
    start.holds.get token = some hold ∨ ∃ agent, InsertedBy agent token hold log

omit [DecidableEq ι] in
/-- One commit of `create_hold` preserves the invariant. -/
theorem CreateInvariant.change {counted : HoldStatus → Bool} (counts : counted .active = true)
    {id : Uuid} {start db db' : Database} {log : List (ι × Event signature)} {agent : ι}
    {events : List (Event signature)} (invariant : CreateInvariant counted id start db log)
    (change : CreateChange events db db') :
    CreateInvariant counted id start db' (log ++ events.map (agent, ·)) := by
  have origin : ∀ token hold, db.holds.get token = some hold →
      start.holds.get token = some hold ∨
        ∃ agent', InsertedBy agent' token hold (log ++ events.map (agent, ·)) := by
    intro token hold stored
    rcases invariant.origin token hold stored with old | ⟨other, inserted⟩
    · exact .inl old
    · exact .inr ⟨other, inserted.append _⟩
  cases change with
  | unchanged => exact ⟨invariant.heldMatches, invariant.withinCapacity, origin⟩
  | @placed token tier hold present absent active fits guard inserted =>
      refine ⟨invariant.heldMatches.place present absent rfl (active ▸ counts),
        invariant.withinCapacity.place present fits, fun other found stored => ?_⟩
      simp only [Database.place, Table.get_set] at stored
      split at stored
      · rename_i same
        subst same
        cases stored
        obtain ⟨quantity, expiresAt, event⟩ := inserted
        exact .inr ⟨agent, quantity, expiresAt,
          List.mem_append_right _ (List.mem_map_of_mem event)⟩
      · exact origin other found stored

/-- **No oversell.**  In every state that any number of `create_hold` transactions
reach, in any interleaving and with exceptions at any point, the counter of a
tier is the sum of quantity over its holds and the tier is not oversold, if this
was so at the start.  A client that ended in an exception has made nothing
durable, and every new hold was inserted by a client that has returned. -/
theorem create_holds_conserve (counted : HoldStatus → Bool) (counts : counted .active = true)
    (id : Uuid) (world : World) (requests : ι → HoldRequest)
    (agrees : ∀ tier, world.db.tiers.get id = some tier →
      tier.quantityHeld = world.db.quantitySum counted id)
    (capacity : ∀ tier, world.db.tiers.get id = some tier →
      world.db.quantitySum counted id + tier.quantitySold ≤ tier.quantityTotal)
    {system : System signature ι (SharedWorld ι) CheckoutError (Uuid × CheckoutHold)}
    (reached : Reaches (engine ι) Unrestricted
      (System.start (.ofWorld world) fun agent => (requests agent).program) system) :
    (∀ tier, system.world.db.tiers.get id = some tier →
      tier.quantityHeld = system.world.db.quantitySum counted id ∧
        system.world.db.quantitySum counted id + tier.quantitySold ≤ tier.quantityTotal) ∧
    (∀ agent error, (system.thread agent).program = .raise error →
      durable agent system.log = []) ∧
    ∀ token hold, system.world.db.holds.get token = some hold →
      world.db.holds.get token = some hold ∨
        ∃ agent value, (system.thread agent).program = .done value ∧
          InsertedBy agent token hold system.log := by
  have start : CreateInvariant counted id world.db (SharedWorld.ofWorld world : SharedWorld ι).db
      ([] : List (ι × Event signature)) := by
    rw [SharedWorld.db_ofWorld]
    exact ⟨agrees, fun tier present => (agrees tier present).symm ▸ capacity tier present,
      fun _ _ stored => .inl stored⟩
  obtain ⟨safe, invariant⟩ := reached.invariant_of_safe
    (fun system => CreateInvariant counted id world.db system.world.db system.log)
    (allSafe_start fun agent => createHold_safe .any (· = []) _ _ _ rfl)
    (fun _ => localAt_of_meets Finds.meets_any) start
    (fun {before after action} safe invariant _ step => by
      rcases commits_of_step step safe Finds.meets_any with
        ⟨dbEq, logEq⟩ | ⟨events, world', commit, dbEq, worldEq, logEq⟩
      · rw [dbEq, logEq]
        exact invariant
      · rw [worldEq, logEq]
        exact invariant.change counts (dbEq ▸ commit.change))
  refine ⟨fun tier present => ?_, fun agent error raised => ?_, fun token hold stored => ?_⟩
  · have agree := invariant.heldMatches tier present
    exact ⟨agree, agree ▸ invariant.withinCapacity tier present⟩
  -- a raised client has nothing durable: its contract says so of whoever has not returned
  · have unfinished := (safe agent).unfinished (by rw [raised]; nofun)
    exact unfinished
  · rcases invariant.origin token hold stored with old | ⟨agent, inserted⟩
    · exact .inl old
    · obtain ⟨quantity, expiresAt, event⟩ := inserted
      obtain ⟨value, returned⟩ := (safe agent).returned (fun empty : _ = [] =>
        List.not_mem_nil (empty ▸ mem_durable.mpr event))
      exact .inr ⟨agent, value, returned, quantity, expiresAt, event⟩

namespace Sample

/-- The next action of `agent`. -/
def act {ι : Type} (agent : ι) (uuid : Uuid) : Action ι Input CheckoutError :=
  ⟨agent, .plain 0 uuid, none⟩

/-- Two users ask for the same tier. -/
def rivals : Fin 2 → HoldRequest
  | 0 => ⟨id 5, (id 1).str, 6⟩
  | 1 => ⟨id 6, (id 1).str, 2⟩

/-- The second starts while the first has the tier locked. -/
def rivalry : List (Action (Fin 2) Input CheckoutError) :=
  List.replicate 2 (act one (id 8)) ++ [act other (id 9)] ++ List.replicate 10 (act one (id 8)) ++
    List.replicate 11 (act other (id 9))

end Sample

theorem create_holds_conserve_sample :
    ∃ system : System signature (Fin 2) (SharedWorld (Fin 2)) CheckoutError (Uuid × CheckoutHold),
      (∀ agent, (system.thread agent).program.result.isSome) ∧
        10 = system.world.db.quantitySum (· = .active) (Sample.id 1) := by
  have executed : ((System.start (.ofWorld Sample.world) fun agent =>
      (Sample.rivals agent).program).run (engine (Fin 2)) Sample.rivalry).map
        (fun system => (system.world.db.tiers.get (Sample.id 1),
          decide (∀ agent, (system.thread agent).program.result.isSome)))
      = some (some { event := Sample.id 0, quantityTotal := 10, quantityHeld := 10 }, true) := by
    decide +kernel
  obtain ⟨system, ran, seen⟩ := Option.map_eq_some_iff.mp executed
  simp only [Prod.mk.injEq, decide_eq_true_eq] at seen
  refine ⟨system, seen.2, ?_⟩
  exact ((create_holds_conserve (· = .active) rfl (Sample.id 1) Sample.world Sample.rivals
    (Sample.world_balanced.heldMatches _) (by
      intro tier present
      have agree := Sample.world_balanced.heldMatches _ tier present
      exact agree ▸ Sample.world_balanced.withinCapacity _ tier present)
    (reaches_of_run ran)).1 _ seen.1).1

/-! ## Releases among them -/

/-- Every release writes over the counter it has read. -/
def Finds.fresh : Finds where
  tier
    | _, .plus _ _, _ => True
    | _, .minus quantityHeld _ _, row => row.map TicketTier.quantityHeld = some quantityHeld
  hold _ _ _ := True

instance (id : Uuid) (quantityHeld : HeldExpr) (row : Option TicketTier) :
    Decidable (Finds.fresh.tier id quantityHeld row) := by
  cases quantityHeld with
  | plus => exact .isTrue trivial
  | minus quantityHeld token hold =>
      exact inferInstanceAs (Decidable (row.map TicketTier.quantityHeld = some quantityHeld))

instance (token : Uuid) (status : HoldStatus) (row : Option CheckoutHold) :
    Decidable (Finds.fresh.hold token status row) := .isTrue trivial

/-- What a commit of one of the requests publishes. -/
def RequestCommit (finds : Finds) (_ events : List (Event signature)) (own : Own) : Prop :=
  CreateCommit events own ∨ ReleaseCommit finds events own

/-- Every request keeps its contract. -/
theorem Request.safe (finds : Finds) (request : Request) :
    request.program.Safe .nothing (contract finds (RequestCommit finds) fun _ => True) [] none
      .nothing := by
  cases request with
  | createHold user tierId quantity =>
      exact safe_of_post (createHold_safe finds _ user tierId quantity trivial).discard
        fun _ _ _ created => .inl created
  | releaseHoldByToken holdToken =>
      exact safe_of_post (releaseHoldByToken_safe finds _ holdToken trivial)
        fun _ _ _ released => .inr released
  | releaseHoldOnPaymentTimeout holdToken =>
      exact safe_of_post (releaseHoldOnPaymentTimeout_safe finds _ (fun _ => trivial) holdToken)
        fun _ _ _ released => .inr released

/-- A commit of `create_hold` keeps the counters equal to the sums. -/
theorem CreateChange.heldMatches {events : List (Event signature)} {db db' : Database}
    (change : CreateChange events db db') {id : Uuid} (agrees : db.HeldMatches (· = .active) id) :
    db'.HeldMatches (· = .active) id := by
  cases change with
  | unchanged => exact agrees
  | placed present absent active fits guard inserted =>
      exact agrees.place present absent rfl (by simp [active])

/-- A release that writes over the counter it has read does so too. -/
theorem ReleaseChange.heldMatches {events : List (Event signature)} {db db' : Database}
    (change : ReleaseChange .fresh events db db') {id : Uuid}
    (agrees : db.HeldMatches (· = .active) id) : db'.HeldMatches (· = .active) id := by
  cases change with
  | unchanged quiet => exact agrees
  | released stored active present nonneg found =>
      refine agrees.giveBack present stored active nofun ?_
      -- the counter is the one that the new value was computed from
      have current := Option.some.inj found
      simp only [HeldExpr.value] at nonneg ⊢
      omega
  | orphaned stored active found => cases found

/-- **No lost update, when every release writes over the counter it has read.**
In every state reached by a run of `create_hold` and release transactions whose
release UPDATEs all find the counter they were computed from, every counter is
the sum over the committed ACTIVE holds of its tier. -/
theorem fresh_updates_conserve (world : World) (requests : ι → Request)
    (agrees : ∀ id tier, world.db.tiers.get id = some tier →
      tier.quantityHeld = world.db.heldSum id)
    {system : System signature ι (SharedWorld ι) CheckoutError Unit}
    (reached : Reaches (engine ι) Finds.fresh.Meets
      (System.start (.ofWorld world) fun agent => (requests agent).program) system)
    (id : Uuid) (tier : TicketTier) (present : system.world.db.tiers.get id = some tier) :
    tier.quantityHeld = system.world.db.heldSum id := by
  have start : ∀ id,
      (SharedWorld.ofWorld world : SharedWorld ι).db.HeldMatches (· = .active) id := by
    rw [SharedWorld.db_ofWorld]
    exact agrees
  obtain ⟨-, matching⟩ := reached.invariant_of_safe
    (fun system => ∀ id, system.world.db.HeldMatches (· = .active) id)
    (allSafe_start fun agent => (requests agent).safe .fresh) localAt_of_meets start
    (fun {before after action} safe matching meets step id => by
      rcases commits_of_step step safe meets with
        ⟨dbEq, -⟩ | ⟨events, world', commit, dbEq, worldEq, -⟩
      · rw [dbEq]
        exact matching id
      · rw [worldEq]
        rcases commit with created | released
        · exact created.change.heldMatches (dbEq ▸ matching id)
        · exact released.change.heldMatches (dbEq ▸ matching id))
  exact matching id tier present

namespace Sample

/-- A release of the hold of `world`, and a request for a new hold of its tier. -/
def race : Fin 2 → Request
  | 0 => .releaseHoldByToken (id 7).str
  | 1 => .createHold (id 6) (id 1).str 3

/-- The request runs after the release has saved the status, and before it reads the counter. -/
def orderly : List (Action (Fin 2) Input CheckoutError) :=
  List.replicate 3 (act one (id 8)) ++ List.replicate 12 (act other (id 8)) ++
    List.replicate 5 (act one (id 8))

/-- The request runs after the release has read the counter, and before it writes it. -/
def stale : List (Action (Fin 2) Input CheckoutError) :=
  List.replicate 4 (act one (id 8)) ++ List.replicate 12 (act other (id 8)) ++
    List.replicate 4 (act one (id 8))

/-- The race about to start. -/
def raceStart : System signature (Fin 2) (SharedWorld (Fin 2)) CheckoutError Unit :=
  System.start (.ofWorld world) fun agent => (race agent).program

end Sample

theorem fresh_updates_conserve_sample :
    ∃ system : System signature (Fin 2) (SharedWorld (Fin 2)) CheckoutError Unit,
      (∀ agent, (system.thread agent).program.result = some ()) ∧
        3 = system.world.db.heldSum (Sample.id 1) := by
  have executed : (Sample.raceStart.runWhile (engine (Fin 2))
      (fun system action => decide (Finds.fresh.Meets system action)) Sample.orderly).map
        (fun system => (system.world.db.tiers.get (Sample.id 1),
          decide (∀ agent, (system.thread agent).program.result = some ())))
      = some (some { event := Sample.id 0, quantityTotal := 10, quantityHeld := 3 }, true) := by
    decide +kernel
  obtain ⟨system, ran, seen⟩ := Option.map_eq_some_iff.mp executed
  simp only [Prod.mk.injEq, decide_eq_true_eq] at seen
  exact ⟨system, seen.2, fresh_updates_conserve Sample.world Sample.race
    Sample.world_balanced.heldMatches
    (reaches_of_runWhile (fun _ _ passes => of_decide_eq_true passes) ran) _ _ seen.1⟩

/-- **A lost update.**  Both transactions commit, the new hold of three tickets is
ACTIVE, and the counter of its tier is 0. -/
theorem lost_update :
    Sample.world.db.Balanced ∧
      ∃ system, Reaches (engine (Fin 2)) Unrestricted Sample.raceStart system ∧
        (∀ agent, (system.thread agent).program.result = some ()) ∧
        (system.world.db.tiers.get (Sample.id 1)).map TicketTier.quantityHeld = some 0 ∧
        system.world.db.heldSum (Sample.id 1) = 3 := by
  have executed : (Sample.raceStart.run (engine (Fin 2)) Sample.stale).map
        (fun system => (decide (∀ agent, (system.thread agent).program.result = some ()),
          (system.world.db.tiers.get (Sample.id 1)).map TicketTier.quantityHeld,
          system.world.db.heldSum (Sample.id 1)))
      = some (true, some 0, 3) := by
    decide +kernel
  obtain ⟨system, ran, seen⟩ := Option.map_eq_some_iff.mp executed
  simp only [Prod.mk.injEq, decide_eq_true_eq] at seen
  exact ⟨Sample.world_balanced, system, reaches_of_run ran, seen⟩

end Ticketing
