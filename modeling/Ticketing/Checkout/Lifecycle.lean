import Ticketing.Checkout.Conservation
import Ticketing.Checkout.Sweep

/-!
# The life of a hold in concurrent runs

Requests and sweeps run statement by statement.  A hold should leave ACTIVE
once, and its quantity should be subtracted from its tier once.

## Main Definitions

* `Job` — a request or a sweep
* `Finds.live` — every sweep finds the hold it saves still ACTIVE
* `Orderly` — the effects of one client: every subtraction follows its save
* `subtractions` — how often a hold's quantity has been subtracted

## Main Results

* `holds_end_once` — what `Finds.live` buys
* `released_then_expired` — a run without it

## Design Notes

The sweep commits every statement on its own, so nothing but the order of its
statements ties a subtraction to the save before it.  Each client's durable
statements are therefore read as a list of effects, and the number of
subtractions is bounded by the number of saves.
-/

namespace Ticketing

open Transactional

variable {ι : Type} [DecidableEq ι]

/-- A request, or a run of the sweep. -/
inductive Job
  | request (call : Request)
  | sweepExpiredHolds

/-- The program a job runs. -/
def Job.program : Job → Checkout Unit
  | .request call => call.program
  | .sweepExpiredHolds => Ticketing.sweepExpiredHolds.discard

/-- Every sweep finds the hold whose status it saves still ACTIVE. -/
def Finds.live : Finds where
  tier _ _ _ := True
  hold
    | _, .expired, row => row.map CheckoutHold.status = some .active
    | _, _, _ => True

instance (id : Uuid) (quantityHeld : HeldExpr) (row : Option TicketTier) :
    Decidable (Finds.live.tier id quantityHeld row) := .isTrue trivial

instance (token : Uuid) (status : HoldStatus) (row : Option CheckoutHold) :
    Decidable (Finds.live.hold token status row) := by
  cases status with
  | expired => exact inferInstanceAs (Decidable (row.map CheckoutHold.status = some .active))
  | _ => exact .isTrue trivial

/-- What a commit of a job publishes. -/
def JobCommit (finds : Finds) (history events : List (Event signature)) (own : Own) : Prop :=
  RequestCommit finds history events own ∨ SweepCommit finds history events own

/-- Every job keeps its contract. -/
theorem Job.safe (finds : Finds) (job : Job) :
    job.program.Safe .nothing (contract finds (JobCommit finds) fun _ => True) [] none
      .nothing := by
  cases job with
  | request call =>
      exact safe_of_post (call.safe finds) fun _ _ _ commit => .inl commit
  | sweepExpiredHolds =>
      exact safe_of_post (sweepExpiredHolds_safe finds _ fun _ => trivial).discard
        fun _ _ _ commit => .inr commit

/-! ## One client -/

/-- The effects of a client come in the order save, subtraction. -/
inductive Orderly : List HoldEffect → Prop
  | nil : Orderly []
  | saved {before : List HoldEffect} (token : Uuid) (orderly : Orderly before) :
      Orderly (before ++ [.saved token])
  | returned {before : List HoldEffect} (token : Uuid) (orderly : Orderly before) :
      Orderly (before ++ [.saved token, .returned token])

namespace Orderly

/-- Without the save at its end the list is still orderly. -/
theorem of_saved {before : List HoldEffect} {token : Uuid}
    (orderly : Orderly (before ++ [.saved token])) : Orderly before := by
  generalize listEq : before ++ [HoldEffect.saved token] = list at orderly
  cases orderly with
  | nil => simp at listEq
  | saved other rest =>
      obtain ⟨rfl, -⟩ := List.append_inj' listEq rfl
      exact rest
  | @returned first other rest =>
      have last := congrArg List.getLast? listEq
      simp at last

/-- A subtraction is matched by a save of the same hold. -/
theorem count_le {list : List HoldEffect} (orderly : Orderly list) (token : Uuid) :
    list.count (.returned token) ≤ list.count (.saved token) := by
  induction orderly with
  | nil => simp
  | saved other _ ih =>
      simp only [List.count_append]
      have none : [HoldEffect.saved other].count (.returned token) = 0 := by simp
      omega
  | returned other _ ih =>
      simp only [List.count_append]
      have same : [HoldEffect.saved other, .returned other].count (.returned token)
          = [HoldEffect.saved other, .returned other].count (.saved token) := by
        by_cases eq : other = token <;> simp [eq]
      omega

/-- **One commit of a job keeps its client's effects orderly.** -/
theorem commit {finds : Finds} {history events : List (Event signature)} {own : Own}
    (orderly : Orderly (effects history)) (commit : JobCommit finds history events own) :
    Orderly (effects (history ++ events)) := by
  have split : effects (history ++ events) = effects history ++ effects events :=
    List.filterMap_append ..
  rw [split]
  have silent (quiet : effects events = []) : Orderly (effects history ++ effects events) := by
    rw [quiet, List.append_nil]
    exact orderly
  rcases commit with (created | released) | swept
  · exact silent created.effects_eq
  · cases released with
    | silent quiet => exact silent quiet.effects_eq
    | released active nonneg found effects_eq => exact effects_eq ▸ orderly.returned _
    | orphaned active found effects_eq => exact effects_eq ▸ orderly.returned _
  · cases swept with
    | silent quiet => exact silent quiet.effects_eq
    | expired found effects_eq => exact effects_eq ▸ orderly.saved _
    -- the sweep subtracts in a statement of its own, after the save before it
    | @returned _ token before before_eq effects_eq holds =>
        rw [before_eq] at orderly
        rw [before_eq, effects_eq, List.append_assoc]
        exact orderly.of_saved.returned token

end Orderly

/-! ## The hold table -/

/-- What a commit can do to the hold table: nothing, one new ACTIVE hold, or the
end of one ACTIVE hold, whose status is then saved once. -/
inductive HoldsChange (events : List HoldEffect) (holds : Table Uuid CheckoutHold) :
    Table Uuid CheckoutHold → Prop
  | same (unsaved : ∀ token, events.count (.saved token) = 0) : HoldsChange events holds holds
  | inserted {token : Uuid} {hold : CheckoutHold} (absent : holds.get token = none)
      (unsaved : ∀ token, events.count (.saved token) = 0) :
      HoldsChange events holds (holds.set token hold)
  | ended {token : Uuid} {hold : CheckoutHold} {status : HoldStatus}
      (stored : holds.get token = some hold) (active : hold.status = .active)
      (ends : status ≠ .active)
      (saves : ∀ other, events.count (.saved other) = if other = token then 1 else 0) :
      HoldsChange events holds (holds.set token { hold with status })

/-- A commit of a job whose sweep saves find ACTIVE holds is one of these changes. -/
theorem JobCommit.holdsChange {history events : List (Event signature)} {agent : ι}
    {world : SharedWorld ι} (commit : JobCommit .live history events (world.own agent)) :
    HoldsChange (effects events) world.db.holds (world.commit agent).db.holds := by
  have pair (token other : Uuid) : [HoldEffect.saved token, .returned token].count (.saved other)
      = if other = token then 1 else 0 := by
    by_cases same : token = other <;> simp [same, eq_comm]
  rcases commit with (created | released) | swept
  · have quiet := created.effects_eq
    -- a new hold is inserted, and none is saved
    have change := created.change
    generalize (world.commit agent).db = after at change ⊢
    cases change with
    | unchanged => exact .same (by simp [quiet])
    | placed present absent active fits guard inserted => exact .inserted absent (by simp [quiet])
  · have change := released.change
    generalize (world.commit agent).db = after at change ⊢
    cases change with
    | unchanged quiet => exact .same (by simp [quiet])
    | @released token hold tier quantityHeld stored active present nonneg found effects_eq =>
        exact .ended stored active nofun (effects_eq ▸ pair token)
    | @orphaned token hold quantityHeld stored active found effects_eq =>
        exact .ended stored active nofun (effects_eq ▸ pair token)
  · have change := swept.change
    generalize (world.commit agent).db = after at change ⊢
    cases change with
    | unchanged quiet => exact .same (by simp [quiet])
    | @expired token hold stored found effects_eq =>
        refine .ended stored (Option.some.inj found) nofun fun other => ?_
        rw [effects_eq]
        by_cases same : token = other <;> simp [same, eq_comm]
    | returned before_eq effects_eq holds =>
        rw [holds]
        exact .same (by simp [effects_eq])

namespace HoldsChange

variable {events : List HoldEffect} {holds holds' : Table Uuid CheckoutHold}

/-- A hold that has left ACTIVE stays as it is. -/
theorem ended_stays (change : HoldsChange events holds holds') {token : Uuid} {hold : CheckoutHold}
    (stored : holds.get token = some hold) (ended : hold.status ≠ .active) :
    holds'.get token = some hold := by
  cases change with
  | same unsaved => exact stored
  | @inserted other new absent unsaved =>
      rw [Table.get_set_of_ne _ _ (by rintro rfl; simp [absent] at stored)]
      exact stored
  | @ended other old status present active ends saves =>
      rw [Table.get_set_of_ne _ _ ?_]
      · exact stored
      · rintro rfl
        rw [present] at stored
        cases stored
        exact ended active

end HoldsChange

/-! ## Runs -/

/-- How often the quantity of a hold has been subtracted from its tier. -/
def subtractions (token : Uuid) (log : List (ι × Event signature)) : ℕ :=
  (effects (log.map Prod.snd)).count (.returned token)

/-- What every state of a run satisfies: the effects of every client are orderly,
and a hold whose status has been saved is no longer ACTIVE and was saved once. -/
structure LifeInvariant (db : Database) (log : List (ι × Event signature)) : Prop where
  orderly : ∀ agent, Orderly (effects (durable agent log))
  saved : ∀ token, (effects (log.map Prod.snd)).count (.saved token) = 0 ∨
    (effects (log.map Prod.snd)).count (.saved token) = 1 ∧
      ∃ hold, db.holds.get token = some hold ∧ hold.status ≠ .active

namespace LifeInvariant

variable {db db' : Database} {log : List (ι × Event signature)}

/-- **One commit of a job keeps the invariant.** -/
theorem commit (invariant : LifeInvariant db log) {agent : ι} {events : List (Event signature)}
    (orderly : Orderly (effects (durable agent log ++ events)))
    (change : HoldsChange (effects events) db.holds db'.holds) :
    LifeInvariant db' (log ++ events.map (agent, ·)) where
  orderly other := by
    by_cases same : other = agent
    · subst same
      simpa using orderly
    · rw [durable_append_of_ne _ _ same]
      exact invariant.orderly other
  saved token := by
    have total : (effects ((log ++ events.map (agent, ·)).map Prod.snd)).count (.saved token)
        = (effects (log.map Prod.snd)).count (.saved token)
          + (effects events).count (.saved token) := by
      simp [effects, Function.comp_def]
    rw [total]
    have kept : (∃ hold, db.holds.get token = some hold ∧ hold.status ≠ .active) →
        ∃ hold, db'.holds.get token = some hold ∧ hold.status ≠ .active := by
      rintro ⟨hold, stored, ended⟩
      exact ⟨hold, change.ended_stays stored ended, ended⟩
    have quiet (unsaved : (effects events).count (.saved token) = 0) :
        (effects (log.map Prod.snd)).count (.saved token)
            + (effects events).count (.saved token) = 0 ∨
          (effects (log.map Prod.snd)).count (.saved token)
              + (effects events).count (.saved token) = 1 ∧
            ∃ hold, db'.holds.get token = some hold ∧ hold.status ≠ .active := by
      rw [unsaved, Nat.add_zero]
      exact (invariant.saved token).imp_right (And.imp_right kept)
    generalize db'.holds = after at change quiet ⊢
    cases change with
    | same unsaved => exact quiet (unsaved token)
    | inserted absent unsaved => exact quiet (unsaved token)
    | @ended ended hold status stored active ends saves =>
        by_cases same : token = ended
        · subst same
          -- an ACTIVE hold has not been saved before
          have fresh : (effects (log.map Prod.snd)).count (.saved token) = 0 := by
            rcases invariant.saved token with zero | ⟨-, other, stored', gone⟩
            · exact zero
            · exact absurd active (Option.some.inj (stored.symm.trans stored') ▸ gone)
          exact .inr ⟨by rw [fresh, saves, if_pos rfl], { hold with status },
            Table.get_set_self .., ends⟩
        · exact quiet (by rw [saves, if_neg same])

/-- The quantity of a hold has been subtracted at most once. -/
theorem subtractions_le (invariant : LifeInvariant db log) (token : Uuid) :
    subtractions token log ≤ 1 := by
  have count (list : List (Event signature)) (effect : HoldEffect) :
      (effects list).count effect = list.countP (·.stmt.holdEffect == some effect) :=
    List.count_filterMap ..
  have paired : subtractions token log ≤ (effects (log.map Prod.snd)).count (.saved token) := by
    unfold subtractions
    rw [count, count]
    -- every client subtracts no more than it saves, so all of them together do
    refine countP_le_of_durable log fun agent => ?_
    rw [← count, ← count]
    exact (invariant.orderly agent).count_le token
  rcases invariant.saved token with zero | ⟨one, -⟩ <;> omega

/-- **One step of safe jobs keeps the invariant.** -/
theorem step {α : Type} {unfinished : List (Event signature) → Prop}
    {system system' : System signature ι (SharedWorld ι) CheckoutError α}
    {action : Action ι Input CheckoutError}
    (invariant : LifeInvariant system.world.db system.log)
    (safe : AllSafe (isolation ι) (contract .live (JobCommit .live) unfinished) system)
    (meets : Finds.live.Meets system action) (step : Step (engine ι) system action system') :
    LifeInvariant system'.world.db system'.log := by
  rcases commits_of_step step safe meets with
    ⟨dbEq, logEq⟩ | ⟨events, world', commit, dbEq, worldEq, logEq⟩
  · rw [dbEq, logEq]
    exact invariant
  · rw [worldEq, logEq]
    exact invariant.commit ((invariant.orderly _).commit commit) (dbEq ▸ commit.holdsChange)

end LifeInvariant

/-- One step of safe jobs leaves a hold alone that has left ACTIVE. -/
theorem ended_stays_of_step {α : Type} {unfinished : List (Event signature) → Prop}
    {system system' : System signature ι (SharedWorld ι) CheckoutError α}
    {action : Action ι Input CheckoutError}
    (safe : AllSafe (isolation ι) (contract .live (JobCommit .live) unfinished) system)
    (meets : Finds.live.Meets system action) (step : Step (engine ι) system action system')
    {token : Uuid} {hold : CheckoutHold} (stored : system.world.db.holds.get token = some hold)
    (ended : hold.status ≠ .active) : system'.world.db.holds.get token = some hold := by
  rcases commits_of_step step safe meets with
    ⟨dbEq, -⟩ | ⟨events, world', commit, dbEq, worldEq, -⟩
  · rw [dbEq]
    exact stored
  · rw [worldEq]
    exact commit.holdsChange.ended_stays (dbEq ▸ stored) ended

/-- **A hold leaves ACTIVE once and returns its stock once, when every sweep finds
the hold it saves still ACTIVE.**  From every state that such a run of requests
and sweeps reaches, a RELEASED or EXPIRED hold stays as it is, and no hold's
quantity has been subtracted from its tier more than once. -/
theorem holds_end_once (world : World) (jobs : ι → Job)
    {system : System signature ι (SharedWorld ι) CheckoutError Unit}
    (reached : Reaches (engine ι) Finds.live.Meets
      (System.start (.ofWorld world) fun agent => (jobs agent).program) system) :
    (∀ later, Reaches (engine ι) Finds.live.Meets system later →
      ∀ token hold, system.world.db.holds.get token = some hold →
        hold.status = .released ∨ hold.status = .expired →
        later.world.db.holds.get token = some hold) ∧
    ∀ token, subtractions token system.log ≤ 1 := by
  have start : LifeInvariant (SharedWorld.ofWorld world : SharedWorld ι).db
      ([] : List (ι × Event signature)) := ⟨fun _ => .nil, fun _ => .inl rfl⟩
  obtain ⟨safe, invariant⟩ := reached.invariant_of_safe
    (fun system => LifeInvariant system.world.db system.log)
    (allSafe_start fun agent => (jobs agent).safe .live) localAt_of_meets start
    fun safe invariant meets step => invariant.step safe meets step
  refine ⟨fun later onward token hold stored ended => ?_, invariant.subtractions_le⟩
  have gone : hold.status ≠ .active := by
    rcases ended with released | expired
    · exact released ▸ nofun
    · exact expired ▸ nofun
  exact (onward.invariant_of_safe (fun later => later.world.db.holds.get token = some hold) safe
    localAt_of_meets stored
    fun safe stored meets step => ended_stays_of_step safe meets step stored gone).2

/-! ### A sweep and a release -/

namespace Sample

/-- A sweep, and a release of the hold it is going to find. -/
def sweepAndRelease : Fin 2 → Job
  | 0 => .sweepExpiredHolds
  | 1 => .request (.releaseHoldByToken (id 7).str)

/-- Both about to start. -/
def sweepStart : System signature (Fin 2) (SharedWorld (Fin 2)) CheckoutError Unit :=
  System.start (.ofWorld due) fun agent => (sweepAndRelease agent).program

/-- The release comes when the sweep has saved the status of the hold. -/
def sweepFirst : List (Action (Fin 2) Input CheckoutError) :=
  List.replicate 4 (act one (id 8)) ++ List.replicate 3 (act other (id 8)) ++
    List.replicate 3 (act one (id 8))

/-- The release runs between the sweep's query and its first save. -/
def releaseBetween : List (Action (Fin 2) Input CheckoutError) :=
  List.replicate 3 (act one (id 8)) ++ List.replicate 8 (act other (id 8))

/-- The rest of the sweep. -/
def sweepRest : List (Action (Fin 2) Input CheckoutError) := List.replicate 4 (act one (id 8))

end Sample

theorem holds_end_once_sample :
    ∃ system : System signature (Fin 2) (SharedWorld (Fin 2)) CheckoutError Unit,
      (∀ agent, (system.thread agent).program.result = some ()) ∧
        subtractions (Sample.id 7) system.log ≤ 1 := by
  have executed : (Sample.sweepStart.runWhile (engine (Fin 2))
      (fun system action => decide (Finds.live.Meets system action)) Sample.sweepFirst).map
        (fun system => decide (∀ agent, (system.thread agent).program.result = some ()))
      = some true := by
    decide +kernel
  obtain ⟨system, ran, seen⟩ := Option.map_eq_some_iff.mp executed
  exact ⟨system, of_decide_eq_true seen, (holds_end_once Sample.due Sample.sweepAndRelease
    (reaches_of_runWhile (fun _ _ passes => of_decide_eq_true passes) ran)).2 _⟩

/-- **A RELEASED hold becomes EXPIRED.**  The release commits between the sweep's
query and its save; the sweep then writes over the status, and the quantity of
the hold is subtracted a second time. -/
theorem released_then_expired :
    ∃ middle later, Reaches (engine (Fin 2)) Unrestricted Sample.sweepStart middle ∧
      Reaches (engine (Fin 2)) Unrestricted middle later ∧
      (middle.world.db.holds.get (Sample.id 7)).map CheckoutHold.status = some .released ∧
      (later.world.db.holds.get (Sample.id 7)).map CheckoutHold.status = some .expired ∧
      subtractions (Sample.id 7) later.log = 2 := by
  have executed : ((Sample.sweepStart.run (engine (Fin 2)) Sample.releaseBetween).bind
      fun middle => (middle.run (engine (Fin 2)) Sample.sweepRest).map fun later =>
        ((middle.world.db.holds.get (Sample.id 7)).map CheckoutHold.status,
          (later.world.db.holds.get (Sample.id 7)).map CheckoutHold.status,
          subtractions (Sample.id 7) later.log))
      = some (some .released, some .expired, 2) := by
    decide +kernel
  obtain ⟨middle, ran, rest⟩ := Option.bind_eq_some_iff.mp executed
  obtain ⟨later, onward, seen⟩ := Option.map_eq_some_iff.mp rest
  simp only [Prod.mk.injEq] at seen
  exact ⟨middle, later, reaches_of_run ran, reaches_of_run onward, seen⟩

end Ticketing
