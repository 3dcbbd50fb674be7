import Ticketing.Checkout.Conservation

/-!
# The hold-abuse cap in concurrent runs

The guard of `create_hold` counts the user's ACTIVE holds over a whole event,
under the lock of a single tier.

## Main Definitions

* `Guarded` — a transaction that the guard has let pass and that has not ended
* `NoStaleGuard` — nobody else is guarded when a commit brings the user to the cap

## Main Results

* `cap_of_noStaleGuard` — then the cap holds in every state reached
* `cap_exceeded` — two requests for two tiers of one event break it
-/

namespace Ticketing

open Transactional

/-! ## Counting -/

namespace Database

variable {db : Database} {token : Uuid} {tier : TicketTier} {hold : CheckoutHold}

/-- Placing a hold moves no tier to another event. -/
theorem place_event (present : db.tiers.get hold.tierId = some tier) (id : Uuid) :
    ((db.place hold.tierId tier token hold).tiers.get id).map TicketTier.event
      = (db.tiers.get id).map TicketTier.event := by
  simp only [place, Table.get_set]
  split
  · rename_i same
    subst same
    rw [present]
    rfl
  · rfl

/-- Placing a hold adds it to the count of its user on its event. -/
theorem activeHoldsCount_place (present : db.tiers.get hold.tierId = some tier)
    (absent : db.holds.get token = none) (active : hold.status = .active) (user event : Uuid) :
    (db.place hold.tierId tier token hold).activeHoldsCount user event
      = db.activeHoldsCount user event
        + if hold.user = user ∧ tier.event = event then 1 else 0 := by
  have measure : (db.place hold.tierId tier token hold).countsFor user event
      = db.countsFor user event := by
    funext other
    simp only [countsFor, place_event present]
  unfold activeHoldsCount
  rw [measure]
  simp only [place]
  rw [Table.total_set_new _ _ absent]
  simp [countsFor, active, present]

end Database

variable {ι : Type} [DecidableEq ι]

/-! ## Guarded transactions -/

section Guarded

variable {α : Type}

/-- The guard has let the open transaction of `agent` pass, and no exception has
ended it. -/
def Guarded (system : System signature ι (SharedWorld ι) CheckoutError α) (agent : ι)
    (user event : Uuid) : Prop :=
  (∀ error, (system.thread agent).program ≠ .raise error) ∧
    ∃ events, (system.thread agent).transaction = some events ∧ PassedGuard user event events

/-- When the commit of a guarded transaction is the one that brings `user` to
the cap on `event`, no other transaction is guarded. -/
def NoStaleGuard (user event : Uuid)
    (system : System signature ι (SharedWorld ι) CheckoutError α)
    (action : Action ι Input CheckoutError) : Prop :=
  action.fault = none → (∃ rest, (system.thread action.agent).program = .commit rest) →
    Guarded system action.agent user event →
    system.world.db.activeHoldsCount user event + 1 = maxHoldsPerUserPerEvent →
    ∀ other, other ≠ action.agent → ¬ Guarded system other user event

/-- What every state of such a run satisfies: the cap holds, and a guarded
transaction may still add one hold. -/
structure CapInvariant (user event : Uuid)
    (system : System signature ι (SharedWorld ι) CheckoutError α) : Prop where
  cap : system.world.db.activeHoldsCount user event ≤ maxHoldsPerUserPerEvent
  room : ∀ agent, Guarded system agent user event →
    system.world.db.activeHoldsCount user event < maxHoldsPerUserPerEvent

variable {user event : Uuid} {system : System signature ι (SharedWorld ι) CheckoutError α}
variable {agent : ι} {input : Input} {world : SharedWorld ι}

/-- The count query of a client that has written nothing counts committed holds. -/
theorem count_of_exec {count : ℕ} {world' : SharedWorld ι}
    (result : world.exec agent input (.sql (.countActiveHolds user event))
      = some (.ok (count, world')))
    (unwritten : (world.own agent).Unwritten) :
    count = world.db.activeHoldsCount user event := by
  have counted := SharedWorld.exec_view result
  simp only [World.exec, Database.exec, Except.map, Except.ok.injEq, Prod.mk.injEq] at counted
  rw [← counted.1, SharedWorld.view_of_unwritten unwritten]

omit [DecidableEq ι] in
/-- A step that leaves the committed rows alone and guards nobody new keeps the invariant. -/
theorem CapInvariant.of_same {system' : System signature ι (SharedWorld ι) CheckoutError α}
    (invariant : CapInvariant user event system) (dbEq : system'.world.db = system.world.db)
    (guards : ∀ agent, Guarded system' agent user event →
      Guarded system agent user event ∨
        system.world.db.activeHoldsCount user event < maxHoldsPerUserPerEvent) :
    CapInvariant user event system' where
  cap := dbEq ▸ invariant.cap
  room agent guarded := by
    rw [dbEq]
    exact (guards agent guarded).elim (invariant.room agent) id

/-- Replacing the thread of `agent` by one that is not guarded guards nobody new. -/
theorem guarded_of_setThread {thread : Thread signature CheckoutError α}
    {world : SharedWorld ι} {log : List (ι × Event signature)} {other : ι}
    (unguarded : (∃ error, thread.program = .raise error) ∨ thread.transaction = none ∨
      thread.transaction = some [])
    (guarded : Guarded { system.setThread agent thread with world := world, log := log } other
      user event) : other ≠ agent ∧ Guarded system other user event := by
  by_cases same : other = agent
  · subst same
    obtain ⟨running, events, located, count, found, -⟩ := guarded
    simp only [System.setThread, Function.update_self] at running located
    rcases unguarded with ⟨error, raised⟩ | none | empty
    · exact absurd raised (running error)
    · rw [none] at located
      cases located
    · rw [empty] at located
      cases located
      cases found
  · refine ⟨same, ?_⟩
    simpa [Guarded, System.setThread, same] using guarded

/-- A commit of `create_hold` adds at most one hold, and only past the guard. -/
theorem CreateChange.count {events : List (Event signature)} {db db' : Database}
    (change : CreateChange events db db') (user event : Uuid) :
    db'.activeHoldsCount user event = db.activeHoldsCount user event ∨
      PassedGuard user event events ∧
        db'.activeHoldsCount user event = db.activeHoldsCount user event + 1 := by
  cases change with
  | unchanged => exact .inl rfl
  | @placed token tier hold present absent active fits guard inserted =>
      rw [Database.activeHoldsCount_place present absent active]
      by_cases counts : hold.user = user ∧ tier.event = event
      · obtain ⟨rfl, rfl⟩ := counts
        exact .inr ⟨guard, by simp⟩
      · exact .inl (by simp [counts])

/-- A single statement of `create_hold` is never a whole placement. -/
theorem CreateChange.of_single {single : Event signature} {db db' : Database}
    (change : CreateChange [single] db db') : db' = db := by
  cases change with
  | unchanged => rfl
  | placed present absent active fits guard inserted =>
      obtain ⟨count, counted, -⟩ := guard
      obtain ⟨quantity, expiresAt, insertion⟩ := inserted
      rw [List.mem_singleton] at counted insertion
      have clash := congrArg Event.stmt (counted.trans insertion.symm)
      cases clash

/-- **One step of safe `create_hold` clients keeps the cap**, unless it is the
commit that makes another guard stale. -/
theorem CapInvariant.step {unfinished : List (Event signature) → Prop}
    {system' : System signature ι (SharedWorld ι) CheckoutError α}
    {action : Action ι Input CheckoutError} (invariant : CapInvariant user event system)
    (safe : AllSafe (isolation ι)
      (contract .any (fun _ events own => CreateCommit events own) unfinished) system)
    (meets : NoStaleGuard user event system action)
    (step : Step (engine ι) system action system') : CapInvariant user event system' := by
  have own := safe action.agent
  cases step with
  | fault error located running =>
      exact invariant.of_same rfl fun other guarded =>
        .inl (guarded_of_setThread (.inl ⟨error, rfl⟩) guarded).2
  | rollback located =>
      exact invariant.of_same ((isolation ι).shared_rollback _ _) fun other guarded =>
        .inl (guarded_of_setThread (.inl ⟨_, rfl⟩) guarded).2
  | begin located =>
      exact invariant.of_same rfl fun other guarded =>
        .inl (guarded_of_setThread (.inr (.inr rfl)) guarded).2
  | @commit rest transaction located unharmed =>
      rw [located] at own
      have commit : CreateCommit (transaction.getD []) (system.world.own action.agent) := own.2.1
      have others {other : ι} := @guarded_of_setThread ι _ α user event system action.agent
        ⟨rest, none⟩ (system.world.commit action.agent)
        (system.log ++ (transaction.getD []).map (action.agent, ·)) other (.inr (.inl rfl))
      -- only a commit past the guard adds a hold
      rcases commit.change.count user event with same | ⟨guard, more⟩
      · refine ⟨le_of_eq_of_le same invariant.cap, fun other guarded => ?_⟩
        exact lt_of_eq_of_lt same (invariant.room other (others guarded).2)
      · have guarded : Guarded system action.agent user event := by
          cases transaction with
          | none =>
              obtain ⟨count, counted, -⟩ := guard
              cases counted
          | some events =>
              rw [Guarded, located]
              refine ⟨fun error isRaised => ?_, events, rfl, guard⟩
              cases isRaised
        have room := invariant.room _ guarded
        refine ⟨le_of_eq_of_le more room, fun other guarded' => ?_⟩
        obtain ⟨different, stale⟩ := others guarded'
        -- another guard is still open, so this is not the last hold there is room for
        have notLast : system.world.db.activeHoldsCount user event + 1
            ≠ maxHoldsPerUserPerEvent := fun last =>
          meets unharmed ⟨rest, by rw [located]⟩ guarded last other different stale
        exact lt_of_eq_of_lt more (by omega)
  | @auto stmt next answer world' located unharmed result =>
      rw [located] at own
      have moved := moves_of_exec result (Finds.at_any _ stmt)
      have commit : CreateCommit [⟨stmt, answer⟩] (world'.own action.agent) :=
        (own.2.2 _ _ moved).1
      have dbEq : (world'.commit action.agent).db = system.world.db :=
        commit.change.of_single.trans (SharedWorld.touches_of_exec result).db_eq
      exact invariant.of_same dbEq fun other guarded =>
        .inl (guarded_of_setThread (.inr (.inl rfl)) guarded).2
  | @stmt stmt next events answer world' located unharmed result =>
      rw [located] at own
      refine invariant.of_same (SharedWorld.touches_of_exec result).db_eq fun other guarded => ?_
      by_cases same : other = action.agent
      · subst same
        obtain ⟨running, seen, seenEq, count, counted, below⟩ := guarded
        simp only [System.setThread, Function.update_self, Option.some.injEq] at seenEq
        subst seenEq
        -- the guard has passed earlier, or this statement is the count itself
        rcases List.mem_append.mp counted with before | now
        · have goesOn (error : CheckoutError) :
              (system.thread action.agent).program ≠ .raise error := by
            rw [located]
            rintro ⟨⟩
          exact .inl ⟨goesOn, events, by rw [located], count, before, below⟩
        · rw [List.mem_singleton] at now
          cases now
          have answered : count = system.world.db.activeHoldsCount user event :=
            @count_of_exec _ _ _ _ _ action.input _ _ _ result (own.2.1 _ _ rfl)
          exact .inr (answered ▸ below)
      · exact .inl (by simpa [Guarded, System.setThread, same] using guarded)

end Guarded

/-- **The cap holds when no guard goes stale.**  In every state reached by a run
of any number of `create_hold` transactions, in which no other transaction of the
user is past the guard when a commit brings the user to the cap on the event, the
user has at most `maxHoldsPerUserPerEvent` committed ACTIVE holds on it. -/
theorem cap_of_noStaleGuard (user event : Uuid) (world : World) (requests : ι → HoldRequest)
    (cap : world.db.activeHoldsCount user event ≤ maxHoldsPerUserPerEvent)
    {system : System signature ι (SharedWorld ι) CheckoutError (Uuid × CheckoutHold)}
    (reached : Reaches (engine ι) (NoStaleGuard user event)
      (System.start (.ofWorld world) fun agent => (requests agent).program) system) :
    system.world.db.activeHoldsCount user event ≤ maxHoldsPerUserPerEvent := by
  have start : CapInvariant user event
      (System.start (.ofWorld world) fun agent => (requests agent).program) := by
    refine ⟨?_, fun agent guarded => ?_⟩
    · simpa [System.start] using cap
    · obtain ⟨-, events, located, -⟩ := guarded
      cases located
  exact (reached.invariant_of_safe (CapInvariant user event)
    (allSafe_start fun agent => createHold_safe .any (fun _ => True) _ _ _ trivial)
    (fun _ => localAt_of_meets Finds.meets_any) start
    fun safe invariant meets step => invariant.step safe meets step).2.cap

/-! ### Two tiers of one event -/

namespace Sample

/-- `world` with a second tier of the same event. -/
def twoTiers : World :=
  { world with
    db := { world.db with
      tiers := world.db.tiers.set (id 2) { event := id 0, quantityTotal := 10 } } }

/-- The user of the old hold asks for one ticket of each tier. -/
def bothTiers : Fin 2 → HoldRequest
  | 0 => ⟨id 5, (id 1).str, 1⟩
  | 1 => ⟨id 5, (id 2).str, 1⟩

/-- The two requests about to start. -/
def bothStart : System signature (Fin 2) (SharedWorld (Fin 2)) CheckoutError
    (Uuid × CheckoutHold) :=
  System.start (.ofWorld twoTiers) fun agent => (bothTiers agent).program

/-- One request after the other; the second ends with `HoldAbuseError`. -/
def inTurn : List (Action (Fin 2) Input CheckoutError) :=
  List.replicate 12 (act one (id 8)) ++ List.replicate 4 (act other (id 9))

/-- Both requests count before either has placed its hold. -/
def crossed : List (Action (Fin 2) Input CheckoutError) :=
  List.replicate 3 (act one (id 8)) ++ List.replicate 3 (act other (id 9)) ++
    List.replicate 9 (act one (id 8)) ++ List.replicate 9 (act other (id 9))

end Sample

theorem cap_of_noStaleGuard_sample :
    ∃ system : System signature (Fin 2) (SharedWorld (Fin 2)) CheckoutError (Uuid × CheckoutHold),
      (system.thread 0).program.result.isSome ∧
        system.world.db.activeHoldsCount (Sample.id 5) (Sample.id 0) ≤ 2 := by
  have executed : (Sample.bothStart.runWhile (engine (Fin 2)) (fun system action =>
      decide (∀ other, other ≠ action.agent → (system.thread other).transaction.isNone))
        Sample.inTurn).map (fun system => (system.thread 0).program.result.isSome) = some true := by
    decide +kernel
  obtain ⟨system, ran, seen⟩ := Option.map_eq_some_iff.mp executed
  refine ⟨system, seen, cap_of_noStaleGuard (Sample.id 5) (Sample.id 0) Sample.twoTiers
    Sample.bothTiers (by decide +kernel) (reaches_of_runWhile ?_ ran)⟩
  intro system action alone _ _ _ _ other different guarded
  obtain ⟨-, events, located, -⟩ := guarded
  have closed := of_decide_eq_true alone other different
  rw [located] at closed
  cases closed

/-- **The cap is exceeded.**  A user with one ACTIVE hold asks for two tiers of one
event at once, both requests succeed, and three ACTIVE holds are left. -/
theorem cap_exceeded :
    Sample.twoTiers.db.activeHoldsCount (Sample.id 5) (Sample.id 0) ≤ maxHoldsPerUserPerEvent ∧
      ∃ system, Reaches (engine (Fin 2)) Unrestricted Sample.bothStart system ∧
        (∀ agent, (system.thread agent).program.result.isSome) ∧
        system.world.db.activeHoldsCount (Sample.id 5) (Sample.id 0) = 3 := by
  have executed : (Sample.bothStart.run (engine (Fin 2)) Sample.crossed).map
        (fun system => (decide (∀ agent, (system.thread agent).program.result.isSome),
          system.world.db.activeHoldsCount (Sample.id 5) (Sample.id 0)))
      = some (true, 3) := by
    decide +kernel
  obtain ⟨system, ran, seen⟩ := Option.map_eq_some_iff.mp executed
  simp only [Prod.mk.injEq, decide_eq_true_eq] at seen
  exact ⟨by decide +kernel, system, reaches_of_run ran, seen⟩

end Ticketing
