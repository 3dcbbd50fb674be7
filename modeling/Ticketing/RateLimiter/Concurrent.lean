import Ticketing.RateLimiter.Limiter
import Ticketing.Transactional.Interleaving

/-!
# Concurrent requests to the limiter

Any number of calls of `is_allowed` for one identifier, step by step and in any
order.

## Main Definitions

* `limiterEngine` — the cache as many clients share it
* `Stage` — how far a call has come
* `Attended` — whoever reads the counter below the limit has room after those about to write it
* `LimitInvariant` — the counter counts the calls let through

## Main Results

* `at_most_limit` — runs in which every read is attended let through at most the limit
* `limit_overrun` — two calls that read first and write later
-/

namespace Ticketing.RateLimiting

open Transactional

/-- The cache as many clients share it: every statement is visible at once. -/
def limiterEngine (ι : Type) : Engine signature ι Time Counters LimiterError where
  exec _ now stmt counters := some (cacheExec now stmt counters)
  commit _ counters := counters
  rollback _ counters := counters

/-- How far a call has come. -/
inductive Progress
  /-- The counter has not been read. -/
  | waiting
  /-- The counter was read as zero; the call is about to set it. -/
  | first
  /-- The counter was read as another value below the limit; the call is about to
  increment it. -/
  | counted
  /-- Let through. -/
  | admitted
  /-- Turned away, or ended by an exception. -/
  | refused

/-- About to write the counter. -/
def Progress.writes : Progress → Prop
  | .first | .counted => True
  | _ => False

/-- What is left of a call at each stage. -/
inductive Stage (limiter : RateLimiter) (identifier : String) :
    Progress → Limiter (Bool × ℤ) → Prop
  | start : Stage limiter identifier .waiting
      (.call (.get (limiter.key identifier)) (limiter.afterGet identifier))
  | set : Stage limiter identifier .first
      (.call (.set (limiter.key identifier) 1 limiter.windowSeconds) fun _ => .done (true, 1))
  | incr : Stage limiter identifier .counted
      (.call (.incr (limiter.key identifier)) fun newCount => .done (true, newCount))
  | admitted (newCount : ℤ) : Stage limiter identifier .admitted (.done (true, newCount))
  | refused (count : ℤ) : Stage limiter identifier .refused (.done (false, count))
  | failed (error : LimiterError) : Stage limiter identifier .refused (.raise error)

section Runs

variable {ι : Type} [DecidableEq ι] {limiter : RateLimiter} {identifier : String}
variable {system system' : System signature ι Counters LimiterError (Bool × ℤ)}

/-- The value of the counter. -/
def counter (limiter : RateLimiter) (identifier : String) (counters : Counters) : ℤ :=
  ((counters (limiter.key identifier)).map Prod.fst).getD 0

/-- The call of `agent` is about to set the counter to one. -/
def AboutToSet (limiter : RateLimiter) (identifier : String)
    (system : System signature ι Counters LimiterError (Bool × ℤ)) (agent : ι) : Prop :=
  (system.thread agent).program.nextStmt
    = some (.set (limiter.key identifier) 1 limiter.windowSeconds)

/-- The call of `agent` is about to write the counter. -/
def AboutToWrite (limiter : RateLimiter) (identifier : String)
    (system : System signature ι Counters LimiterError (Bool × ℤ)) (agent : ι) : Prop :=
  AboutToSet limiter identifier system agent ∨
    (system.thread agent).program.nextStmt = some (.incr (limiter.key identifier))

/-- The key does not expire during the run. -/
def WithinLifetime (limiter : RateLimiter) (identifier : String)
    (system : System signature ι Counters LimiterError (Bool × ℤ))
    (action : Action ι Time LimiterError) : Prop :=
  ∀ value expiry, system.world (limiter.key identifier) = some (value, expiry) →
    action.input < expiry

/-- The action reads a counter that is below the limit. -/
structure ReadsBelow (limiter : RateLimiter) (identifier : String)
    (system : System signature ι Counters LimiterError (Bool × ℤ))
    (action : Action ι Time LimiterError) : Prop where
  unharmed : action.fault = none
  reads : (system.thread action.agent).program.nextStmt = some (.get (limiter.key identifier))
  below : counter limiter identifier system.world < limiter.limit

/-- The key does not expire, and whenever a call reads the counter below the
limit, no other call is about to set it and there is still room when those about
to write it have done so. -/
structure Attended (limiter : RateLimiter) (identifier : String)
    (system : System signature ι Counters LimiterError (Bool × ℤ))
    (action : Action ι Time LimiterError) : Prop where
  alive : WithinLifetime limiter identifier system action
  unset : ReadsBelow limiter identifier system action →
    ∀ other, other ≠ action.agent → ¬ AboutToSet limiter identifier system other
  room : ReadsBelow limiter identifier system action → ∀ calls : Finset ι,
    (∀ other ∈ calls, other ≠ action.agent ∧ AboutToWrite limiter identifier system other) →
      counter limiter identifier system.world + calls.card < limiter.limit

/-- Every call let through has been counted, there is room for the calls about to
write, and one that is about to set the counter is the only one. -/
structure LimitInvariant (limiter : RateLimiter) (identifier : String) (progress : ι → Progress)
    (system : System signature ι Counters LimiterError (Bool × ℤ)) : Prop where
  stage : Staged (fun _ => Stage limiter identifier) progress system
  nonneg : 0 ≤ counter limiter identifier system.world
  zero : ∀ agent, progress agent = .first → counter limiter identifier system.world = 0
  nonzero : ∀ agent, progress agent = .counted → counter limiter identifier system.world ≠ 0
  alone : ∀ agent other, progress agent = .first → (progress other).writes → other = agent
  few : ∀ calls : Finset ι, (∀ agent ∈ calls, progress agent = .admitted) →
    (calls.card : ℤ) ≤ counter limiter identifier system.world
  within : ∀ agent, progress agent = .admitted →
    counter limiter identifier system.world ≤ limiter.limit
  room : ∀ calls : Finset ι, calls.Nonempty → (∀ agent ∈ calls, (progress agent).writes) →
    counter limiter identifier system.world + calls.card ≤ limiter.limit

namespace LimitInvariant

variable {progress : ι → Progress}

omit [DecidableEq ι] in
/-- A call about to write is about to set or about to increment. -/
theorem writes_iff {agent : ι} :
    (progress agent).writes ↔ progress agent = .first ∨ progress agent = .counted := by
  cases progress agent <;> simp [Progress.writes]

/-- Who stands where nobody has moved stood there before. -/
theorem stands_of_update {agent other : ι} {new stage : Progress}
    (stands : Function.update progress agent new other = stage) (different : stage ≠ new) :
    other ≠ agent ∧ progress other = stage := by
  by_cases isAgent : other = agent
  · subst isAgent
    rw [Function.update_self] at stands
    exact absurd stands.symm different
  · rw [Function.update_of_ne isAgent] at stands
    exact ⟨isAgent, stands⟩

/-- The same for those about to write. -/
theorem writes_of_update {agent other : ι} {new : Progress}
    (writes : (Function.update progress agent new other).writes) (quiet : ¬ new.writes) :
    other ≠ agent ∧ (progress other).writes := by
  have different : Function.update progress agent new other ≠ new :=
    fun same => quiet (same ▸ writes)
  obtain ⟨notAgent, stands⟩ := stands_of_update rfl different
  exact ⟨notAgent, stands ▸ writes⟩

/-- A call ends without being let through, and the counter stays. -/
theorem refuse (invariant : LimitInvariant limiter identifier progress system) {agent : ι}
    (others : ∀ other, other ≠ agent → system'.thread other = system.thread other)
    (stage : Stage limiter identifier .refused (system'.thread agent).program)
    (same : system'.world = system.world) :
    LimitInvariant limiter identifier (Function.update progress agent .refused) system' where
  stage := invariant.stage.update others stage
  nonneg := same ▸ invariant.nonneg
  zero other stands := same ▸ invariant.zero other (stands_of_update stands nofun).2
  nonzero other stands := same ▸ invariant.nonzero other (stands_of_update stands nofun).2
  alone first second stands writes :=
    invariant.alone first second (stands_of_update stands nofun).2 (writes_of_update writes id).2
  few calls admitted := same ▸ invariant.few calls fun other counted =>
    (stands_of_update (admitted other counted) nofun).2
  within other stands := same ▸ invariant.within other (stands_of_update stands nofun).2
  room calls nonempty writes := same ▸ invariant.room calls nonempty fun other counted =>
    (writes_of_update (writes other counted) id).2

/-- A call ends by an exception. -/
theorem fail (invariant : LimitInvariant limiter identifier progress system) {agent : ι}
    {error : LimiterError}
    (others : ∀ other, other ≠ agent → system'.thread other = system.thread other)
    (program : (system'.thread agent).program = .raise error)
    (same : system'.world = system.world) :
    LimitInvariant limiter identifier (Function.update progress agent .refused) system' := by
  have stage : Stage limiter identifier .refused (system'.thread agent).program := by
    rw [program]
    exact .failed error
  exact invariant.refuse others stage same

/-- A call has read the counter below the limit. -/
theorem proceed (invariant : LimitInvariant limiter identifier progress system) {agent : ι}
    {new : Progress} (others : ∀ other, other ≠ agent → system'.thread other = system.thread other)
    (stage : Stage limiter identifier new (system'.thread agent).program)
    (zero : new = .first → counter limiter identifier system.world = 0)
    (nonzero : new = .counted → counter limiter identifier system.world ≠ 0)
    (waits : new ≠ .admitted) (unset : ∀ other, other ≠ agent → progress other ≠ .first)
    (room : ∀ calls : Finset ι, (∀ other ∈ calls, other ≠ agent ∧ (progress other).writes) →
      counter limiter identifier system.world + calls.card < limiter.limit)
    (same : system'.world = system.world) :
    LimitInvariant limiter identifier (Function.update progress agent new) system' where
  stage := invariant.stage.update others stage
  nonneg := same ▸ invariant.nonneg
  zero other stands := by
    rw [same]
    by_cases isAgent : other = agent
    · subst isAgent
      rw [Function.update_self] at stands
      exact zero stands
    · rw [Function.update_of_ne isAgent] at stands
      exact invariant.zero other stands
  nonzero other stands := by
    rw [same]
    by_cases isAgent : other = agent
    · subst isAgent
      rw [Function.update_self] at stands
      exact nonzero stands
    · rw [Function.update_of_ne isAgent] at stands
      exact invariant.nonzero other stands
  alone first second stands writes := by
    by_cases isFirst : first = agent
    · subst isFirst
      rw [Function.update_self] at stands
      by_contra different
      rw [Function.update_of_ne different] at writes
      -- the other one read zero as well, or another value
      rcases writes_iff.mp writes with setting | counting
      · exact unset second different setting
      · exact invariant.nonzero second counting (zero stands)
    · rw [Function.update_of_ne isFirst] at stands
      exact absurd stands (unset first isFirst)
  few calls admitted := same ▸ invariant.few calls fun other counted =>
    (stands_of_update (admitted other counted) waits.symm).2
  within other stands := same ▸ invariant.within other (stands_of_update stands waits.symm).2
  room calls nonempty writes := by
    have fits := room (calls.erase agent) fun other counted => by
      have different := Finset.ne_of_mem_erase counted
      have still := writes other (Finset.mem_of_mem_erase counted)
      rw [Function.update_of_ne different] at still
      exact ⟨different, still⟩
    have sizes : calls.card - 1 ≤ (calls.erase agent).card := Finset.pred_card_le_card_erase
    rw [same]
    omega

/-- A call is let through: it has counted itself. -/
theorem afterGet (invariant : LimitInvariant limiter identifier progress system) {agent : ι}
    {newCount : ℤ} (writes : (progress agent).writes)
    (others : ∀ other, other ≠ agent → system'.thread other = system.thread other)
    (program : (system'.thread agent).program = .done (true, newCount))
    (written : counter limiter identifier system'.world
      = counter limiter identifier system.world + 1) :
    LimitInvariant limiter identifier (Function.update progress agent .admitted) system' := by
  have stage : Stage limiter identifier .admitted (system'.thread agent).program := by
    rw [program]
    exact .admitted newCount
  have nonneg := invariant.nonneg
  -- nobody else was about to set the counter
  have unset (other : ι) : Function.update progress agent .admitted other ≠ .first := by
    intro stands
    obtain ⟨different, stood⟩ := stands_of_update stands nofun
    exact different (invariant.alone other agent stood writes).symm
  refine ⟨invariant.stage.update others stage, by omega, fun other stands => ?_,
    fun _ _ => by omega, fun other _ stands => ?_, fun calls admitted => ?_, fun _ _ => ?_,
    fun calls _ pending => ?_⟩
  · exact absurd stands (unset other)
  · exact absurd stands (unset other)
  -- the others were counted before, this one has just counted itself
  · have before := invariant.few (calls.erase agent) fun other counted => by
      have isAdmitted := admitted other (Finset.mem_of_mem_erase counted)
      rwa [Function.update_of_ne (Finset.ne_of_mem_erase counted)] at isAdmitted
    have sizes : calls.card - 1 ≤ (calls.erase agent).card := Finset.pred_card_le_card_erase
    omega
  · have fits := invariant.room {agent} (Finset.singleton_nonempty agent) fun other isAgent =>
      Finset.mem_singleton.mp isAgent ▸ writes
    rw [Finset.card_singleton] at fits
    omega
  -- together with this one they had room before
  · have apart (other : ι) (counted : other ∈ calls) :=
      writes_of_update (pending other counted) id
    have notMem : agent ∉ calls := fun counted => (apart agent counted).1 rfl
    have fits := invariant.room (insert agent calls) (Finset.insert_nonempty agent calls)
      fun other counted => by
        rcases Finset.mem_insert.mp counted with rfl | counted
        · exact writes
        · exact (apart other counted).2
    rw [Finset.card_insert_of_notMem notMem] at fits
    omega

omit [DecidableEq ι] in
/-- A call that has read zero is about to set the counter. -/
theorem aboutToSet (invariant : LimitInvariant limiter identifier progress system) {agent : ι}
    (stands : progress agent = .first) : AboutToSet limiter identifier system agent := by
  have stage := invariant.stage agent
  rw [stands] at stage
  unfold AboutToSet
  generalize (system.thread agent).program = program at stage ⊢
  cases stage
  rfl

omit [DecidableEq ι] in
/-- A call that has read the counter below the limit is about to write it. -/
theorem aboutToWrite (invariant : LimitInvariant limiter identifier progress system) {agent : ι}
    (writes : (progress agent).writes) : AboutToWrite limiter identifier system agent := by
  rcases writes_iff.mp writes with setting | counting
  · exact .inl (invariant.aboutToSet setting)
  · refine .inr ?_
    have stage := invariant.stage agent
    rw [counting] at stage
    generalize (system.thread agent).program = program at stage ⊢
    cases stage
    rfl

/-- **One statement.** -/
theorem exec (invariant : LimitInvariant limiter identifier progress system)
    {action : Action ι Time LimiterError} {stmt : Stmt} {next : stmt.Res → Limiter (Bool × ℤ)}
    {answer : stmt.Res} {counters : Counters} {transaction : Option (List (Event signature))}
    (meets : Attended limiter identifier system action) (unharmed : action.fault = none)
    (located : system.thread action.agent = ⟨.call stmt next, transaction⟩)
    (result : (limiterEngine ι).exec action.agent action.input stmt system.world
      = some (.ok (answer, counters)))
    (others : ∀ other, other ≠ action.agent → system'.thread other = system.thread other)
    (program : (system'.thread action.agent).program = next answer)
    (world : system'.world = counters) :
    ∃ progress', LimitInvariant limiter identifier progress' system' := by
  have stage := invariant.stage action.agent
  rw [located] at stage
  have executed : cacheExec action.input stmt system.world = .ok (answer, counters) :=
    Option.some.inj result
  generalize stands : progress action.agent = current at stage
  cases stage with
  | start =>
      cases executed
      have read : (system.world.live action.input (limiter.key identifier)).getD 0
          = counter limiter identifier system.world := by
        cases entry : system.world (limiter.key identifier) with
        | none => simp [Cache.live, counter, entry]
        | some pair =>
            have live : system.world.live action.input (limiter.key identifier) = some pair.1 :=
              Cache.live_eq_some.mpr ⟨pair.2, entry, meets.alive pair.1 pair.2 entry⟩
            rw [live, counter, entry]
            rfl
      rw [RateLimiter.afterGet, read] at program
      -- the three ways on from the read: refused, about to set, about to count
      by_cases full : counter limiter identifier system.world ≥ limiter.limit
      · rw [if_pos full] at program
        have stage : Stage limiter identifier .refused (system'.thread action.agent).program := by
          rw [program]
          exact .refused _
        exact ⟨_, invariant.refuse others stage world⟩
      · rw [if_neg full] at program
        have reads : ReadsBelow limiter identifier system action :=
          ⟨unharmed, by rw [located]; rfl, not_le.mp full⟩
        have unset (other : ι) (different : other ≠ action.agent) : progress other ≠ .first :=
          fun setting => meets.unset reads other different (invariant.aboutToSet setting)
        have room (calls : Finset ι)
            (pending : ∀ other ∈ calls, other ≠ action.agent ∧ (progress other).writes) :
            counter limiter identifier system.world + calls.card < limiter.limit :=
          meets.room reads calls fun other counted =>
            (pending other counted).imp_right invariant.aboutToWrite
        by_cases zero : counter limiter identifier system.world = 0
        · rw [if_pos zero] at program
          have stage : Stage limiter identifier .first (system'.thread action.agent).program := by
            rw [program]
            exact .set
          exact ⟨_, invariant.proceed others stage (fun _ => zero) Progress.noConfusion
            Progress.noConfusion unset room world⟩
        · rw [if_neg zero] at program
          have stage : Stage limiter identifier .counted
              (system'.thread action.agent).program := by
            rw [program]
            exact .incr
          exact ⟨_, invariant.proceed others stage Progress.noConfusion (fun _ => zero)
            Progress.noConfusion unset room world⟩
  | set =>
      cases executed
      refine ⟨_, invariant.afterGet (writes_iff.mpr (.inl stands)) others program ?_⟩
      rw [invariant.zero _ stands]
      simp [counter, world]
  | incr =>
      have nonzero := invariant.nonzero _ stands
      cases entry : system.world (limiter.key identifier) with
      | none =>
          rw [counter, entry] at nonzero
          exact absurd rfl nonzero
      | some pair =>
          -- the entry is alive, so `incr` finds its key
          obtain ⟨value, expiry⟩ := pair
          simp only [cacheExec, entry, meets.alive value expiry entry, if_true] at executed
          cases executed
          refine ⟨_, invariant.afterGet (writes_iff.mpr (.inr stands)) others program ?_⟩
          simp [counter, world, entry]

/-- **One action keeps the invariant.** -/
theorem step (invariant : LimitInvariant limiter identifier progress system)
    {action : Action ι Time LimiterError} (meets : Attended limiter identifier system action)
    (step : Step (limiterEngine ι) system action system') :
    ∃ progress', LimitInvariant limiter identifier progress' system' := by
  have stage := invariant.stage action.agent
  cases step with
  | fault error located running cause =>
      exact ⟨_, invariant.fail System.setThread_of_ne
        (congrArg Thread.program System.setThread_self) rfl⟩
  | rollback located =>
      exact ⟨_, invariant.fail System.setThread_of_ne
        (congrArg Thread.program System.setThread_self) rfl⟩
  | begin located =>
      rw [located] at stage
      generalize progress action.agent = current at stage
      cases stage
  | commit located unharmed =>
      rw [located] at stage
      generalize progress action.agent = current at stage
      cases stage
  | auto located unharmed result =>
      exact invariant.exec meets unharmed located result System.setThread_of_ne
        (congrArg Thread.program System.setThread_self) rfl
  | stmt located unharmed result =>
      exact invariant.exec meets unharmed located result System.setThread_of_ne
        (congrArg Thread.program System.setThread_self) rfl

end LimitInvariant

/-- The call of `agent` returned allowed. -/
def Allowed (system : System signature ι Counters LimiterError (Bool × ℤ)) (agent : ι) : Prop :=
  ∃ count, (system.thread agent).program.result = some (true, count)

/-- Everybody about to call `is_allowed`. -/
def callsStart (limiter : RateLimiter) (identifier : String) (counters : Counters) :
    System signature ι Counters LimiterError (Bool × ℤ) :=
  .start counters fun _ => limiter.isAllowed identifier

omit [DecidableEq ι] in
theorem LimitInvariant.start {counters : Counters}
    (counting : 0 ≤ counter limiter identifier counters) :
    LimitInvariant limiter identifier (fun _ : ι => .waiting)
      (callsStart limiter identifier counters) where
  stage _ := .start
  nonneg := counting
  zero := nofun
  nonzero := nofun
  alone := nofun
  few calls admitted := by
    have none : calls = ∅ :=
      Finset.eq_empty_of_forall_notMem fun agent found => nomatch admitted agent found
    rw [none]
    exact counting
  within := nofun
  room calls nonempty writes := nonempty.elim fun agent found => (writes agent found).elim

omit [DecidableEq ι] in
/-- A call that returned allowed was let through. -/
theorem LimitInvariant.admitted {progress : ι → Progress}
    (invariant : LimitInvariant limiter identifier progress system) {agent : ι}
    (allowed : Allowed system agent) : progress agent = .admitted := by
  obtain ⟨count, returned⟩ := allowed
  have stage := invariant.stage agent
  generalize (system.thread agent).program = program at stage returned
  generalize progress agent = current at stage ⊢
  cases stage with
  | admitted newCount => rfl
  | refused count => cases returned
  | failed error => cases returned
  | _ => cases returned

/-- **The limit under concurrent requests.**  However many calls are made, and in
whatever order their statements are executed, at most `limit` of them return
allowed, as long as every read is attended. -/
theorem at_most_limit (limiter : RateLimiter) (identifier : String) (counters : Counters)
    (counting : 0 ≤ counter limiter identifier counters)
    {system : System signature ι Counters LimiterError (Bool × ℤ)}
    (reached : Reaches (limiterEngine ι) (Attended limiter identifier)
      (callsStart limiter identifier counters) system)
    (calls : Finset ι) (allowed : ∀ agent ∈ calls, Allowed system agent) :
    calls.card ≤ limiter.limit.toNat := by
  obtain ⟨progress, invariant⟩ := reached.invariant
    (fun system => ∃ progress, LimitInvariant limiter identifier progress system)
    ⟨_, .start counting⟩ fun ⟨_, invariant⟩ meets stepped =>
      invariant.step meets (System.step_sound stepped)
  have admitted (agent : ι) (found : agent ∈ calls) : progress agent = .admitted :=
    invariant.admitted (allowed agent found)
  rcases calls.eq_empty_or_nonempty with rfl | ⟨agent, found⟩
  · exact Nat.zero_le _
  · have counted := invariant.few calls admitted
    have within := invariant.within agent (admitted agent found)
    omega

end Runs

/-! ### Two requests at once -/

namespace Sample

/-- One request in a minute. -/
def strict : RateLimiter := ⟨"test", 1, 60⟩

/-- The next action of `agent`. -/
def turn (agent : Fin 2) : Action (Fin 2) Time LimiterError := ⟨agent, 0, none⟩

/-- The key is alive. -/
def withinLifetime (system : System signature (Fin 2) Counters LimiterError (Bool × ℤ))
    (action : Action (Fin 2) Time LimiterError) : Bool :=
  (system.world (strict.key "user-1")).all fun entry => action.input < entry.2

theorem withinLifetime_sound {system : System signature (Fin 2) Counters LimiterError (Bool × ℤ)}
    {action : Action (Fin 2) Time LimiterError} (passes : withinLifetime system action = true) :
    WithinLifetime strict "user-1" system action := by
  intro value expiry found
  rw [withinLifetime, found] at passes
  exact of_decide_eq_true passes

/-- A statement that writes. -/
def writing : Option Stmt → Bool
  | some (.set ..) | some (.incr _) => true
  | _ => false

/-- The same, and nobody else is about to write. -/
def attended (system : System signature (Fin 2) Counters LimiterError (Bool × ℤ))
    (action : Action (Fin 2) Time LimiterError) : Bool :=
  withinLifetime system action &&
    decide (∀ other, other ≠ action.agent → ¬ writing (system.thread other).program.nextStmt)

theorem attended_sound {system : System signature (Fin 2) Counters LimiterError (Bool × ℤ)}
    {action : Action (Fin 2) Time LimiterError} (passes : attended system action = true) :
    Attended strict "user-1" system action := by
  obtain ⟨alive, quiet⟩ := Bool.and_eq_true_iff.mp passes
  have nobody (other : Fin 2) (different : other ≠ action.agent) :
      ¬ AboutToWrite strict "user-1" system other := by
    intro writes
    have silent := of_decide_eq_true quiet other different
    rcases writes with setting | counting
    · rw [AboutToSet] at setting
      rw [setting] at silent
      exact silent rfl
    · rw [counting] at silent
      exact silent rfl
  refine ⟨withinLifetime_sound alive, fun _ other different setting =>
    nobody other different (.inl setting), fun reads calls pending => ?_⟩
  have none : calls = ∅ := Finset.eq_empty_of_forall_notMem fun other counted =>
    nobody other (pending other counted).1 (pending other counted).2
  have below := reads.below
  rw [none, Finset.card_empty]
  omega

/-- What the two calls have returned. -/
def answers (system : System signature (Fin 2) Counters LimiterError (Bool × ℤ)) :
    List (Option (Bool × ℤ)) :=
  (List.finRange 2).map fun agent => (system.thread agent).program.result

theorem answers_eq (system : System signature (Fin 2) Counters LimiterError (Bool × ℤ)) :
    answers system = [(system.thread 0).program.result, (system.thread 1).program.result] := rfl

end Sample

theorem at_most_limit_sample :
    ∃ system : System signature (Fin 2) Counters LimiterError (Bool × ℤ),
      Sample.answers system = [some (true, 1), some (false, 1)] ∧
        (({0} : Finset (Fin 2)).card ≤ 1) := by
  have executed : ((callsStart Sample.strict "user-1" Cache.empty).runWhile
      (limiterEngine (Fin 2)) Sample.attended [Sample.turn 0, Sample.turn 0, Sample.turn 1]).map
        Sample.answers = some [some (true, 1), some (false, 1)] := by
    decide +kernel
  obtain ⟨system, ran, seen⟩ := Option.map_eq_some_iff.mp executed
  refine ⟨system, seen, at_most_limit Sample.strict "user-1" Cache.empty le_rfl
    (reaches_of_runWhile (fun _ _ => Sample.attended_sound) ran) {0} fun agent isFirst => ?_⟩
  rw [Finset.mem_singleton.mp isFirst]
  simp only [Sample.answers_eq, List.cons.injEq] at seen
  exact ⟨1, seen.1⟩

/-- **Two for a limit of one.**  Two calls read the counter before either has
written it, and both return allowed. -/
theorem limit_overrun :
    ∃ (system : System signature (Fin 2) Counters LimiterError (Bool × ℤ)) (calls : Finset (Fin 2)),
      Reaches (limiterEngine (Fin 2)) (WithinLifetime Sample.strict "user-1")
        (callsStart Sample.strict "user-1" Cache.empty) system ∧
      (∀ agent ∈ calls, Allowed system agent) ∧ Sample.strict.limit.toNat < calls.card := by
  have executed : ((callsStart Sample.strict "user-1" Cache.empty).runWhile
      (limiterEngine (Fin 2)) Sample.withinLifetime
      [Sample.turn 0, Sample.turn 1, Sample.turn 0, Sample.turn 1]).map
        Sample.answers = some [some (true, 1), some (true, 1)] := by
    decide +kernel
  obtain ⟨system, ran, seen⟩ := Option.map_eq_some_iff.mp executed
  refine ⟨system, Finset.univ, reaches_of_runWhile (fun _ _ => Sample.withinLifetime_sound) ran,
    fun agent _ => ⟨1, ?_⟩, by decide⟩
  simp only [Sample.answers_eq, List.cons.injEq] at seen
  fin_cases agent
  · exact seen.1
  · exact seen.2.1

end Ticketing.RateLimiting
