import Ticketing.Checkout.Serial
import Ticketing.Checkout.Shared

/-!
# Calls that release a hold

The points at which a release, or the timeout task that may call one, stands while it owns no
rows, and what one step does from each of them.

## Main Definitions

* `ReleaseCall` — the two calls
* `Proceeds` — a call that goes on to release: by itself, or after the clock reading of the task
* `Outside` — a call that owns no rows, at each point of its program

## Main Results

* `step_selectActiveHold` — its `SELECT FOR UPDATE` finds no ACTIVE hold, or locks the committed one
* `Outside.step` — a call without rows leaves the stores alone, or it locks the ACTIVE hold

## Design Notes

The task decides on a read without a lock and calls a function that looks again under the lock;
the hold it has read plays no part in what it does then.
-/

namespace Ticketing

open Transactional Program

/-- A call that may release a hold. -/
inductive ReleaseCall
  | releaseHoldByToken
  | releaseHoldOnPaymentTimeout
  deriving DecidableEq

/-- The program of a call. -/
def ReleaseCall.program : ReleaseCall → String → Checkout Unit
  | releaseHoldByToken, holdToken => Ticketing.releaseHoldByToken holdToken
  | releaseHoldOnPaymentTimeout, holdToken => Ticketing.releaseHoldOnPaymentTimeout holdToken

/-- A call that has returned or raised, and has no open transaction. -/
def Ended (thread : Thread signature CheckoutError Unit) : Prop :=
  thread.transaction = none ∧
    (thread.program = .done () ∨ ∃ error, thread.program = .raise error)

instance : DecidablePred Ended
  | ⟨.done (), none⟩ => .isTrue ⟨rfl, .inl rfl⟩
  | ⟨.raise error, none⟩ => .isTrue ⟨rfl, .inr ⟨error, rfl⟩⟩
  | ⟨.begin _, none⟩ => .isFalse fun ended => ended.2.elim nofun nofun
  | ⟨.commit _, none⟩ => .isFalse fun ended => ended.2.elim nofun nofun
  | ⟨.call _ _, none⟩ => .isFalse fun ended => ended.2.elim nofun nofun
  | ⟨_, some _⟩ => .isFalse fun ended => nomatch ended.1

/-! ## What a release leaves alone -/

section Outcome

variable {holdToken : String} {world after : World} {token : Uuid} {hold : CheckoutHold}

/-- A release that returns leaves no ACTIVE hold under its token. -/
theorem not_active_of_released (released : releaseOutcome holdToken world = (.returned (), after))
    (parsed : Uuid.parse holdToken = some token) (stored : after.db.holds.get token = some hold) :
    hold.status ≠ .active := by
  simp only [releaseOutcome, parsed] at released
  cases found : (world.db.holds.get token).filter (·.status = .active) with
  | none =>
      rw [found] at released
      cases released
      intro active
      simp [stored, active] at found
  | some hold' =>
      simp only [found, returnOutcome] at released
      split at released
      · cases released
      · split at released
        · cases released
        · cases released
          simp only [Database.giveBack, Table.get_set, if_true, Option.some.injEq] at stored
          rw [← stored]
          intro isActive
          cases isActive

/-- Without an ACTIVE hold a release returns and leaves everything alone. -/
theorem releaseOutcome_of_not_active (parsed : Uuid.parse holdToken = some token)
    (inactive : ∀ hold, world.db.holds.get token = some hold → hold.status ≠ .active) :
    releaseOutcome holdToken world = (.returned (), world) := by
  have found : (world.db.holds.get token).filter (·.status = .active) = none := by
    simpa [Option.filter_eq_none_iff] using inactive
  simp only [releaseOutcome, parsed, found]

/-- A release that raises leaves everything alone. -/
theorem unchanged_of_raised {error : CheckoutError}
    (raised : (releaseOutcome holdToken world).1 = .raised error) :
    (releaseOutcome holdToken world).2 = world := by
  revert raised
  unfold releaseOutcome
  cases Uuid.parse holdToken with
  | none => exact fun _ => rfl
  | some token =>
      simp only
      cases (world.db.holds.get token).filter (·.status = .active) with
      | none => exact fun _ => rfl
      | some hold =>
          simp only [returnOutcome]
          cases world.db.tiers.get hold.tierId with
          | none => exact fun _ => rfl
          | some tier =>
              simp only
              split_ifs with short
              · exact fun _ => rfl
              · intro raised
                cases raised

/-- What is done after the lock ends with its commit. -/
theorem returnStock_closes (holdToken : String) (token : Uuid) (hold : CheckoutHold) :
    (returnStock holdToken token hold >>= fun value => commit (done value)).Closes := by
  intro _ tier
  cases tier with
  | none => trivial
  | some tier => exact fun _ _ _ => ⟨(), rfl⟩

end Outcome

/-! ## Calls without rows -/

section Calls

variable (holdToken : String) (world : World)

/-- The clock has been read after the hold's expiry. -/
def FoundExpired (events : List (Event signature)) : Prop :=
  ∃ token hold readAt, Uuid.parse holdToken = some token ∧
    world.db.holds.get token = some hold ∧ ⟨.env .now, readAt⟩ ∈ events ∧ hold.expiresAt < readAt

/-- The call goes on to release the hold: by itself, or since it has found it expired. -/
def Proceeds (call : ReleaseCall) (events : List (Event signature)) : Prop :=
  call = .releaseHoldByToken ∨ FoundExpired holdToken world events

/-- A call without rows, by the point of its program.  `proceeds` says that it goes on to release
the hold, `settled` that the hold has been dealt with. -/
inductive Outside (proceeds settled : Prop) :
    Thread signature CheckoutError Unit → Prop
  | release (goesOn : proceeds) :
      Outside proceeds settled ⟨Ticketing.releaseHoldByToken holdToken, none⟩
  | timeout {token : Uuid} (parsed : Uuid.parse holdToken = some token) (early : ¬ proceeds) :
      Outside proceeds settled ⟨Ticketing.releaseHoldOnPaymentTimeout holdToken, none⟩
  /-- The hold has been read as ACTIVE, without a lock. -/
  | clock {token : Uuid} {hold : CheckoutHold} (parsed : Uuid.parse holdToken = some token)
      (stored : world.db.holds.get token = some hold) (early : ¬ proceeds) :
      Outside proceeds settled
        ⟨.call (S := signature) (.env .now) fun readAt =>
          if readAt > hold.expiresAt then Ticketing.releaseHoldByToken holdToken else pure (), none⟩
  | select {token : Uuid} {events : List (Event signature)}
      (parsed : Uuid.parse holdToken = some token) (goesOn : proceeds) :
      Outside proceeds settled
        ⟨.call (S := signature) (.sql (.selectActiveHoldForUpdate token)) fun found =>
          (match found with
            | none => pure ()
            | some hold => returnStock holdToken token hold) >>= fun value => commit (done value),
          some events⟩
  | ignore {events : List (Event signature)} (isSettled : settled) :
      Outside proceeds settled ⟨commit (done ()), some events⟩
  | ended (isSettled : proceeds → settled) : Outside proceeds settled ⟨done (), none⟩
  | raised {error : CheckoutError} {transaction : Option (List (Event signature))}
      (raises : (releaseOutcome holdToken world).1 = .raised error) :
      Outside proceeds settled ⟨raise error, transaction⟩

end Calls

section Steps

variable {holdToken : String} {world : World} {call : ReleaseCall}

theorem foundExpired_append {events : List (Event signature)} {event : Event signature} :
    FoundExpired holdToken world (events ++ [event]) ↔ FoundExpired holdToken world events ∨
      ∃ token hold readAt, Uuid.parse holdToken = some token ∧
        world.db.holds.get token = some hold ∧ event = ⟨.env .now, readAt⟩ ∧
        hold.expiresAt < readAt := by
  simp only [FoundExpired, List.mem_append, List.mem_singleton]
  constructor
  · rintro ⟨token, hold, readAt, parsed, stored, old | rfl, late⟩
    · exact .inl ⟨token, hold, readAt, parsed, stored, old, late⟩
    · exact .inr ⟨token, hold, readAt, parsed, stored, rfl, late⟩
  · rintro (⟨token, hold, readAt, parsed, stored, old, late⟩ |
      ⟨token, hold, readAt, parsed, stored, rfl, late⟩)
    · exact ⟨token, hold, readAt, parsed, stored, .inl old, late⟩
    · exact ⟨token, hold, readAt, parsed, stored, .inr rfl, late⟩

/-- Only a clock reading can make a call proceed. -/
theorem proceeds_append_sql {events : List (Event signature)} {stmt : SqlStmt} {answer : stmt.Res} :
    Proceeds holdToken world call (events ++ [⟨.sql stmt, answer⟩]) ↔
      Proceeds holdToken world call events := by
  rw [Proceeds, Proceeds, foundExpired_append]
  refine or_congr_right (or_iff_left ?_)
  rintro ⟨token, hold, readAt, -, -, same, -⟩
  cases same

/-- A clock reading makes it proceed if the hold has expired. -/
theorem proceeds_append_now {events : List (Event signature)} {token : Uuid} {hold : CheckoutHold}
    {readAt : Time} (parsed : Uuid.parse holdToken = some token)
    (stored : world.db.holds.get token = some hold) :
    Proceeds holdToken world call (events ++ [⟨.env .now, readAt⟩]) ↔
      Proceeds holdToken world call events ∨ hold.expiresAt < readAt := by
  rw [Proceeds, Proceeds, foundExpired_append, or_assoc]
  refine or_congr_right (or_congr_right ⟨?_, fun late =>
    ⟨token, hold, readAt, parsed, stored, rfl, late⟩⟩)
  rintro ⟨token', hold', readAt', parsed', stored', same, late⟩
  obtain rfl := Option.some.inj (parsed.symm.trans parsed')
  obtain rfl := Option.some.inj (stored.symm.trans stored')
  cases same
  exact late

theorem Proceeds.append {events : List (Event signature)}
    (goesOn : Proceeds holdToken world call events) (more : List (Event signature)) :
    Proceeds holdToken world call (events ++ more) :=
  goesOn.imp_right fun ⟨token, hold, readAt, parsed, stored, inside, late⟩ =>
    ⟨token, hold, readAt, parsed, stored, List.mem_append_left _ inside, late⟩

variable {ι : Type} [DecidableEq ι] {action : Action ι Input CheckoutError}
  {system system' : System signature ι (SharedWorld ι) CheckoutError Unit}

/-- **The `SELECT FOR UPDATE`** of a call without rows finds no ACTIVE hold, or it locks the one
that is committed. -/
theorem step_selectActiveHold {token : Uuid} {events : List (Event signature)}
    {next : Option CheckoutHold → Checkout Unit}
    (isAt : system.thread action.agent
      = ⟨.call (S := signature) (.sql (.selectActiveHoldForUpdate token)) next, some events⟩)
    (stepped : system.step (engine ι) action = some system') (unharmed : action.fault = none)
    (nothing : SharedWorld.own action.agent system.world = .nothing) :
    system'.log = system.log ∧ ∃ events',
      (system'.world = system.world ∧ system'.thread action.agent = ⟨next none, some events'⟩ ∧
        ∀ hold, system.world.db.holds.get token = some hold → hold.status ≠ .active) ∨
      ∃ hold holds, system.world.db.holds.get token = some hold ∧ hold.status = .active ∧
        system.world.holds.put action.agent token none = some holds ∧
        system'.world = { system.world with holds := holds } ∧
        system'.thread action.agent = ⟨next (some hold), some events'⟩ := by
  have reads := SharedWorld.read_of_nothing nothing token
  simp only [System.step, unharmed, isAt] at stepped
  have isSql : (engine ι).exec action.agent action.input (.sql (.selectActiveHoldForUpdate token))
      system.world
      = system.world.execSql action.agent action.input (.selectActiveHoldForUpdate token) := rfl
  rw [isSql] at stepped
  cases executed : system.world.execSql action.agent action.input
      (.selectActiveHoldForUpdate token) with
  | none => simp [executed] at stepped
  | some outcome =>
      cases outcome with
      | error error => cases SharedWorld.execSql_error executed
      | ok pair =>
          obtain ⟨answer, world'⟩ := pair
          simp only [executed] at stepped
          cases stepped
          refine ⟨rfl, events ++ [⟨.sql (.selectActiveHoldForUpdate token), answer⟩], ?_⟩
          cases executed_of_execSql executed with
          | @selectActiveHoldForUpdate _ _ holds locking =>
              rcases VersionedTable.lockWhere_eq_some locking with
                ⟨rfl, rfl⟩ | ⟨hold, locked, rfl, active, current, shows, granted⟩
              · -- no version that it can see is ACTIVE
                refine .inl ⟨rfl, System.setThread_self, fun hold stored active => ?_⟩
                have unseen := (VersionedTable.view_lockWhere locking).1
                rw [reads, stored, Option.filter_some, if_pos (decide_eq_true active)] at unseen
                cases unseen
              · have free : VersionedTable.own action.agent system.world.holds token = none :=
                  congrFun (congrArg Own.holds nothing) token
                have unwritten : locked.written = none :=
                  (shows.2.resolve_left fun held => by simp [free] at held).2
                have stored := shows.read_eq.trans current
                rw [reads] at stored
                rw [unwritten] at granted
                exact .inr ⟨hold, holds, stored, of_decide_eq_true active, granted, rfl,
                  System.setThread_self⟩

/-- **A call without rows** leaves the stores alone, or it locks the hold, which is ACTIVE. -/
theorem Outside.step {settled : Prop}
    (outside : Outside holdToken world
      (Proceeds holdToken world call (durable action.agent system.log)) settled
      (system.thread action.agent))
    (stepped : system.step (engine ι) action = some system') (unharmed : action.fault = none)
    (nothing : SharedWorld.own action.agent system.world = .nothing)
    (sameHold : ∀ token hold, Uuid.parse holdToken = some token →
      system.world.db.holds.get token = some hold → hold.status = .active →
        world.db.holds.get token = some hold)
    (settles : ∀ token, Uuid.parse holdToken = some token →
      (∀ hold, system.world.db.holds.get token = some hold → hold.status ≠ .active) → settled) :
    (∃ events : List (Event signature), system'.world = system.world ∧
      system'.log = system.log ++ events.map (action.agent, ·) ∧
      Outside holdToken world
        (Proceeds holdToken world call (durable action.agent system.log ++ events)) settled
        (system'.thread action.agent)) ∨
    ∃ token hold holds, ∃ events : List (Event signature), Uuid.parse holdToken = some token ∧
      system.world.db.holds.get token = some hold ∧ hold.status = .active ∧
      Proceeds holdToken world call (durable action.agent system.log) ∧
      system.world.holds.put action.agent token none = some holds ∧
      system'.world = { system.world with holds := holds } ∧ system'.log = system.log ∧
      system'.thread action.agent
        = ⟨returnStock holdToken token hold >>= fun value => commit (done value), some events⟩ := by
  obtain ⟨agent, input, fault⟩ := action
  obtain rfl : fault = none := unharmed
  simp only at outside nothing ⊢
  -- a step that makes `events` durable and changes nothing else
  have stays (events : List (Event signature)) {log : List (ι × Event signature)}
      {thread : Thread signature CheckoutError Unit} {world' : SharedWorld ι}
      (same : world' = system.world) (added : log = system.log ++ events.map (agent, ·))
      (still : Outside holdToken world
        (Proceeds holdToken world call (durable agent system.log ++ events)) settled thread) :
      ∃ events : List (Event signature), world' = system.world ∧
        log = system.log ++ events.map (agent, ·) ∧
        Outside holdToken world (Proceeds holdToken world call (durable agent system.log ++ events))
          settled ((system.setThread agent thread).thread agent) := by
    refine ⟨events, same, added, ?_⟩
    rw [System.setThread_self]
    exact still
  have noEvents : system.log = system.log ++ ([] : List (Event signature)).map (agent, ·) :=
    (List.append_nil _).symm
  generalize isAt : system.thread agent = thread at outside
  cases outside with
  | release goesOn =>
      simp only [System.step, isAt, Ticketing.releaseHoldByToken, atomic] at stepped
      cases stepped
      refine .inl (stays [] rfl noEvents ?_)
      rw [List.append_nil]
      cases parsed : Uuid.parse holdToken with
      | none =>
          have raises : (releaseOutcome holdToken world).1 = .raised (.invalidUuid holdToken) := by
            simp only [releaseOutcome, parsed]
          exact .raised raises
      | some token => exact .select parsed goesOn
  | @timeout token parsed early =>
      simp only [System.step, isAt, Ticketing.releaseHoldOnPaymentTimeout, parsed, sql, send,
        call_bind, done_bind] at stepped
      cases stepped
      refine .inl (stays [⟨.sql (.selectHold token), _⟩] (SharedWorld.commit_of_nothing nothing)
        rfl ?_)
      rw [proceeds_append_sql]
      cases found : system.world.holds.read agent token with
      | none => exact .ended fun goesOn => absurd goesOn early
      | some hold =>
          simp only
          split_ifs with active
          · rw [SharedWorld.read_of_nothing nothing] at found
            exact .clock parsed (sameHold token hold parsed found active) early
          · exact .ended fun goesOn => absurd goesOn early
  | @clock token hold parsed stored early =>
      simp only [System.step, isAt] at stepped
      cases stepped
      refine .inl (stays [⟨.env .now, input.now⟩] (SharedWorld.commit_of_nothing nothing) rfl ?_)
      rw [proceeds_append_now parsed stored]
      by_cases late : hold.expiresAt < input.now
      · simp only [EnvStmt.answer, gt_iff_lt, if_pos late]
        exact .release (.inr late)
      · simp only [EnvStmt.answer, gt_iff_lt, if_neg late]
        exact .ended fun goesOn => absurd goesOn (not_or.mpr ⟨early, late⟩)
  | @select token events parsed goesOn =>
      obtain ⟨log, events', found⟩ := step_selectActiveHold isAt stepped rfl nothing
      rcases found with ⟨world, thread, inactive⟩ |
        ⟨hold, holds, stored, active, granted, world, thread⟩
      · refine .inl ⟨[], world, log.trans noEvents, ?_⟩
        rw [thread]
        exact .ignore (settles token parsed inactive)
      · exact .inr ⟨token, hold, holds, events', parsed, stored, active, goesOn, granted, world,
          log, thread⟩
  | @ignore events isSettled =>
      simp only [System.step, isAt] at stepped
      cases stepped
      exact .inl (stays events (SharedWorld.commit_of_nothing nothing) rfl
        (.ended fun _ => isSettled))
  | ended isSettled =>
      simp only [System.step, isAt] at stepped
      cases stepped
  | @raised error transaction raises =>
      simp only [System.step, isAt] at stepped
      cases transaction with
      | none => cases stepped
      | some events =>
          cases stepped
          exact .inl (stays [] (SharedWorld.rollback_of_nothing nothing) noEvents
            (.raised raises))

end Steps

end Ticketing
