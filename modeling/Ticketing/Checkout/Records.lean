import Ticketing.Checkout.LockOrder

/-!
# What a hold records

A hold is written once: who holds which tier, how many tickets and until when.  The hold
registry and the expiry queue each keep a copy of these columns.  What happens to a hold
later is a change of its status, and the counter of its tier is all that changes there.

## Main Definitions

* `HoldStatus.Becomes` — what saves can make of a status
* `Database.Evolves` — rows stay, and so do their columns but the status and the counter
* `Redis.Agrees` — the copies in Redis say what the row says
* `recording` — the contract of the calls that write these

## Main Results

* `Job.recording` — every call keeps the contract
-/

namespace Ticketing

open Transactional VersionedTable

/-! ## Rows -/

/-- What saves can make of a status: a release finds it ACTIVE, a sweep writes it blindly. -/
inductive HoldStatus.Becomes : HoldStatus → HoldStatus → Prop
  | same (status : HoldStatus) : Becomes status status
  | released : Becomes .active .released
  | expired (status : HoldStatus) : Becomes status .expired

theorem HoldStatus.Becomes.trans {first second third : HoldStatus}
    (before : first.Becomes second) (after : second.Becomes third) : first.Becomes third := by
  cases after with
  | same status => exact before
  | expired status => exact .expired first
  | released =>
      cases before with
      | same status => exact .released

/-- The tier without its counter. -/
def TicketTier.uncounted (tier : TicketTier) : TicketTier := { tier with quantityHeld := 0 }

/-- The same hold with a later status. -/
structure CheckoutHold.Advances (before after : CheckoutHold) : Prop where
  columns : after = { before with status := after.status }
  status : before.status.Becomes after.status

theorem CheckoutHold.Advances.refl (hold : CheckoutHold) : hold.Advances hold := ⟨rfl, .same _⟩

theorem CheckoutHold.Advances.trans {first second third : CheckoutHold}
    (before : first.Advances second) (after : second.Advances third) : first.Advances third where
  columns := by rw [after.columns, before.columns]
  status := before.status.trans after.status

/-- Saving a status it can become. -/
theorem CheckoutHold.Advances.save (hold : CheckoutHold) {status : HoldStatus}
    (becomes : hold.status.Becomes status) : hold.Advances { hold with status } := ⟨rfl, becomes⟩

/-- No tier appears, goes or changes but for its counter; no hold goes or changes but for
its status. -/
structure Database.Evolves (before after : Database) : Prop where
  tiers : ∀ id, (after.tiers.get id).map TicketTier.uncounted
    = (before.tiers.get id).map TicketTier.uncounted
  holds : ∀ token hold, before.holds.get token = some hold →
    ∃ hold', after.holds.get token = some hold' ∧ hold.Advances hold'

namespace Database.Evolves

theorem refl (db : Database) : db.Evolves db :=
  ⟨fun _ => rfl, fun _ hold stored => ⟨hold, stored, .refl hold⟩⟩

theorem trans {first second third : Database} (before : first.Evolves second)
    (after : second.Evolves third) : first.Evolves third where
  tiers id := (after.tiers id).trans (before.tiers id)
  holds token hold stored := by
    obtain ⟨hold', stored', advances⟩ := before.holds token hold stored
    obtain ⟨hold'', stored'', advances'⟩ := after.holds token hold' stored'
    exact ⟨hold'', stored'', advances.trans advances'⟩

end Database.Evolves

/-! ## Copies -/

/-- The entry names the tier of the hold, in any spelling, and repeats its other columns. -/
structure HoldEntry.Describes (entry : HoldEntry) (hold : CheckoutHold) : Prop where
  tierId : Uuid.parse entry.tierId = some hold.tierId
  quantity : entry.quantity = hold.quantity
  expiresAt : entry.expiresAt = hold.expiresAt
  userId : entry.userId = hold.user.str

namespace Redis

/-- Every registry entry under the token describes the hold. -/
def Registers (redis : Redis) (token : Uuid) (hold : CheckoutHold) : Prop :=
  ∀ entry dies, redis.registry token.str = some (entry, dies) → entry.Describes hold

/-- The token is queued for no other instant than the end of the hold. -/
def Queues (redis : Redis) (token : Uuid) (hold : CheckoutHold) : Prop :=
  ∀ score, (token.str, score) ∈ redis.expiryZset.entries → score = hold.expiresAt

/-- What Redis has under the token is what the hold says. -/
structure Agrees (redis : Redis) (token : Uuid) (hold : CheckoutHold) : Prop where
  registers : redis.Registers token hold
  queues : redis.Queues token hold

/-- No copy has been added or changed. -/
structure Shrinks (before after : Redis) : Prop where
  registry : ∀ text, after.registry text = none ∨ after.registry text = before.registry text
  queue : ∀ entry ∈ after.expiryZset.entries, entry ∈ before.expiryZset.entries

theorem Shrinks.refl (redis : Redis) : redis.Shrinks redis :=
  ⟨fun _ => .inr rfl, fun _ queued => queued⟩

section Copies

variable {redis redis' : Redis} {token : Uuid} {hold hold' : CheckoutHold}

theorem Registers.shrink (registers : redis.Registers token hold)
    (shrinks : redis.Shrinks redis') : redis'.Registers token hold := by
  intro entry dies found
  rcases shrinks.registry token.str with gone | same
  · rw [gone] at found
    cases found
  · exact registers entry dies (same ▸ found)

theorem Queues.shrink (queues : redis.Queues token hold) (shrinks : redis.Shrinks redis') :
    redis'.Queues token hold :=
  fun score queued => queues score (shrinks.queue _ queued)

theorem Registers.advance (registers : redis.Registers token hold)
    (columns : hold' = { hold with status := hold'.status }) : redis.Registers token hold' := by
  intro entry dies found
  have describes := registers entry dies found
  rw [columns]
  exact ⟨describes.tierId, describes.quantity, describes.expiresAt, describes.userId⟩

theorem Queues.advance (queues : redis.Queues token hold)
    (columns : hold' = { hold with status := hold'.status }) : redis.Queues token hold' := by
  intro score queued
  rw [columns]
  exact queues score queued

theorem Agrees.advance (agrees : redis.Agrees token hold) (advances : hold.Advances hold') :
    redis.Agrees token hold' :=
  ⟨agrees.registers.advance advances.columns, agrees.queues.advance advances.columns⟩

end Copies

/-- The statements that add a copy. -/
def adds : RedisStmt → Option String
  | .setHold token _ _ => some token
  | .zadd token _ => some token
  | _ => none

theorem shrinks_exec {input : Input} {stmt : RedisStmt} (redis : Redis) (none : adds stmt = none) :
    redis.Shrinks (redis.exec input stmt).2 := by
  cases stmt with
  | setHold token entry ttl => cases none
  | zadd token score => cases none
  | deleteHold token =>
      refine ⟨fun text => ?_, fun entry queued => queued⟩
      by_cases same : text = token
      · subst same
        exact .inl (Function.update_self ..)
      · exact .inr (Function.update_of_ne same ..)
  | deleteAvailability tierId => exact ⟨fun text => .inr rfl, fun entry queued => queued⟩
  | zrem token =>
      exact ⟨fun text => .inr rfl, fun entry queued => (SortedSet.mem_remove.mp queued).2⟩
  | zpop now =>
      exact ⟨fun text => .inr rfl, fun entry queued =>
        (SortedSet.mem_removeRangeByScore.mp queued).1⟩

theorem registry_setHold (redis : Redis) (input : Input) (token : String) (entry : HoldEntry)
    (ttl : ℤ) : (redis.exec input (.setHold token entry ttl)).2.registry
      = Function.update redis.registry token (some (entry, input.now + ttl * second)) := rfl

theorem queue_setHold (redis : Redis) (input : Input) (token : String) (entry : HoldEntry)
    (ttl : ℤ) : (redis.exec input (.setHold token entry ttl)).2.expiryZset
      = redis.expiryZset := rfl

theorem registry_zadd (redis : Redis) (input : Input) (token : String) (score : Time) :
    (redis.exec input (.zadd token score)).2.registry = redis.registry := rfl

theorem queue_zadd (redis : Redis) (input : Input) (token : String) (score : Time) :
    (redis.exec input (.zadd token score)).2.expiryZset = redis.expiryZset.add token score := rfl

end Redis

/-! ## The contract -/

/-- The token whose registry entry a statement writes. -/
def Stmt.enters : Stmt → Option String
  | .redis (.setHold text _ _) => some text
  | _ => none

/-- The token that a statement puts into the expiry queue. -/
def Stmt.enqueues : Stmt → Option String
  | .redis (.zadd text _) => some text
  | _ => none

/-- One of the statements has written a registry entry for the token. -/
def Entered (events : List (Event signature)) (token : Uuid) : Prop :=
  ∃ event ∈ events, event.stmt.enters = some token.str

/-- One of the statements has put the token into the expiry queue. -/
def Enqueued (events : List (Event signature)) (token : Uuid) : Prop :=
  ∃ event ∈ events, event.stmt.enqueues = some token.str

@[simp] theorem entered_append {events more : List (Event signature)} {token : Uuid} :
    Entered (events ++ more) token ↔ Entered events token ∨ Entered more token := by
  simp only [Entered, List.mem_append, or_and_right, exists_or]

@[simp] theorem enqueued_append {events more : List (Event signature)} {token : Uuid} :
    Enqueued (events ++ more) token ↔ Enqueued events token ∨ Enqueued more token := by
  simp only [Enqueued, List.mem_append, or_and_right, exists_or]

@[simp] theorem entered_singleton {event : Event signature} {token : Uuid} :
    Entered [event] token ↔ event.stmt.enters = some token.str := by
  simp only [Entered, List.mem_singleton, exists_eq_left]

@[simp] theorem enqueued_singleton {event : Event signature} {token : Uuid} :
    Enqueued [event] token ↔ event.stmt.enqueues = some token.str := by
  simp only [Enqueued, List.mem_singleton, exists_eq_left]

theorem not_entered_nil (token : Uuid) : ¬ Entered [] token := by
  rintro ⟨event, found, -⟩
  cases found

theorem not_enqueued_nil (token : Uuid) : ¬ Enqueued [] token := by
  rintro ⟨event, found, -⟩
  cases found

/-- In front of a statement: a copy is written of a row that is being inserted, and the row
is inserted before its copies are written. -/
def Copying (events : List (Event signature)) : Stmt → Own → Prop
  | .redis (.setHold text entry _), own => ∃ token hold, text = token.str ∧
      own.holds token = some ⟨none, some hold⟩ ∧ entry.Describes hold
  | .redis (.zadd text score), own => ∃ token hold, text = token.str ∧
      own.holds token = some ⟨none, some hold⟩ ∧ score = hold.expiresAt
  | .sql (.insertHold token ..), _ => ¬ Entered events token ∧ ¬ Enqueued events token
  | _, _ => True

/-- What a commit publishes: counters of tiers, later statuses of holds, and new holds of
which both copies have been written. -/
structure Recorded (events : List (Event signature)) (own : Own) : Prop where
  tiers : ∀ id locked version, own.tiers id = some locked → locked.written = some version →
    locked.committed.map TicketTier.uncounted = some version.uncounted
  holds : ∀ token locked version, own.holds token = some locked → locked.written = some version →
    locked.committed = none ∧ Entered events token ∧ Enqueued events token ∨
      ∃ hold, locked.committed = some hold ∧ hold.Advances version

/-- Copies are written of rows being inserted, and commits publish what `Recorded` allows. -/
def recording : Contract signature Own where
  Local := Moves .any
  Pre events stmt own := Copying events stmt own
  Post _ events own := Recorded events own
  Unfinished _ := True

namespace Recorded

theorem of_unwritten {events : List (Event signature)} {own : Own} (unwritten : own.Unwritten) :
    Recorded events own where
  tiers id locked version owned written := by
    rw [unwritten.tiers id locked owned] at written
    cases written
  holds token locked version owned written := by
    rw [unwritten.holds token locked owned] at written
    cases written

theorem nothing (events : List (Event signature)) : Recorded events .nothing :=
  of_unwritten Own.nothing_unwritten

/-- One tier at most has been written, and its counter alone. -/
theorem of_counter {events : List (Event signature)} {own : Own} {id : Uuid} {tier : TicketTier}
    {quantityHeld : ℕ}
    (tiersOwn : own.tiers = single id ⟨some tier, some { tier with quantityHeld }⟩)
    (holds : ∀ token locked version, own.holds token = some locked →
      locked.written = some version →
      locked.committed = none ∧ Entered events token ∧ Enqueued events token ∨
        ∃ hold, locked.committed = some hold ∧ hold.Advances version) : Recorded events own where
  tiers other locked version owned written := by
    rw [tiersOwn] at owned
    obtain ⟨-, rfl⟩ := eq_of_single owned
    obtain rfl := Option.some.inj written
    rfl
  holds := holds

/-- One hold has been written, and a status that it can become. -/
theorem holds_of_status {events : List (Event signature)} {own : Own} {token : Uuid}
    {hold : CheckoutHold} {status : HoldStatus} (becomes : hold.status.Becomes status)
    (holdsOwn : own.holds = single token ⟨some hold, some { hold with status }⟩)
    (other : Uuid) (locked : LockedRow CheckoutHold) (version : CheckoutHold)
    (owned : own.holds other = some locked) (written : locked.written = some version) :
    locked.committed = none ∧ Entered events other ∧ Enqueued events other ∨
      ∃ hold, locked.committed = some hold ∧ hold.Advances version := by
  rw [holdsOwn] at owned
  obtain ⟨-, rfl⟩ := eq_of_single owned
  obtain rfl := Option.some.inj written
  exact .inr ⟨hold, rfl, .save hold becomes⟩

theorem of_status {events : List (Event signature)} {own : Own} {token : Uuid}
    {hold : CheckoutHold} {status : HoldStatus} (becomes : hold.status.Becomes status)
    (tiersOwn : own.tiers = fun _ => none)
    (holdsOwn : own.holds = single token ⟨some hold, some { hold with status }⟩) :
    Recorded events own where
  tiers id locked version owned := by
    rw [tiersOwn] at owned
    cases owned
  holds := holds_of_status becomes holdsOwn

end Recorded

section Programs

theorem placeHold_recording {user id : Uuid} {tierId : String} {tier : TicketTier} {quantity : ℤ}
    {events : List (Event signature)} (named : Uuid.parse tierId = some id)
    (uncopied : ∀ token, ¬ Entered events token ∧ ¬ Enqueued events token) :
    (placeHold user tierId id tier quantity >>= fun value =>
        Program.commit (Program.done value)).Safe .nothing recording [] (some events)
      ⟨single id ⟨some tier, none⟩, fun _ => none⟩ := by
  simp only [placeHold, now, uuid4, sql, redis, registerHold, pushHoldExpiry,
    invalidateAvailability, Program.send, Program.call_bind, Program.done_bind]
  refine ⟨trivial, trivial, ?_⟩
  rintro readAt own rfl
  refine ⟨trivial, trivial, ?_⟩
  rintro token own rfl
  refine ⟨trivial, ?_, ?_⟩
  · change ¬ Entered _ token ∧ ¬ Enqueued _ token
    simpa only [entered_append, enqueued_append, entered_singleton, enqueued_singleton,
      Stmt.enters, Stmt.enqueues, reduceCtorEq, or_false] using uncopied token
  rintro hold own ⟨nonneg, rfl, rfl⟩
  refine ⟨trivial, trivial, ?_⟩
  rintro answer own (⟨-, -, absent⟩ | ⟨row, locked, sees, current, -, -, rfl⟩)
  · cases absent _ (single_self ..)
  obtain rfl := sees.eq (single_self ..)
  cases current
  refine ⟨trivial, trivial, ?_⟩
  rintro registeredAt own rfl
  refine ⟨trivial, ⟨token, _, rfl, Function.update_self .., named, ?_, rfl, rfl⟩, ?_⟩
  · exact (Int.toNat_of_nonneg nonneg).symm
  rintro registered own rfl
  refine ⟨trivial, ⟨token, _, rfl, Function.update_self .., rfl⟩, ?_⟩
  rintro pushed own rfl
  refine ⟨trivial, trivial, ?_⟩
  rintro invalidated own rfl
  refine ⟨trivial, .of_counter (update_single ..) fun other locked version owned written => ?_,
    trivial⟩
  rw [update_none] at owned
  obtain ⟨rfl, rfl⟩ := eq_of_single owned
  refine .inl ⟨rfl, ?_, ?_⟩
  · simp only [Option.getD_some, entered_append, entered_singleton, Stmt.enters, true_or, or_true]
  · simp only [Option.getD_some, enqueued_append, enqueued_singleton, Stmt.enqueues, true_or,
      or_true]

theorem createHold_recording (user : Uuid) (tierId : String) (quantity : ℤ) :
    (createHold user tierId quantity).Safe .nothing recording [] none .nothing := by
  unfold createHold Program.atomic
  refine ⟨trivial, ?_⟩
  cases named : Uuid.parse tierId with
  | none => trivial
  | some id =>
      simp only [sql, Program.send, Program.call_bind, Program.done_bind]
      refine ⟨trivial, trivial, ?_⟩
      rintro answer own (⟨rfl, rfl⟩ | ⟨tier, locked, rfl, sees, current, rfl⟩)
      · trivial
      obtain rfl := sees.committed rfl current
      simp only [Program.call_bind]
      refine ⟨trivial, trivial, ?_⟩
      rintro (count : ℕ) own rfl
      beta_reduce
      split
      · trivial
      · split
        · trivial
        · refine placeHold_recording named fun token => ?_
          simp only [entered_append, enqueued_append, entered_singleton, enqueued_singleton,
            Stmt.enters, Stmt.enqueues, reduceCtorEq, or_false]
          exact ⟨not_entered_nil token, not_enqueued_nil token⟩

theorem releaseHoldByToken_recording (holdToken : String) (history : List (Event signature)) :
    (releaseHoldByToken holdToken).Safe .nothing recording history none .nothing := by
  unfold releaseHoldByToken Program.atomic
  refine ⟨trivial, ?_⟩
  cases Uuid.parse holdToken with
  | none => trivial
  | some token =>
      simp only [sql, Program.send, Program.call_bind, Program.done_bind]
      refine ⟨trivial, trivial, ?_⟩
      rintro answer own (⟨rfl, rfl⟩ | ⟨hold, locked, rfl, active, sees, current, rfl⟩)
      · exact ⟨trivial, .nothing _, trivial⟩
      obtain rfl := sees.committed rfl current
      simp only [returnStock, sql, redis, releaseHold, invalidateAvailability, Program.send,
        Program.call_bind, Program.done_bind]
      refine ⟨trivial, trivial, ?_⟩
      rintro saved own ⟨row, locked, sees, current, -, rfl⟩
      obtain rfl := sees.eq (Function.update_self ..)
      cases current
      refine ⟨trivial, trivial, ?_⟩
      rintro (loaded : Option TicketTier) own rfl
      cases loaded with
      | none => trivial
      | some copy =>
          simp only [Program.call_bind, Program.done_bind]
          refine ⟨trivial, trivial, ?_⟩
          have becomes : hold.status.Becomes .released := active ▸ .released
          rintro updated own (⟨rfl, -, -⟩ | ⟨tier, locked, sees, current, -, -, rfl⟩)
          · refine ⟨trivial, trivial, ?_⟩
            rintro dropped own rfl
            refine ⟨trivial, trivial, ?_⟩
            rintro invalidated own rfl
            refine ⟨trivial, @Recorded.of_status _ _ token _ _ becomes rfl ?_, trivial⟩
            exact Function.update_idem ..
          · obtain rfl := sees.committed rfl current
            refine ⟨trivial, trivial, ?_⟩
            rintro dropped own rfl
            refine ⟨trivial, trivial, ?_⟩
            rintro invalidated own rfl
            refine ⟨trivial, .of_counter (update_none ..)
              (@Recorded.holds_of_status _ _ token _ _ becomes ?_), trivial⟩
            exact Function.update_idem ..

theorem releaseHoldOnPaymentTimeout_recording (holdToken : String) :
    (releaseHoldOnPaymentTimeout holdToken).Safe .nothing recording [] none .nothing := by
  unfold releaseHoldOnPaymentTimeout
  cases Uuid.parse holdToken with
  | none => trivial
  | some token =>
      simp only [sql, now, Program.send, Program.call_bind, Program.done_bind]
      refine ⟨trivial, trivial, ?_⟩
      rintro (found : Option CheckoutHold) own rfl
      refine ⟨.nothing _, ?_⟩
      cases found with
      | none => trivial
      | some hold =>
          beta_reduce
          simp only
          split
          · refine ⟨trivial, trivial, ?_⟩
            rintro (readAt : Time) own rfl
            refine ⟨.nothing _, ?_⟩
            beta_reduce
            split
            · exact releaseHoldByToken_recording ..
            · trivial
          · trivial

theorem sweepLoop_recording (rows : List SweepRow) (expiredCount : ℕ)
    (history : List (Event signature)) :
    (sweepLoop rows expiredCount).Safe .nothing recording history none .nothing := by
  induction rows generalizing expiredCount history with
  | nil => trivial
  | cons row rest ih =>
      obtain ⟨token, hold, tier⟩ := row
      simp only [sweepLoop, sql, redis, releaseHold, invalidateAvailability, Program.send,
        Program.call_bind, Program.done_bind]
      refine ⟨trivial, trivial, ?_⟩
      rintro saved own ⟨row, locked, sees, current, -, rfl⟩
      obtain rfl := sees.committed rfl current
      refine ⟨Recorded.of_status (.expired _) rfl (update_none ..), trivial, trivial, ?_⟩
      rintro updated own moved
      refine ⟨?_, trivial, trivial, ?_⟩
      · rcases moved with ⟨rfl, -, -⟩ | ⟨tier, locked, sees, current, -, -, rfl⟩
        · exact .nothing _
        · obtain rfl := sees.committed rfl current
          exact .of_counter (update_none ..) fun _ _ _ owned => by cases owned
      rintro dropped own rfl
      refine ⟨.nothing _, trivial, trivial, ?_⟩
      rintro invalidated own rfl
      exact ⟨.nothing _, ih _ _⟩

theorem sweepExpiredHolds_recording :
    sweepExpiredHolds.Safe .nothing recording [] none .nothing := by
  simp only [sweepExpiredHolds, popExpiredHolds, now, redis, sql, Program.send, Program.call_bind,
    Program.done_bind]
  refine ⟨trivial, trivial, ?_⟩
  rintro readAt own rfl
  refine ⟨.nothing _, trivial, trivial, ?_⟩
  rintro (expiredTokens : List String) own rfl
  refine ⟨.nothing _, ?_⟩
  beta_reduce
  split
  · trivial
  · cases expiredTokens.mapM Uuid.parse with
    | none => trivial
    | some tokens =>
        refine ⟨trivial, trivial, ?_⟩
        rintro rows own rfl
        exact ⟨.nothing _, sweepLoop_recording _ _ _⟩

/-- **Every job records what it writes.** -/
theorem Job.recording (job : Job) :
    job.program.Safe .nothing Ticketing.recording [] none .nothing := by
  cases job with
  | sweepExpiredHolds => exact sweepExpiredHolds_recording.discard
  | request call =>
      cases call with
      | createHold user tierId quantity =>
          exact (createHold_recording user tierId quantity).discard
      | releaseHoldByToken holdToken => exact releaseHoldByToken_recording ..
      | releaseHoldOnPaymentTimeout holdToken =>
          exact releaseHoldOnPaymentTimeout_recording holdToken

end Programs

end Ticketing
