import Ticketing.Checkout.Shared
import Ticketing.Checkout.Serial

/-!
# The expiry queue

`checkout/expiry_heap.py` with any number of workers, each making any sequence of calls.

## Main Definitions

* `QueueCall`, `worker` — a call of one of the three functions, and a worker that makes
  several of them
* `Sends`, `Stands` — what a finished call has sent and returned, and where a worker stands
* `queuedScore` — the score of a queued token, told from the statements executed so far
* `QueueInvariant` — the sorted set agrees with them, and so does every pop

## Main Results

* `queueInvariant_of_reaches` — the invariant holds in every run of any workers
* `expiry_queue_exact` — no token is lost and none is returned twice

## Design Notes

A score is an integer; only its order and its sign matter.  `pop_expired_holds` reads the
clock before it sends its pipeline, and other workers may get in between: what it returns
is what is due at its reading when the pipeline is executed.
-/

namespace Ticketing

open Transactional

/-- A call of the expiry queue. -/
inductive QueueCall
  | pushHoldExpiry (holdToken : String) (expiresAt : Time)
  | popExpiredHolds
  | removeFromExpirySet (holdToken : String)

/-- What a call returns: `None`, or the tokens of a pop. -/
abbrev QueueAnswer := Option (List String)

/-- The program a call runs. -/
def QueueCall.program : QueueCall → Checkout QueueAnswer
  | .pushHoldExpiry holdToken expiresAt => do
    Ticketing.pushHoldExpiry holdToken expiresAt
    return none
  | .popExpiredHolds => do return some (← Ticketing.popExpiredHolds)
  | .removeFromExpirySet holdToken => do
    Ticketing.removeFromExpirySet holdToken
    return none

/-- A worker makes its calls one after another; it returns the calls it has made, each with
what it returned. -/
def worker : List QueueCall → List (QueueCall × QueueAnswer) →
    Checkout (List (QueueCall × QueueAnswer))
  | [], made => return made
  | call :: rest, made => do
    let returned ← call.program
    worker rest (made ++ [(call, returned)])

/-- No token is pushed with a negative score. -/
def NonNegative (calls : List QueueCall) : Prop :=
  ∀ holdToken expiresAt, .pushHoldExpiry holdToken expiresAt ∈ calls → 0 ≤ expiresAt

/-! ## What a worker sends, and what its calls return -/

/-- The statements that a finished call has sent, and what it has returned: a pop returns what
its own pipeline was answered. -/
inductive Sends : QueueCall → QueueAnswer → List (Event signature) → Prop
  | pushHoldExpiry (holdToken : String) (expiresAt : Time) :
      Sends (.pushHoldExpiry holdToken expiresAt) none
        [⟨.redis (.zadd holdToken expiresAt), ()⟩]
  | popExpiredHolds (now : Time) (returned : List String) :
      Sends .popExpiredHolds (some returned)
        [⟨.env .now, now⟩, ⟨.redis (.zpop now), returned⟩]
  | removeFromExpirySet (holdToken : String) :
      Sends (.removeFromExpirySet holdToken) none [⟨.redis (.zrem holdToken), ()⟩]

/-- The calls of a worker, one after another, have sent the statements of its history. -/
inductive Sent : List (QueueCall × QueueAnswer) → List (Event signature) → Prop
  | nil : Sent [] []
  | call {made : List (QueueCall × QueueAnswer)} {history events : List (Event signature)}
      {call : QueueCall} {returned : QueueAnswer} (before : Sent made history)
      (sends : Sends call returned events) : Sent (made ++ [(call, returned)]) (history ++ events)

/-- What a worker has left that has made the calls of `made`: the further calls, the statements
it has sent of the first of them, and its program.  `cut` says which exceptions from outside
may have hit it. -/
inductive Left (cut : CheckoutError → Prop) (made : List (QueueCall × QueueAnswer)) :
    List QueueCall → List (Event signature) → Checkout (List (QueueCall × QueueAnswer)) → Prop
  /-- It is about to make the next call, or has returned. -/
  | between (rest : List QueueCall) : Left cut made rest [] (worker rest made)
  /-- It is in a pop that has read the clock. -/
  | popping (now : Time) (later : List QueueCall) :
      Left cut made (.popExpiredHolds :: later) [⟨.env .now, now⟩]
        (.call (.redis (.zpop now)) fun returned =>
          worker later (made ++ [(.popExpiredHolds, some returned)]))
  /-- An exception from outside has ended it. -/
  | raised {rest : List QueueCall} {current : List (Event signature)}
      {program : Checkout (List (QueueCall × QueueAnswer))} {error : CheckoutError}
      (hit : cut error) (inside : Left cut made rest current program) :
      Left cut made rest current (.raise error)

/-- Where a worker stands that has executed `history`: some of its calls are finished, and
have sent and returned what they should; `program` is what is left. -/
def Stands (cut : CheckoutError → Prop) (calls : List QueueCall)
    (history : List (Event signature)) (program : Checkout (List (QueueCall × QueueAnswer))) :
    Prop :=
  ∃ made rest earlier current, calls = made.map Prod.fst ++ rest ∧ Sent made earlier ∧
    history = earlier ++ current ∧ Left cut made rest current program

/-- Scores are not negative, and a pop comes right after the clock reading it uses. -/
def QueueStmt (history : List (Event signature)) : Stmt → Prop
  | .redis (.zadd _ score) => 0 ≤ score
  | .redis (.zpop now) => ∃ earlier, history = earlier ++ [⟨.env .now, now⟩]
  | _ => True

section Worker

variable {cut : CheckoutError → Prop}
variable {calls rest : List QueueCall} {made : List (QueueCall × QueueAnswer)}
  {history current : List (Event signature)}
  {program : Checkout (List (QueueCall × QueueAnswer))}

/-- One more call is finished. -/
theorem Stands.finish {call : QueueCall} {later : List QueueCall} {returned : QueueAnswer}
    {earlier events : List (Event signature)}
    (split : calls = made.map Prod.fst ++ call :: later) (sent : Sent made earlier)
    (sends : Sends call returned events) :
    Stands cut calls (earlier ++ events) (worker later (made ++ [(call, returned)])) := by
  refine ⟨_, later, _, [], ?_, .call sent sends, (List.append_nil _).symm, .between later⟩
  rw [split, List.map_append, List.append_assoc]
  rfl

/-- What a worker does next, by the call that it makes or is in. -/
inductive Next (cut : CheckoutError → Prop) (made : List (QueueCall × QueueAnswer)) :
    List QueueCall → List (Event signature) → Checkout (List (QueueCall × QueueAnswer)) → Prop
  | returned : Next cut made [] [] (.done made)
  | pushHoldExpiry (holdToken : String) (expiresAt : Time) (later : List QueueCall) :
      Next cut made (.pushHoldExpiry holdToken expiresAt :: later) []
        (.call (.redis (.zadd holdToken expiresAt)) fun _ =>
          worker later (made ++ [(.pushHoldExpiry holdToken expiresAt, none)]))
  | readClock (later : List QueueCall) :
      Next cut made (.popExpiredHolds :: later) []
        (.call (.env .now) fun now => .call (.redis (.zpop now)) fun returned =>
          worker later (made ++ [(.popExpiredHolds, some returned)]))
  | popExpiredHolds (now : Time) (later : List QueueCall) :
      Next cut made (.popExpiredHolds :: later) [⟨.env .now, now⟩]
        (.call (.redis (.zpop now)) fun returned =>
          worker later (made ++ [(.popExpiredHolds, some returned)]))
  | removeFromExpirySet (holdToken : String) (later : List QueueCall) :
      Next cut made (.removeFromExpirySet holdToken :: later) []
        (.call (.redis (.zrem holdToken)) fun _ =>
          worker later (made ++ [(.removeFromExpirySet holdToken, none)]))
  | raised (rest : List QueueCall) (current : List (Event signature)) {error : CheckoutError}
      (hit : cut error) : Next cut made rest current (.raise error)

theorem Left.next (left : Left cut made rest current program) :
    Next cut made rest current program := by
  cases left with
  | between rest =>
      cases rest with
      | nil => exact .returned
      | cons call later =>
          cases call with
          | pushHoldExpiry holdToken expiresAt => exact .pushHoldExpiry holdToken expiresAt later
          | popExpiredHolds => exact .readClock later
          | removeFromExpirySet holdToken => exact .removeFromExpirySet holdToken later
  | popping now later => exact .popExpiredHolds now later
  | raised hit inside => exact .raised _ _ hit

/-- **A worker goes from one of its places to the next.** -/
theorem autocommit_stands (calls : List QueueCall) : Autocommit cut (Stands cut calls) where
  not_begin := by
    rintro history program ⟨made, rest, earlier, current, -, -, -, left⟩
    cases left.next
  not_commit := by
    rintro history program ⟨made, rest, earlier, current, -, -, -, left⟩
    cases left.next
  raise := by
    rintro history program error hit ⟨made, rest, earlier, current, split, sent, isHistory, left⟩
    exact ⟨made, rest, earlier, current, split, sent, isHistory, .raised hit left⟩
  call := by
    rintro history stmt next ⟨made, rest, earlier, current, split, sent, rfl, left⟩ answer
    cases left.next with
    | pushHoldExpiry holdToken expiresAt later =>
        rw [List.append_nil]
        exact .finish split sent (.pushHoldExpiry holdToken expiresAt)
    | readClock later =>
        exact ⟨made, _, earlier, _, split, sent, by rw [List.append_nil], .popping answer later⟩
    | popExpiredHolds now later =>
        rw [List.append_assoc]
        exact .finish split sent (.popExpiredHolds now answer)
    | removeFromExpirySet holdToken later =>
        rw [List.append_nil]
        exact .finish split sent (.removeFromExpirySet holdToken)

/-- What a worker sends next. -/
theorem Stands.queueStmt (nonneg : NonNegative calls) {stmt : Stmt}
    {next : stmt.Res → Checkout (List (QueueCall × QueueAnswer))}
    (stands : Stands cut calls history (.call stmt next)) : QueueStmt history stmt := by
  obtain ⟨made, rest, earlier, current, split, -, rfl, left⟩ := stands
  cases left.next with
  | pushHoldExpiry holdToken expiresAt later =>
      exact nonneg holdToken expiresAt (split ▸ List.mem_append_right _ List.mem_cons_self)
  | readClock later => trivial
  | popExpiredHolds now later => exact ⟨earlier, rfl⟩
  | removeFromExpirySet holdToken later => trivial

/-- What a worker sends does not fail. -/
theorem Stands.not_error {ι : Type} [DecidableEq ι] {agent : ι} {input : Input} {stmt : Stmt}
    {next : stmt.Res → Checkout (List (QueueCall × QueueAnswer))} {error : CheckoutError}
    {world : SharedWorld ι} (stands : Stands cut calls history (.call stmt next)) :
    world.exec agent input stmt ≠ some (.error error) := by
  obtain ⟨made, rest, earlier, current, -, -, -, left⟩ := stands
  cases left.next <;> exact nofun

/-- Only an exception from outside ends a worker. -/
theorem Stands.cut_of_raise {error : CheckoutError}
    (stands : Stands cut calls history (.raise error)) : cut error := by
  obtain ⟨made, rest, earlier, current, -, -, -, left⟩ := stands
  cases left.next with
  | raised hit => assumption

/-- **A worker that has returned** has made all its calls. -/
theorem Stands.returned {results : List (QueueCall × QueueAnswer)}
    (stands : Stands cut calls history (.done results)) :
    results.map Prod.fst = calls ∧ Sent results history := by
  obtain ⟨made, rest, earlier, current, split, sent, rfl, left⟩ := stands
  cases left.next with
  | returned =>
      rw [split, List.append_nil, List.append_nil]
      exact ⟨rfl, sent⟩

end Worker

/-! ## The queue as its statements tell it -/

/-- The score of a queued token after one more statement, given its score before. -/
def trackScore (holdToken : String) (score : Option Time) : Event signature → Option Time
  | ⟨.redis (.zadd member new), _⟩ => if holdToken = member then some new else score
  | ⟨.redis (.zrem member), _⟩ => if holdToken = member then none else score
  | ⟨.redis (.zpop _), returned⟩ => if holdToken ∈ returned then none else score
  | _ => score

section Log

variable {ι : Type}

/-- The latest score a token was pushed with, if it has been neither removed nor returned
since. -/
def queuedScore (log : List (ι × Event signature)) (holdToken : String) : Option Time :=
  log.foldl (fun score entry => trackScore holdToken score entry.2) none

theorem queuedScore_concat (log : List (ι × Event signature)) (entry : ι × Event signature)
    (holdToken : String) :
    queuedScore (log ++ [entry]) holdToken
      = trackScore holdToken (queuedScore log holdToken) entry.2 := by
  simp [queuedScore]

/-- A pop returned exactly the tokens that were queued with a score up to its clock reading. -/
structure PopsExactly (before : List (ι × Event signature)) (now : Time)
    (returned : List String) : Prop where
  exact : ∀ holdToken, holdToken ∈ returned ↔
    ∃ score, queuedScore before holdToken = some score ∧ score ≤ now
  nodup : returned.Nodup

/-- Such a pop leaves the tokens with a later score. -/
theorem PopsExactly.trackScore_eq {before : List (ι × Event signature)} {now : Time}
    {returned : List String} (exactly : PopsExactly before now returned) (holdToken : String)
    (score : Time) :
    trackScore holdToken (queuedScore before holdToken) ⟨.redis (.zpop now), returned⟩
        = some score ↔ queuedScore before holdToken = some score ∧ now < score := by
  show ite _ _ _ = _ ↔ _
  -- a token leaves the set exactly when the pop lists it
  by_cases listed : holdToken ∈ returned
  · obtain ⟨due, queued, early⟩ := (exactly.exact holdToken).mp listed
    rw [if_pos listed]
    refine iff_of_false nofun fun ⟨stays, late⟩ => ?_
    obtain rfl := Option.some.inj (queued.symm.trans stays)
    exact absurd early (not_le.mpr late)
  · rw [if_neg listed]
    refine (and_iff_left_of_imp fun queued => not_le.mp fun early => ?_).symm
    exact listed ((exactly.exact holdToken).mpr ⟨score, queued, early⟩)

variable [DecidableEq ι]

/-- What every state of a run satisfies: the sorted set holds what the statements say, and
every pop among them has returned what it should. -/
structure QueueInvariant (world : SharedWorld ι) (log : List (ι × Event signature)) : Prop where
  entries : ∀ holdToken score, (holdToken, score) ∈ world.redis.expiryZset.entries ↔
    queuedScore log holdToken = some score
  nonneg : ∀ holdToken score, queuedScore log holdToken = some score → 0 ≤ score
  pops : ∀ before agent now returned after,
    log = before ++ (agent, ⟨.redis (.zpop now), returned⟩) :: after →
      PopsExactly before now returned ∧
        ∃ earlier, durable agent before = earlier ++ [⟨.env .now, now⟩]

end Log

/-! ## One statement -/

section Step

variable {ι : Type} [DecidableEq ι] {agent : ι} {input : Input} {stmt : Stmt}
variable {answer : stmt.Res} {world world' : SharedWorld ι} {log : List (ι × Event signature)}

omit [DecidableEq ι] in
/-- What a pop finds. -/
theorem popsExactly_of_entries {set : SortedSet} (now : Time)
    (entries : ∀ holdToken score, (holdToken, score) ∈ set.entries ↔
      queuedScore log holdToken = some score)
    (nonneg : ∀ holdToken score, queuedScore log holdToken = some score → 0 ≤ score) :
    PopsExactly log now (set.rangeByScore now) where
  exact holdToken := by
    rw [SortedSet.mem_rangeByScore]
    refine exists_congr fun score => ?_
    rw [entries, SortedSet.isDue, decide_eq_true_eq]
    exact and_congr_right fun queued => and_iff_right (nonneg holdToken score queued)
  nodup := set.nodup_rangeByScore now

/-- **The sorted set follows the statements.** -/
theorem entries_of_exec (invariant : QueueInvariant world log)
    (result : world.exec agent input stmt = some (.ok (answer, world')))
    (holdToken : String) (score : Time) :
    (holdToken, score) ∈ world'.redis.expiryZset.entries ↔
      trackScore holdToken (queuedScore log holdToken) ⟨stmt, answer⟩ = some score := by
  have before := invariant.entries holdToken score
  cases stmt with
  | env stmt =>
      cases result
      exact before
  | sql stmt =>
      rw [(SharedWorld.execSql_view result).2]
      exact before
  | redis stmt =>
      cases stmt with
      | setHold token entry ttl =>
          cases result
          exact before
      | deleteHold token =>
          cases result
          exact before
      | deleteAvailability tierId =>
          cases result
          exact before
      | zadd member new =>
          cases result
          show _ ∈ (world.redis.expiryZset.add member new).entries ↔ ite _ _ _ = _
          rw [SortedSet.mem_add]
          by_cases same : holdToken = member
          · rw [if_pos same, if_pos same, Option.some.injEq, eq_comm]
          · rw [if_neg same, if_neg same]
            exact before
      | zrem member =>
          cases result
          show _ ∈ (world.redis.expiryZset.remove member).entries ↔ ite _ _ _ = _
          rw [SortedSet.mem_remove]
          by_cases same : holdToken = member
          · rw [if_pos same]
            exact iff_of_false (fun kept => kept.1 same) nofun
          · rw [if_neg same, ← before]
            exact and_iff_right same
      | zpop now =>
          cases result
          have exactly := popsExactly_of_entries now invariant.entries invariant.nonneg
          show _ ∈ (world.redis.expiryZset.removeRangeByScore now).entries ↔ _
          rw [SortedSet.mem_removeRangeByScore, before]
          refine (and_congr_right fun queued => ?_).trans (exactly.trackScore_eq _ _).symm
          simp [SortedSet.isDue, invariant.nonneg _ _ queued]

/-- Scores stay non-negative. -/
theorem nonneg_trackScore {holdToken : String} {before : Option Time}
    (nonneg : ∀ score, before = some score → 0 ≤ score)
    {history : List (Event signature)} (sent : QueueStmt history stmt) (score : Time)
    (queued : trackScore holdToken before ⟨stmt, answer⟩ = some score) : 0 ≤ score := by
  unfold trackScore at queued
  split at queued
  · rename_i member new _ same
    cases same
    split at queued
    · exact Option.some.inj queued ▸ sent
    · exact nonneg score queued
  · split at queued
    · cases queued
    · exact nonneg score queued
  · split at queued
    · cases queued
    · exact nonneg score queued
  · exact nonneg score queued

/-- **One statement of a worker keeps the invariant.** -/
theorem QueueInvariant.exec (invariant : QueueInvariant world log)
    (sent : QueueStmt (durable agent log) stmt)
    (result : world.exec agent input stmt = some (.ok (answer, world'))) :
    QueueInvariant (world'.commit agent) (log ++ [(agent, ⟨stmt, answer⟩)]) where
  entries holdToken score := by
    rw [queuedScore_concat]
    exact entries_of_exec invariant result holdToken score
  nonneg holdToken score queued := by
    rw [queuedScore_concat] at queued
    exact nonneg_trackScore (invariant.nonneg holdToken) sent score queued
  pops before other now returned after split := by
    rcases List.eq_nil_or_concat after with rfl | ⟨earlier, last, rfl⟩
    · -- the statement is the pop
      obtain ⟨rfl, same⟩ := List.append_inj' split rfl
      cases same
      cases result
      exact ⟨popsExactly_of_entries now invariant.entries invariant.nonneg, sent⟩
    · refine invariant.pops before other now returned earlier ?_
      have longer : log ++ [(agent, ⟨stmt, answer⟩)]
          = (before ++ (other, ⟨.redis (.zpop now), returned⟩) :: earlier) ++ [last] := by
        rw [split]
        simp
      exact (List.append_inj' longer rfl).1

end Step

/-! ## Runs -/

section Runs

variable {ι : Type} [DecidableEq ι]

/-- **In every run of any workers** that starts with an empty queue the invariant holds, and
every worker stands at one of its places. -/
theorem queueInvariant_of_reaches {calls : ι → List QueueCall}
    (nonneg : ∀ agent, NonNegative (calls agent)) {cut : ι → CheckoutError → Prop} {world : World}
    (empty : world.redis.expiryZset = .empty)
    {system : System signature ι (SharedWorld ι) CheckoutError (List (QueueCall × QueueAnswer))}
    (reached : Reaches (engine ι)
      (fun _ action => ∀ error, action.fault = some error → cut action.agent error)
      (System.start (.ofWorld world) fun agent => worker (calls agent) []) system) :
    AllAt (fun agent => Stands (cut agent) (calls agent)) system ∧
      QueueInvariant system.world system.log := by
  have start : QueueInvariant (.ofWorld world : SharedWorld ι) [] := by
    refine ⟨fun holdToken score => iff_of_false (fun inside => ?_) nofun, nofun, ?_⟩
    · have inside : (holdToken, score) ∈ world.redis.expiryZset.entries := inside
      rw [empty] at inside
      cases inside
    · intro before agent now returned after split
      simp at split
  refine reached.invariant_of_autocommit QueueInvariant (fun agent => autocommit_stands _)
    (fun agent => ⟨rfl, [], calls agent, [], [], rfl, .nil, rfl, .between _⟩) start id
    (fun stands failed => absurd failed stands.not_error) ?_
  intro agent input stmt next answer world world' log invariant stands result
  exact invariant.exec (stands.queueStmt (nonneg agent)) result

omit [DecidableEq ι] in
/-- A token that is queued again after it was not has been pushed in between. -/
theorem pushed_of_queuedScore {before middle : List (ι × Event signature)} {holdToken : String}
    {score : Time} (absent : queuedScore before holdToken = none)
    (queued : queuedScore (before ++ middle) holdToken = some score) :
    ∃ agent new, (agent, (⟨.redis (.zadd holdToken new), ()⟩ : Event signature)) ∈ middle := by
  induction middle using List.reverseRecOn generalizing score with
  | nil =>
      rw [List.append_nil, absent] at queued
      cases queued
  | append_singleton middle last ih =>
      rw [← List.append_assoc, queuedScore_concat] at queued
      have earlier {score' : Time}
          (still : queuedScore (before ++ middle) holdToken = some score') :
          ∃ agent new, (agent, (⟨.redis (.zadd holdToken new), ()⟩ : Event signature))
            ∈ middle ++ [last] := by
        obtain ⟨agent, new, inside⟩ := ih still
        exact ⟨agent, new, List.mem_append_left _ inside⟩
      obtain ⟨agent, event⟩ := last
      unfold trackScore at queued
      split at queued
      · rename_i member new _ same
        split at queued
        · rename_i isToken
          cases same
          exact ⟨agent, new, by simp [isToken]⟩
        · exact earlier queued
      · split at queued
        · cases queued
        · exact earlier queued
      · split at queued
        · cases queued
        · exact earlier queued
      · exact earlier queued

/-- **The expiry queue is exact.**  In every run of any number of workers, with any
interleaving of their calls and any clock readings: the queue holds exactly the tokens that
were pushed and neither removed nor returned since, each with its latest score; every
pipeline of a pop was answered with exactly those queued with a score up to the clock reading
made before it, and left the others; between two pops that return one token it was pushed
again; every finished call has sent its own statements and no others, a pop having returned
what its pipeline was answered; and where `cut` says which exceptions from outside may hit
whom, no worker raises anything else. -/
theorem expiry_queue_exact (calls : ι → List QueueCall)
    (nonneg : ∀ agent holdToken expiresAt,
      .pushHoldExpiry holdToken expiresAt ∈ calls agent → 0 ≤ expiresAt)
    (cut : ι → CheckoutError → Prop) (world : World) (empty : world.redis.expiryZset = .empty)
    (system : System signature ι (SharedWorld ι) CheckoutError (List (QueueCall × QueueAnswer)))
    (reached : Reaches (engine ι)
      (fun _ action => ∀ error, action.fault = some error → cut action.agent error)
      (System.start (.ofWorld world) fun agent => worker (calls agent) []) system) :
    (∀ holdToken score, (holdToken, score) ∈ system.world.redis.expiryZset.entries ↔
      queuedScore system.log holdToken = some score) ∧
    (∀ before agent now returned after,
      system.log = before ++ (agent, ⟨.redis (.zpop now), returned⟩) :: after →
        (∃ earlier, durable agent before = earlier ++ [⟨.env .now, now⟩]) ∧
        returned.Nodup ∧
        (∀ holdToken, holdToken ∈ returned ↔
          ∃ score, queuedScore before holdToken = some score ∧ score ≤ now) ∧
        ∀ holdToken score,
          queuedScore (before ++ [(agent, ⟨.redis (.zpop now), returned⟩)]) holdToken
              = some score ↔
            queuedScore before holdToken = some score ∧ now < score) ∧
    (∀ before first now returned middle second now' returned' after,
      system.log = before ++ (first, ⟨.redis (.zpop now), returned⟩) :: middle ++
          (second, ⟨.redis (.zpop now'), returned'⟩) :: after →
        ∀ holdToken ∈ returned, holdToken ∈ returned' →
          ∃ agent score,
            (agent, (⟨.redis (.zadd holdToken score), ()⟩ : Event signature)) ∈ middle) ∧
    (∀ agent, Stands (cut agent) (calls agent) (durable agent system.log)
      (system.thread agent).program) ∧
    (∀ agent error, (system.thread agent).program = .raise error → cut agent error) ∧
    ∀ agent results, (system.thread agent).program = .done results →
      results.map Prod.fst = calls agent ∧ Sent results (durable agent system.log) := by
  obtain ⟨places, invariant⟩ := queueInvariant_of_reaches nonneg empty reached
  refine ⟨invariant.entries, fun before agent now returned after split => ?_,
    fun before first now returned middle second now' returned' after split holdToken inFirst
      inSecond => ?_, fun agent => (places agent).2, fun agent error isRaise => ?_,
    fun agent results isDone => ?_⟩
  · obtain ⟨exactly, reading⟩ := invariant.pops before agent now returned after split
    refine ⟨reading, exactly.nodup, exactly.exact, fun holdToken score => ?_⟩
    rw [queuedScore_concat]
    exact exactly.trackScore_eq holdToken score
  · obtain ⟨exactly, -⟩ := invariant.pops _ second now' returned' after split
    obtain ⟨score, queued, -⟩ := (exactly.exact holdToken).mp inSecond
    -- after the first pop the token is not queued
    have gone : queuedScore (before ++ [(first, ⟨.redis (.zpop now), returned⟩)]) holdToken
        = none := by
      rw [queuedScore_concat]
      exact if_pos inFirst
    rw [List.append_cons] at queued
    exact pushed_of_queuedScore gone queued
  · have stands := (places agent).2
    rw [isRaise] at stands
    exact stands.cut_of_raise
  · have stands := (places agent).2
    rw [isDone] at stands
    exact stands.returned

end Runs

namespace Sample

/-- One worker pushes two tokens, the other one pops. -/
def queueCalls : Fin 2 → List QueueCall
  | 0 => [.pushHoldExpiry "hold-1" 5, .pushHoldExpiry "hold-2" 9]
  | 1 => [.popExpiredHolds]

/-- The pop reads the clock at 7, between the two pushes, and is executed after both. -/
def queueSchedule : List (Action (Fin 2) Input CheckoutError) :=
  [⟨one, .plain 1 (id 0), none⟩, ⟨other, .plain 7 (id 0), none⟩, ⟨one, .plain 8 (id 0), none⟩,
    ⟨other, .plain 9 (id 0), none⟩]

/-- The workers about to start. -/
def queueStart :
    System signature (Fin 2) (SharedWorld (Fin 2)) CheckoutError (List (QueueCall × QueueAnswer)) :=
  System.start (.ofWorld world) fun agent => worker (queueCalls agent) []

end Sample

/-- No exception from outside hits the two workers. -/
theorem expiry_queue_exact_sample :
    ∃ system, Reaches (engine (Fin 2)) (fun _ action => ∀ error, action.fault = some error → False)
        Sample.queueStart system ∧
      ("hold-2", 9) ∈ system.world.redis.expiryZset.entries ∧
      (system.thread Sample.other).program = .done [(.popExpiredHolds, some ["hold-1"])] ∧
      Sent [(.popExpiredHolds, some ["hold-1"])] (durable Sample.other system.log) := by
  have executed : (Sample.queueStart.runWhile (engine (Fin 2))
      (fun _ action => action.fault.isNone) Sample.queueSchedule).map
      (fun system => (queuedScore system.log "hold-2",
        (system.thread Sample.other).program.result.map (List.map Prod.snd)))
      = some (some 9, some [some ["hold-1"]]) := by
    decide +kernel
  obtain ⟨system, ran, seen⟩ := Option.map_eq_some_iff.mp executed
  obtain ⟨queued, answered⟩ := Prod.mk.inj seen
  have reached := reaches_of_unharmed ran fun _ _ => False
  have nonneg : ∀ agent holdToken expiresAt,
      .pushHoldExpiry holdToken expiresAt ∈ Sample.queueCalls agent → 0 ≤ expiresAt := by
    intro agent holdToken expiresAt pushed
    simp only [Sample.queueCalls] at pushed
    split at pushed
    · simp only [List.mem_cons, QueueCall.pushHoldExpiry.injEq, List.not_mem_nil, or_false]
        at pushed
      rcases pushed with ⟨-, rfl⟩ | ⟨-, rfl⟩ <;> decide
    · simp at pushed
  obtain ⟨entries, -, -, -, -, finished⟩ := expiry_queue_exact Sample.queueCalls nonneg
    (fun _ _ => False) Sample.world rfl system reached
  refine ⟨system, reached, (entries "hold-2" 9).mpr queued, ?_⟩
  cases left : (system.thread Sample.other).program with
  | done results =>
      obtain ⟨isCalls, sent⟩ := finished _ results left
      rw [left] at answered
      have answers : results.map Prod.snd = [some ["hold-1"]] := Option.some.inj answered
      have isResults : results = [(.popExpiredHolds, some ["hold-1"])] :=
        List.zip_of_prod isCalls answers
      exact ⟨congrArg _ isResults, isResults ▸ sent⟩
  | _ =>
      rw [left] at answered
      cases answered

end Ticketing
