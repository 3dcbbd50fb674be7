import Ticketing.Webhooks.Handlers

/-!
# Concurrent deliveries of one payment

Any number of deliveries of one LemonSqueezy order, or of one M-Pesa checkout
request, run their handlers against one cache, statement by statement and in any
order.

## Main Definitions

* `Stage` — how far a delivery has come
* `WithinLifetime` — the runs during which the key does not expire
* `Attended` — of these, the runs in which no delivery checks the key while
  another is about to mark it
* `OnceInvariant` — at most one delivery is on its way to issue the ticket

## Main Results

* `issued_at_most_once` — runs in which every check is attended issue one ticket
* `issued_twice` — two deliveries that check first and mark later issue two

## Design Notes

The transaction of a handler does not isolate it: the cache shows every write at
once, and nothing is locked between the check and the mark.  So the invariant is
about the whole system.  It assigns a stage to every delivery; the assignment is
part of the proof, the programs do not carry it.
-/

namespace Ticketing.Webhooks

open Transactional

/-- How far a delivery has come with its ticket. -/
inductive Progress
  /-- The check has not been answered. -/
  | waiting
  /-- The key was found unmarked. -/
  | checked
  /-- The key has been marked by this delivery. -/
  | marked
  /-- There will be no ticket: already processed, or an exception. -/
  | settled
  deriving DecidableEq

/-- On the way to issue a ticket. -/
def Progress.claims (progress : Progress) : Prop := progress = .checked ∨ progress = .marked

/-- What is left of the handler of a delivery at each stage. -/
inductive Stage (paymentId : String) (payment : Except WebhookError Payment) :
    Progress → Handler Value → Prop
  | start : Stage paymentId payment .waiting
      (.begin (.call (.cacheGet (idemKey paymentId)) (answered paymentId payment)))
  | check : Stage paymentId payment .waiting
      (.call (.cacheGet (idemKey paymentId)) (answered paymentId payment))
  | mark {ticket : Payment} (computed : payment = .ok ticket) : Stage paymentId payment .checked
      (.call (.cacheSet (idemKey paymentId) ticket.result idemTtl) fun _ =>
        .call (.logAction ticket.call) fun _ => .commit (.done ticket.result))
  | log {ticket : Payment} (computed : payment = .ok ticket) : Stage paymentId payment .marked
      (.call (.logAction ticket.call) fun _ => .commit (.done ticket.result))
  | commit {ticket : Payment} (computed : payment = .ok ticket) :
      Stage paymentId payment .marked (.commit (.done ticket.result))
  | issued {ticket : Payment} (computed : payment = .ok ticket) :
      Stage paymentId payment .marked (.done ticket.result)
  | refuse : Stage paymentId payment .settled (.commit (.done alreadyProcessed))
  | refused : Stage paymentId payment .settled (.done alreadyProcessed)
  | failed {error : WebhookError} (cause : error = .connection ∨ payment = .error error) :
      Stage paymentId payment .settled (.raise error)

section Runs

variable {ι : Type} [DecidableEq ι] {service : AuditService}
variable {paymentId : String} {payment : ι → Except WebhookError Payment}
variable {system system' : System signature ι (SharedStores ι) WebhookError Value}

/-- A delivery is about to run `mark_processed`. -/
def AboutToMark (paymentId : String)
    (system : System signature ι (SharedStores ι) WebhookError Value) (agent : ι) : Prop :=
  ∃ result, (system.thread agent).program.nextStmt
    = some (.cacheSet (idemKey paymentId) result idemTtl)

/-- The runs the promise is about: exceptions from outside are lost connections,
and the key does not expire. -/
structure WithinLifetime (paymentId : String)
    (system : System signature ι (SharedStores ι) WebhookError Value)
    (action : Action ι Input WebhookError) : Prop where
  connections : ∀ error, action.fault = some error → error = .connection
  alive : ∀ value expiry, system.world.stores.entry paymentId = some (value, expiry) →
    action.input.now < expiry

/-- No delivery has its check answered while another has found the key unmarked
and has not marked it yet. -/
structure Attended (paymentId : String)
    (system : System signature ι (SharedStores ι) WebhookError Value)
    (action : Action ι Input WebhookError) : Prop
    extends WithinLifetime paymentId system action where
  attended : action.fault = none →
    (system.thread action.agent).program.nextStmt = some (.cacheGet (idemKey paymentId)) →
    ∀ other, other ≠ action.agent → ¬ AboutToMark paymentId system other

/-- At most one delivery is on its way to issue the ticket, and when it has
marked the key, the key is there. -/
structure OnceInvariant (paymentId : String) (payment : ι → Except WebhookError Payment)
    (progress : ι → Progress)
    (system : System signature ι (SharedStores ι) WebhookError Value) : Prop where
  stage : ∀ agent, Stage paymentId (payment agent) (progress agent) (system.thread agent).program
  alone : ∀ first second, (progress first).claims → (progress second).claims → first = second
  marked : ∀ agent, progress agent = .marked → (system.world.stores.entry paymentId).isSome

namespace OnceInvariant

variable {progress : ι → Progress}

/-- One delivery moves on: what is left to show of its new stage. -/
theorem update (invariant : OnceInvariant paymentId payment progress system) (agent : ι)
    (new : Progress)
    (others : ∀ other, other ≠ agent → system'.thread other = system.thread other)
    (stage : Stage paymentId (payment agent) new (system'.thread agent).program)
    (claims : new.claims → ∀ other, other ≠ agent → ¬ (progress other).claims)
    (kept : (system.world.stores.entry paymentId).isSome →
      (system'.world.stores.entry paymentId).isSome)
    (marked : new = .marked → (system'.world.stores.entry paymentId).isSome) :
    OnceInvariant paymentId payment (Function.update progress agent new) system' where
  stage :=
    (show Staged (fun other => Stage paymentId (payment other)) progress system from
      invariant.stage).update others stage
  alone := Exclusive.update invariant.alone claims
  marked other := by
    by_cases same : other = agent
    · subst same
      rw [Function.update_self]
      exact marked
    · rw [Function.update_of_ne same]
      exact fun before => kept (invariant.marked other before)

omit [DecidableEq ι] in
/-- A checked delivery is about to mark. -/
theorem aboutToMark (invariant : OnceInvariant paymentId payment progress system) {agent : ι}
    (checked : progress agent = .checked) : AboutToMark paymentId system agent := by
  have stage := invariant.stage agent
  rw [checked] at stage
  cases text : (system.thread agent).program with
  | call stmt next =>
      rw [text] at stage
      cases stage
      exact ⟨_, by rw [text]; rfl⟩
  | _ =>
      rw [text] at stage
      cases stage

/-- **One statement.**  The check, the mark and the audit entry each move their
delivery on. -/
theorem exec (invariant : OnceInvariant paymentId payment progress system)
    {action : Action ι Input WebhookError} {stmt : Stmt} {next : stmt.Res → Handler Value}
    {answer : stmt.Res} {world : SharedStores ι} {transaction : Option (List (Event signature))}
    (meets : Attended paymentId system action) (unharmed : action.fault = none)
    (located : system.thread action.agent = ⟨.call stmt next, transaction⟩)
    (result : (engine service ι).exec action.agent action.input stmt system.world
      = some (.ok (answer, world)))
    (others : ∀ other, other ≠ action.agent → system'.thread other = system.thread other)
    (program : (system'.thread action.agent).program = next answer)
    (cache : system'.world.stores.cache = world.stores.cache) :
    ∃ progress', OnceInvariant paymentId payment progress' system' := by
  obtain ⟨seen, executed, rfl⟩ := exec_view result
  have entry : system'.world.stores.entry paymentId = seen.entry paymentId :=
    congrFun cache (idemKey paymentId)
  have stage := invariant.stage action.agent
  rw [located] at stage
  cases stands : progress action.agent with
  | settled =>
      rw [stands] at stage
      cases stage
  | waiting =>
      rw [stands] at stage
      cases stage
      cases executed
      -- the check reads what is recorded, since the entry is alive
      have free := meets.attended unharmed (by rw [located]; rfl)
      have found : (system.world.view action.agent).cached action.input.now (idemKey paymentId)
          = (system.world.stores.entry paymentId).map Prod.fst := Stores.cached_idemKey meets.alive
      rw [found] at program
      cases key : system.world.stores.entry paymentId with
      | some pair =>
          rw [key] at program
          refine ⟨_, invariant.update action.agent .settled others ?_ nofun (fun _ => ?_) nofun⟩
          · rw [program]
            exact .refuse
          · rw [entry]
            exact Option.isSome_of_eq_some key
      | none =>
          rw [key] at program
          have unmarked {other : ι} : progress other ≠ .marked := fun marked => by
            simpa [key] using invariant.marked other marked
          cases computed : payment action.agent with
          | error error =>
              rw [computed] at program
              refine ⟨_, invariant.update action.agent .settled others ?_ nofun
                (fun some => ?_) nofun⟩
              · rw [program]
                exact .failed (.inr computed)
              · cases key ▸ some
          | ok ticket =>
              rw [computed] at program
              refine ⟨_, invariant.update action.agent .checked others ?_
                (fun _ other different => ?_) (fun some => ?_) nofun⟩
              · rw [program]
                exact .mark computed
              -- a second delivery between its check and its mark is what `Attended` excludes
              · rintro (checked | marked)
                · exact free other different (invariant.aboutToMark checked)
                · exact unmarked marked
              · cases key ▸ some
  | checked =>
      rw [stands] at stage
      cases stage with
      | mark computed =>
          cases executed
          have marked : (system'.world.stores.entry paymentId).isSome := by
            rw [entry, Stores.entry_setCached]
            rfl
          refine ⟨_, invariant.update action.agent .marked others ?_ (fun _ other different => ?_)
            (fun _ => marked) fun _ => marked⟩
          · rw [program]
            exact .log computed
          · exact Exclusive.not_of_ne invariant.alone (.inl stands) different
  | marked =>
      rw [stands] at stage
      cases stage with
      | log computed =>
          -- the audit entry leaves the cache alone
          have same : seen.cache = (system.world.view action.agent).cache :=
            Stores.cache_logAction executed
          have kept : system'.world.stores.entry paymentId
              = system.world.stores.entry paymentId := entry.trans (congrFun same _)
          have marked := invariant.marked _ stands
          refine ⟨_, invariant.update action.agent .marked others ?_ (fun _ other different => ?_)
            (fun some => by rwa [kept]) fun _ => by rwa [kept]⟩
          · rw [program]
            exact .commit computed
          · exact Exclusive.not_of_ne invariant.alone (.inr stands) different

/-- **One action keeps the invariant.** -/
theorem step (returns : ∀ call input trail, ∃ made, service call input trail = .ok made)
    (invariant : OnceInvariant paymentId payment progress system)
    {action : Action ι Input WebhookError} (meets : Attended paymentId system action)
    (step : Step (engine service ι) system action system') :
    ∃ progress', OnceInvariant paymentId payment progress' system' := by
  have stage := invariant.stage action.agent
  cases step with
  | fault error located running cause =>
      refine ⟨_, invariant.update action.agent .settled System.setThread_of_ne ?_ nofun id nofun⟩
      rw [System.setThread_self]
      refine .failed (.inl ?_)
      rcases cause with outside | ⟨stmt, next, -, fails⟩
      · exact meets.connections error outside
      · cases (exec_ne_error returns fails)
  | rollback located =>
      rw [located] at stage
      refine ⟨_, invariant.update action.agent .settled System.setThread_of_ne ?_ nofun id nofun⟩
      cases stands : progress action.agent <;> rw [stands] at stage <;> cases stage
      rw [System.setThread_self]
      exact .failed ‹_›
  | begin located =>
      rw [located] at stage
      refine ⟨_, invariant.update action.agent .waiting System.setThread_of_ne ?_ nofun id nofun⟩
      cases stands : progress action.agent <;> rw [stands] at stage <;> cases stage
      rw [System.setThread_self]
      exact .check
  | commit located unharmed =>
      rw [located] at stage
      cases stands : progress action.agent with
      | waiting => rw [stands] at stage; cases stage
      | checked => rw [stands] at stage; cases stage
      | marked =>
          rw [stands] at stage
          cases stage with
          | commit computed =>
              refine ⟨_, invariant.update action.agent .marked System.setThread_of_ne ?_
                (fun _ other => Exclusive.not_of_ne invariant.alone (.inr stands)) id
                fun _ => invariant.marked _ stands⟩
              rw [System.setThread_self]
              exact .issued computed
      | settled =>
          rw [stands] at stage
          cases stage
          refine ⟨_,
            invariant.update action.agent .settled System.setThread_of_ne ?_ nofun id nofun⟩
          rw [System.setThread_self]
          exact .refused
  | auto located unharmed result =>
      exact invariant.exec meets unharmed located result System.setThread_of_ne
        (congrArg Thread.program System.setThread_self) rfl
  | stmt located unharmed result =>
      exact invariant.exec meets unharmed located result System.setThread_of_ne
        (congrArg Thread.program System.setThread_self) rfl

end OnceInvariant

/-- The delivery of `agent` has returned, with the status `ticket_issued`. -/
def Issued (system : System signature ι (SharedStores ι) WebhookError Value) (agent : ι) : Prop :=
  ∃ value, (system.thread agent).program.result = some value ∧
    status value = some "ticket_issued"

/-- What the deliveries of one payment promise: one of them at most issues the
ticket, every other that returns has found the payment processed, and only a
malformed payload or a lost connection makes one raise. -/
structure IssuedAtMostOnce (payment : ι → Except WebhookError Payment)
    (system : System signature ι (SharedStores ι) WebhookError Value) : Prop where
  once : ∀ first second, Issued system first → Issued system second → first = second
  others : ∀ agent value, (system.thread agent).program.result = some value →
    Issued system agent ∨ value = alreadyProcessed
  raises : ∀ agent error, (system.thread agent).program = .raise error →
    error = .connection ∨ payment agent = .error error

omit [DecidableEq ι] in
/-- The invariant gives the promise. -/
theorem OnceInvariant.issuedAtMostOnce {progress : ι → Progress}
    (invariant : OnceInvariant paymentId payment progress system)
    (issuing : ∀ agent ticket, payment agent = .ok ticket →
      status ticket.result = some "ticket_issued") : IssuedAtMostOnce payment system := by
  have returned {agent : ι} {value : Value}
      (ended : (system.thread agent).program.result = some value) :
      (progress agent = .marked ∧ status value = some "ticket_issued") ∨
        value = alreadyProcessed := by
    have stage := invariant.stage agent
    generalize progress agent = stands at stage ⊢
    cases text : (system.thread agent).program with
    | done other =>
        rw [text] at stage ended
        cases ended
        cases stage with
        | issued computed => exact .inl ⟨rfl, issuing agent _ computed⟩
        | refused => exact .inr rfl
    | _ =>
        rw [text] at ended
        cases ended
  have marked {agent : ι} (issued : Issued system agent) : progress agent = .marked := by
    obtain ⟨value, ended, isIssued⟩ := issued
    rcases returned ended with ⟨marked, -⟩ | rfl
    · exact marked
    · exact absurd isIssued (by decide)
  refine ⟨fun first second issued issued' => ?_, fun agent value ended => ?_,
    fun agent error raised => ?_⟩
  · exact invariant.alone first second (.inr (marked issued)) (.inr (marked issued'))
  · rcases returned ended with ⟨-, isIssued⟩ | already
    · exact .inl ⟨value, ended, isIssued⟩
    · exact .inr already
  · have stage := invariant.stage agent
    rw [raised] at stage
    generalize progress agent = stands at stage
    cases stage
    assumption

end Runs

section Deliveries

variable {ι : Type} [DecidableEq ι] (service : AuditService) (python : PythonText)

/-- Deliveries about to start. -/
def deliveriesStart (stores : Stores) (deliveries : ι → Delivery) :
    System signature ι (SharedStores ι) WebhookError Value :=
  System.start (.ofStores stores) fun agent => (deliveries agent).program python

/-- **Attended deliveries issue one ticket.**  In every state reached by a run of
any number of deliveries of one payment, in which no delivery has its check
answered while another is about to mark the key, at most one has returned
`ticket_issued`, and every other that has returned has returned
`already_processed`. -/
theorem issued_at_most_once
    (returns : ∀ call input trail, ∃ made, service call input trail = .ok made)
    {paymentId : String} (stores : Stores) (deliveries : ι → Delivery)
    (same : ∀ agent, (deliveries agent).paymentId python = some paymentId)
    {system : System signature ι (SharedStores ι) WebhookError Value}
    (reached : Reaches (engine service ι) (Attended paymentId)
      (deliveriesStart python stores deliveries) system) :
    IssuedAtMostOnce (fun agent => (deliveries agent).payment python) system := by
  have start : OnceInvariant paymentId (fun agent => (deliveries agent).payment python)
      (fun _ => .waiting) (deliveriesStart python stores deliveries) := by
    refine ⟨fun agent => ?_, nofun, nofun⟩
    simp only [deliveriesStart, System.start, Thread.start,
      Delivery.program_eq python (same agent)]
    exact .start
  obtain ⟨progress, invariant⟩ := reached.invariant
    (fun system => ∃ progress, OnceInvariant paymentId
      (fun agent => (deliveries agent).payment python) progress system)
    ⟨_, start⟩ fun ⟨_, invariant⟩ meets stepped =>
      invariant.step returns meets (System.step_sound stepped)
  exact invariant.issuedAtMostOnce fun agent ticket => Delivery.status_payment python

end Deliveries

/-! ### Two deliveries of one order -/

namespace Sample

/-- The next action of `agent`. -/
def turn (agent : Fin 2) : Action (Fin 2) Input WebhookError :=
  ⟨agent, .plain 0 (.ofNat 8), none⟩

/-- No exception, and the key of the payment is alive. -/
def withinLifetime (paymentId : String)
    (system : System signature (Fin 2) (SharedStores (Fin 2)) WebhookError Value)
    (action : Action (Fin 2) Input WebhookError) : Bool :=
  action.fault.isNone &&
    (system.world.stores.entry paymentId).all fun entry => action.input.now < entry.2

theorem withinLifetime_sound {paymentId : String}
    {system : System signature (Fin 2) (SharedStores (Fin 2)) WebhookError Value}
    {action : Action (Fin 2) Input WebhookError}
    (passes : withinLifetime paymentId system action = true) :
    WithinLifetime paymentId system action := by
  obtain ⟨unharmed, alive⟩ := Bool.and_eq_true_iff.mp passes
  refine ⟨fun error outside => ?_, fun value expiry found => ?_⟩
  · rw [outside] at unharmed
    cases unharmed
  · rw [found] at alive
    exact of_decide_eq_true alive

/-- A statement that marks a key. -/
def marking : Option Stmt → Bool
  | some (.cacheSet ..) => true
  | _ => false

/-- The same, and nobody else is about to mark. -/
def attended (paymentId : String)
    (system : System signature (Fin 2) (SharedStores (Fin 2)) WebhookError Value)
    (action : Action (Fin 2) Input WebhookError) : Bool :=
  withinLifetime paymentId system action &&
    decide (∀ other, other ≠ action.agent → ¬ marking (system.thread other).program.nextStmt)

/-- The statuses that the two deliveries have returned. -/
def statuses (system : System signature (Fin 2) (SharedStores (Fin 2)) WebhookError Value) :
    List (Option String) :=
  (List.finRange 2).map fun agent => (system.thread agent).program.result.bind status

theorem statuses_eq
    (system : System signature (Fin 2) (SharedStores (Fin 2)) WebhookError Value) :
    statuses system = [(system.thread 0).program.result.bind status,
      (system.thread 1).program.result.bind status] := rfl

end Sample

theorem issued_at_most_once_sample :
    ∃ system : System signature (Fin 2) (SharedStores (Fin 2)) WebhookError Value,
      Sample.statuses system = [some "ticket_issued", some "already_processed"] ∧
        IssuedAtMostOnce (fun _ => Sample.order.payment Sample.python) system := by
  have executed : ((deliveriesStart Sample.python Sample.stores fun _ => Sample.order).runWhile
      (engine Sample.appending (Fin 2)) (Sample.attended "ls:order-123")
      (List.replicate 5 (Sample.turn 0) ++ List.replicate 3 (Sample.turn 1))).map Sample.statuses
      = some [some "ticket_issued", some "already_processed"] := by
    decide +kernel
  obtain ⟨system, ran, seen⟩ := Option.map_eq_some_iff.mp executed
  have same (_ : Fin 2) : Sample.order.paymentId Sample.python = some "ls:order-123" := by
    decide +kernel
  refine ⟨system, seen, issued_at_most_once Sample.appending Sample.python
    (fun _ _ _ => ⟨_, rfl⟩) Sample.stores (fun _ => Sample.order) same
    (reaches_of_runWhile (fun system action passes => ?_) ran)⟩
  obtain ⟨passes, attended⟩ := Bool.and_eq_true_iff.mp passes
  refine ⟨Sample.withinLifetime_sound passes, fun _ _ other different ⟨result, marks⟩ => ?_⟩
  have quiet := of_decide_eq_true attended other different
  rw [marks] at quiet
  exact quiet rfl

/-- **Two tickets for one payment.**  Two deliveries of one M-Pesa payment check
the key before either has marked it, and both return `ticket_issued`. -/
theorem issued_twice :
    ∃ system, Reaches (engine Sample.appending (Fin 2)) (WithinLifetime "mpesa:ws_CO_123")
        (deliveriesStart Sample.python Sample.stores fun _ => Sample.checkout) system ∧
      ∀ agent, Issued system agent := by
  have executed : ((deliveriesStart Sample.python Sample.stores fun _ => Sample.checkout).runWhile
      (engine Sample.appending (Fin 2)) (Sample.withinLifetime "mpesa:ws_CO_123")
      (List.replicate 2 (Sample.turn 0) ++ List.replicate 5 (Sample.turn 1) ++
        List.replicate 3 (Sample.turn 0))).map Sample.statuses
      = some [some "ticket_issued", some "ticket_issued"] := by
    decide +kernel
  obtain ⟨system, ran, seen⟩ := Option.map_eq_some_iff.mp executed
  refine ⟨system, reaches_of_runWhile (fun _ _ => Sample.withinLifetime_sound) ran, fun agent => ?_⟩
  have issued : (system.thread agent).program.result.bind status = some "ticket_issued" := by
    simp only [Sample.statuses_eq, List.cons.injEq] at seen
    fin_cases agent
    · exact seen.1
    · exact seen.2.1
  exact Option.bind_eq_some_iff.mp issued

end Ticketing.Webhooks
