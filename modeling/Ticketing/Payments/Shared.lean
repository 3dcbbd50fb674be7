import Ticketing.Payments.Refunds
import Ticketing.Checkout.Shared

/-!
# The refund tables with many clients

What each statement of a refund does when any number of clients are connected,
under READ COMMITTED with row locks.

## Main Definitions

* `SharedLedger` — versioned tables, and the audit trail
* `SharedLedger.exec`, `engine` — one statement of one client
* `Own`, `isolation` — what a client owns, and what everybody sees
* `Fresh` — every UPDATE of `quantity_sold` finds the value it was computed from
* `Moves` — what a statement can do to what its client owns

## Main Results

* `SharedLedger.exec_view` — a statement does to what its client reads exactly
  what it does to the ledger of a single client
* `moves_of_exec` — every executed statement is one of the `Moves`

## Design Notes

Only the payment is locked when it is read; tickets and tiers are locked when they
are written.  The audit entries of a transaction become visible when it commits.
-/

namespace Ticketing.Payments

open Transactional

/-- The tables as any number of clients share them, with the entries each open
transaction has added to the audit trail. -/
structure SharedLedger (ι : Type) where
  payments : VersionedTable Uuid ι Payment
  tickets : VersionedTable Uuid ι Ticket
  tiers : VersionedTable Uuid ι TicketTier
  audit : AuditTrail
  pending : ι → AuditTrail

namespace SharedLedger

variable {ι : Type}

/-- A ledger nobody is working on. -/
def ofLedger (ledger : Ledger) : SharedLedger ι :=
  ⟨.ofTable ledger.payments, .ofTable ledger.tickets, .ofTable ledger.tiers, ledger.audit,
    fun _ => []⟩

/-- What has been committed. -/
def ledger (shared : SharedLedger ι) : Ledger :=
  ⟨shared.payments.committed, shared.tickets.committed, shared.tiers.committed, shared.audit⟩

@[simp] theorem ledger_ofLedger (ledger : Ledger) :
    (ofLedger ledger : SharedLedger ι).ledger = ledger := by
  simp [SharedLedger.ledger, ofLedger]

variable [DecidableEq ι]

/-- The ledger as `agent` reads it. -/
def view (agent : ι) (shared : SharedLedger ι) : Ledger :=
  ⟨shared.payments.view agent, shared.tickets.view agent, shared.tiers.view agent,
    shared.audit ++ shared.pending agent⟩

/-- One statement of one client; `none` while it has to wait. -/
def exec (service : AuditService) (agent : ι) (input : Input) : (stmt : Stmt) → SharedLedger ι →
    Option (Except RefundError (stmt.Res × SharedLedger ι))
  | .selectPaymentForUpdate id, shared =>
      (shared.payments.lockWhere agent id fun _ => true).map fun result =>
        .ok (result.1, { shared with payments := result.2 })
  | .countCheckedIn payment, shared =>
      some (.ok ((shared.view agent).tickets.total (Ledger.checkedIn payment), shared))
  | .savePaymentStatus id status, shared =>
      match shared.payments.read agent id with
      | none => some (.error .noRowsAffected)
      | some payment =>
          (shared.payments.put agent id (some { payment with status })).map fun payments =>
            .ok ((), { shared with payments := payments })
  | .selectTickets payment, shared =>
      some (.ok (input.order ((shared.view agent).ticketsOf payment), shared))
  | .selectTier id, shared => some (.ok (shared.tiers.read agent id, shared))
  | .updateQuantitySold id quantitySold, shared =>
      match shared.tiers.read agent id with
      | none => some (.ok ((), shared))
      | some tier =>
          (shared.tiers.put agent id
            (some { tier with quantitySold := quantitySold.toNat })).map fun tiers =>
              if quantitySold < 0 then .error .integrity
              else .ok ((), { shared with tiers := tiers })
  | .saveTicketStatus id status, shared =>
      match shared.tickets.read agent id with
      | none => some (.error .noRowsAffected)
      | some ticket =>
          (shared.tickets.put agent id (some { ticket with status })).map fun tickets =>
            .ok ((), { shared with tickets := tickets })
  | .logAction call, shared =>
      match service call input.audit (shared.audit ++ shared.pending agent) with
      | .ok (_, trail) =>
          some (.ok ((), { shared with
            pending := Function.update shared.pending agent (trail.drop shared.audit.length) }))
      | .error error => some (.error (.audit error))

def commit (agent : ι) (shared : SharedLedger ι) : SharedLedger ι where
  payments := shared.payments.commit agent
  tickets := shared.tickets.commit agent
  tiers := shared.tiers.commit agent
  audit := shared.audit ++ shared.pending agent
  pending := Function.update shared.pending agent []

def rollback (agent : ι) (shared : SharedLedger ι) : SharedLedger ι where
  payments := shared.payments.rollback agent
  tickets := shared.tickets.rollback agent
  tiers := shared.tiers.rollback agent
  audit := shared.audit
  pending := Function.update shared.pending agent []

end SharedLedger

/-- The refund tables, shared by the clients `ι`. -/
def engine (service : AuditService) (ι : Type) [DecidableEq ι] :
    Engine signature ι Input (SharedLedger ι) RefundError where
  exec := SharedLedger.exec service
  commit := SharedLedger.commit
  rollback := SharedLedger.rollback

section Exec

variable {ι : Type} [DecidableEq ι] {service : AuditService} {agent : ι} {input : Input}
variable {shared shared' : SharedLedger ι}

/-! ## A statement that succeeds -/

/-- What a statement has done, where it succeeds. -/
inductive Executed (service : AuditService) (agent : ι) (input : Input) (shared : SharedLedger ι) :
    (stmt : Stmt) → stmt.Res → SharedLedger ι → Prop
  | selectPaymentForUpdate {id : Uuid} {found : Option Payment}
      {payments : VersionedTable Uuid ι Payment}
      (locking : shared.payments.lockWhere agent id (fun _ => true) = some (found, payments)) :
      Executed service agent input shared (.selectPaymentForUpdate id) found
        { shared with payments := payments }
  | countCheckedIn {payment : Uuid} :
      Executed service agent input shared (.countCheckedIn payment)
        ((shared.view agent).tickets.total (Ledger.checkedIn payment)) shared
  | savePaymentStatus {id : Uuid} {status : PaymentStatus} {payment : Payment}
      {payments : VersionedTable Uuid ι Payment}
      (visible : shared.payments.read agent id = some payment)
      (granted : shared.payments.put agent id (some { payment with status }) = some payments) :
      Executed service agent input shared (.savePaymentStatus id status) ()
        { shared with payments := payments }
  | selectTickets {payment : Uuid} :
      Executed service agent input shared (.selectTickets payment)
        (input.order ((shared.view agent).ticketsOf payment)) shared
  | selectTier {id : Uuid} :
      Executed service agent input shared (.selectTier id) (shared.tiers.read agent id) shared
  | missingTier {id : Uuid} {quantitySold : ℤ} (missing : shared.tiers.read agent id = none) :
      Executed service agent input shared (.updateQuantitySold id quantitySold) () shared
  | updateQuantitySold {id : Uuid} {quantitySold : ℤ} {tier : TicketTier}
      {tiers : VersionedTable Uuid ι TicketTier}
      (visible : shared.tiers.read agent id = some tier) (notNegative : 0 ≤ quantitySold)
      (granted : shared.tiers.put agent id
        (some { tier with quantitySold := quantitySold.toNat }) = some tiers) :
      Executed service agent input shared (.updateQuantitySold id quantitySold) ()
        { shared with tiers := tiers }
  | saveTicketStatus {id : Uuid} {status : TicketStatus} {ticket : Ticket}
      {tickets : VersionedTable Uuid ι Ticket}
      (visible : shared.tickets.read agent id = some ticket)
      (granted : shared.tickets.put agent id (some { ticket with status }) = some tickets) :
      Executed service agent input shared (.saveTicketStatus id status) ()
        { shared with tickets := tickets }
  | logAction {call : LogAction} {made : AuditLog × AuditTrail}
      (logged : service call input.audit (shared.audit ++ shared.pending agent) = .ok made) :
      Executed service agent input shared (.logAction call) ()
        { shared with pending :=
            Function.update shared.pending agent (made.2.drop shared.audit.length) }

/-- **Every statement that succeeds is one of them.** -/
theorem executed_of_exec {stmt : Stmt} {answer : stmt.Res}
    (result : shared.exec service agent input stmt = some (.ok (answer, shared'))) :
    Executed service agent input shared stmt answer shared' := by
  cases stmt with
  | selectPaymentForUpdate id =>
      simp only [SharedLedger.exec, Option.map_eq_some_iff, Except.ok.injEq,
        Prod.mk.injEq] at result
      obtain ⟨⟨found, payments⟩, locking, rfl, rfl⟩ := result
      exact .selectPaymentForUpdate locking
  | countCheckedIn payment =>
      cases result
      exact .countCheckedIn
  | savePaymentStatus id status =>
      simp only [SharedLedger.exec] at result
      cases visible : shared.payments.read agent id with
      | none => simp [visible] at result
      | some payment =>
          rw [visible] at result
          simp only [Option.map_eq_some_iff, Except.ok.injEq, Prod.mk.injEq] at result
          obtain ⟨payments, granted, -, rfl⟩ := result
          exact .savePaymentStatus visible granted
  | selectTickets payment =>
      cases result
      exact .selectTickets
  | selectTier id =>
      cases result
      exact .selectTier
  | updateQuantitySold id quantitySold =>
      simp only [SharedLedger.exec] at result
      cases visible : shared.tiers.read agent id with
      | none =>
          rw [visible] at result
          cases result
          exact .missingTier visible
      | some tier =>
          rw [visible] at result
          simp only [Option.map_eq_some_iff] at result
          obtain ⟨tiers, granted, outcome⟩ := result
          by_cases negative : quantitySold < 0
          · simp [negative] at outcome
          · rw [if_neg negative] at outcome
            cases outcome
            exact .updateQuantitySold visible (not_lt.mp negative) granted
  | saveTicketStatus id status =>
      simp only [SharedLedger.exec] at result
      cases visible : shared.tickets.read agent id with
      | none => simp [visible] at result
      | some ticket =>
          rw [visible] at result
          simp only [Option.map_eq_some_iff, Except.ok.injEq, Prod.mk.injEq] at result
          obtain ⟨tickets, granted, -, rfl⟩ := result
          exact .saveTicketStatus visible granted
  | logAction call =>
      simp only [SharedLedger.exec] at result
      cases logged : service call input.audit (shared.audit ++ shared.pending agent) with
      | error error => simp [logged] at result
      | ok made =>
          rw [logged] at result
          cases result
          exact .logAction logged

/-! ## A statement and its client's view -/

/-- **A statement that succeeds does to its client's view what it does to the
ledger of a single client**, when `log_action` only ever adds entries. -/
theorem SharedLedger.exec_view
    (appends : ∀ call input trail made, service call input trail = .ok made → trail <+: made.2)
    {stmt : Stmt} {answer : stmt.Res}
    (result : shared.exec service agent input stmt = some (.ok (answer, shared'))) :
    (shared.view agent).exec service input stmt = .ok (answer, shared'.view agent) := by
  cases executed_of_exec result with
  | @selectPaymentForUpdate id found payments locking =>
      obtain ⟨rfl, same⟩ := VersionedTable.view_lockWhere locking
      simp only [Ledger.exec, view, same, VersionedTable.get_view]
      cases shared.payments.read agent id <;> rfl
  | countCheckedIn => rfl
  | savePaymentStatus visible granted =>
      simp [Ledger.exec, view, visible, VersionedTable.view_put_written granted]
  | selectTickets => rfl
  | selectTier => rfl
  | missingTier missing => simp [Ledger.exec, view, missing]
  | updateQuantitySold visible notNegative granted =>
      simp [Ledger.exec, view, visible, not_lt.mpr notNegative,
        VersionedTable.view_put_written granted]
  | saveTicketStatus visible granted =>
      simp [Ledger.exec, view, visible, VersionedTable.view_put_written granted]
  | @logAction call made logged =>
      obtain ⟨more, extends'⟩ := appends _ _ _ _ logged
      have kept : shared.audit ++ made.2.drop shared.audit.length = made.2 := by
        rw [← extends', List.append_assoc, List.drop_left]
      simp [Ledger.exec, view, logged, kept]

/-! ## Owning rows -/

/-- What a client owns: the rows it has locked. -/
structure Own where
  payments : Uuid → Option (LockedRow Payment)
  tickets : Uuid → Option (LockedRow Ticket)
  tiers : Uuid → Option (LockedRow TicketTier)

def Own.nothing : Own := ⟨fun _ => none, fun _ => none, fun _ => none⟩

/-- What a refund never changes about a ticket. -/
def Ticket.place (ticket : Ticket) : Option Uuid × Uuid := (ticket.payment, ticket.tierId)

namespace SharedLedger

/-- What `agent` owns. -/
def own (agent : ι) (shared : SharedLedger ι) : Own :=
  ⟨VersionedTable.own agent shared.payments, VersionedTable.own agent shared.tickets,
    VersionedTable.own agent shared.tiers⟩

@[simp] theorem own_ofLedger (agent : ι) (ledger : Ledger) :
    own agent (ofLedger ledger) = .nothing := by
  simp [own, ofLedger, Own.nothing]

/-- What a statement can do to the tables: lock or write one row. -/
inductive Touches (agent : ι) (shared : SharedLedger ι) : SharedLedger ι → Prop
  | audit (pending : ι → AuditTrail) : Touches agent shared { shared with pending := pending }
  | payment {id : Uuid} {written : Option Payment} {payments : VersionedTable Uuid ι Payment}
      (granted : shared.payments.put agent id written = some payments) :
      Touches agent shared { shared with payments := payments }
  | ticket {id : Uuid} {ticket version : Ticket} {tickets : VersionedTable Uuid ι Ticket}
      (visible : shared.tickets.read agent id = some ticket) (placed : version.place = ticket.place)
      (granted : shared.tickets.put agent id (some version) = some tickets) :
      Touches agent shared { shared with tickets := tickets }
  | tier {id : Uuid} {written : Option TicketTier} {tiers : VersionedTable Uuid ι TicketTier}
      (granted : shared.tiers.put agent id written = some tiers) :
      Touches agent shared { shared with tiers := tiers }

theorem touches_of_exec {stmt : Stmt} {answer : stmt.Res}
    (result : shared.exec service agent input stmt = some (.ok (answer, shared'))) :
    Touches agent shared shared' := by
  have still : Touches agent shared shared := .audit shared.pending
  cases executed_of_exec result with
  | selectPaymentForUpdate locking =>
      rcases VersionedTable.lockWhere_eq_some locking with ⟨-, rfl⟩ | ⟨_, _, -, -, -, -, granted⟩
      · exact still
      · exact .payment granted
  | countCheckedIn => exact still
  | savePaymentStatus visible granted => exact .payment granted
  | selectTickets => exact still
  | selectTier => exact still
  | missingTier missing => exact still
  | updateQuantitySold visible notNegative granted => exact .tier granted
  | saveTicketStatus visible granted =>
      refine .ticket visible ?_ granted
      rfl
  | logAction logged => exact .audit _

theorem Touches.own_of_ne {other : ι} (touches : Touches agent shared shared')
    (different : other ≠ agent) : own other shared' = own other shared := by
  cases touches with
  | audit pending => rfl
  | payment granted => simp only [own, VersionedTable.own_put_of_ne granted different]
  | ticket visible placed granted => simp only [own, VersionedTable.own_put_of_ne granted different]
  | tier granted => simp only [own, VersionedTable.own_put_of_ne granted different]

theorem Touches.ledger_eq (touches : Touches agent shared shared') :
    shared'.ledger = shared.ledger := by
  cases touches with
  | audit pending => rfl
  | payment granted => simp only [ledger, VersionedTable.committed_put granted]
  | ticket visible placed granted => simp only [ledger, VersionedTable.committed_put granted]
  | tier granted => simp only [ledger, VersionedTable.committed_put granted]

/-- No statement moves a ticket. -/
theorem Touches.keeps {shape : Uuid → Option (Option Uuid × Uuid)}
    (touches : Touches agent shared shared')
    (keeps : shared.tickets.Keeps Ticket.place shape) :
    shared'.tickets.Keeps Ticket.place shape := by
  cases touches with
  | audit pending => exact keeps
  | payment granted => exact keeps
  | @ticket id ticket version tickets visible placed granted =>
      refine keeps.put (fun other isVersion => ?_) granted
      cases isVersion
      have seen := keeps.read agent id
      rw [visible] at seen
      rw [placed]
      exact seen
  | tier granted => exact keeps

end SharedLedger

/-- A client owns the rows it has locked; everybody sees the committed rows. -/
def isolation (service : AuditService) (ι : Type) [DecidableEq ι] :
    Isolation (engine service ι) Own Ledger where
  own := SharedLedger.own
  nothing := .nothing
  shared := SharedLedger.ledger
  own_exec_of_ne result different := (SharedLedger.touches_of_exec result).own_of_ne different
  shared_exec result := (SharedLedger.touches_of_exec result).ledger_eq
  own_commit_self agent shared := by
    simp [engine, SharedLedger.own, SharedLedger.commit, Own.nothing]
  own_commit_of_ne shared different := by
    simp [engine, SharedLedger.own, SharedLedger.commit,
      VersionedTable.own_commit_of_ne _ different]
  own_rollback_self agent shared := by
    simp [engine, SharedLedger.own, SharedLedger.rollback, Own.nothing]
  own_rollback_of_ne shared different := by
    simp [engine, SharedLedger.own, SharedLedger.rollback,
      VersionedTable.own_rollback_of_ne _ different]
  shared_rollback agent shared := by
    simp [engine, SharedLedger.ledger, SharedLedger.rollback]

/-! ## What a statement does to what its client owns -/

/-- An UPDATE of `quantity_sold` finds the value it was computed from. -/
def Fresh {α : Type} (system : System signature ι (SharedLedger ι) RefundError α)
    (action : Action ι Input RefundError) : Prop :=
  action.fault = none → ∀ id quantitySold,
    (system.thread action.agent).program.nextStmt = some (.updateQuantitySold id quantitySold) →
      (system.world.tiers.read action.agent id).map (fun tier => (tier.quantitySold : ℤ))
        = some (quantitySold + 1)

/-- What a statement can do to what its client owns, with its answer.  `counts` is
the number of tickets of each payment on each tier. -/
def Moves (counts : Uuid → Uuid → ℕ) : (stmt : Stmt) → Own → stmt.Res → Own → Prop
  | .selectPaymentForUpdate id, own, answer, own' =>
      answer = none ∧ own' = own ∨
        ∃ payment locked, answer = some payment ∧ Sees own.payments id locked ∧
          locked.current = some payment ∧
          own' = { own with payments := Function.update own.payments id (some locked) }
  | .savePaymentStatus id status, own, _, own' =>
      ∃ payment locked, Sees own.payments id locked ∧ locked.current = some payment ∧
        own' = { own with
          payments := Function.update own.payments id
            (some ⟨locked.committed, some { payment with status }⟩) }
  | .selectTickets payment, own, answer, own' =>
      own' = own ∧ ∀ tierId, onTier answer tierId = counts payment tierId
  | .updateQuantitySold id quantitySold, own, _, own' =>
      ∃ tier locked, Sees own.tiers id locked ∧ locked.current = some tier ∧
        0 ≤ quantitySold ∧ (tier.quantitySold : ℤ) = quantitySold + 1 ∧
        own' = { own with
          tiers := Function.update own.tiers id (some ⟨locked.committed,
            some { tier with quantitySold := quantitySold.toNat }⟩) }
  | .saveTicketStatus _ _, own, _, own' => ∃ tickets, own' = { own with tickets }
  | _, own, _, own' => own' = own

/-- **Every executed statement is one of the `Moves`.** -/
theorem moves_of_exec {counts : Uuid → Uuid → ℕ} {stmt : Stmt} {answer : stmt.Res}
    (result : shared.exec service agent input stmt = some (.ok (answer, shared')))
    (fresh : ∀ id quantitySold, stmt = .updateQuantitySold id quantitySold →
      (shared.tiers.read agent id).map (fun tier => (tier.quantitySold : ℤ))
        = some (quantitySold + 1))
    (counted : ∀ payment tierId, (shared.view agent).ticketsOn payment tierId
      = counts payment tierId) :
    Moves counts stmt (shared.own agent) answer (shared'.own agent) := by
  cases executed_of_exec result with
  | @selectPaymentForUpdate id found payments locking =>
      rcases VersionedTable.lockWhere_eq_some locking with
        ⟨rfl, rfl⟩ | ⟨payment, locked, rfl, -, current, shows, granted⟩
      · exact .inl ⟨rfl, rfl⟩
      · refine .inr ⟨payment, locked, rfl, .of_shows shows, current, ?_⟩
        simp only [SharedLedger.own, VersionedTable.own_put_self granted, ← shows.1]
  | countCheckedIn => rfl
  | @savePaymentStatus id status payment payments visible granted =>
      obtain ⟨locked, shows, readEq, -⟩ := VersionedTable.exists_shows shared.payments agent id
      refine ⟨payment, locked, .of_shows shows, readEq ▸ visible, ?_⟩
      simp only [SharedLedger.own, VersionedTable.own_put_self granted, ← shows.1]
  | @selectTickets payment =>
      refine ⟨rfl, fun tierId => ?_⟩
      rw [onTier, (input.order_perm _).countP_eq]
      exact ((shared.view agent).onTier_ticketsOf payment tierId).trans (counted payment tierId)
  | selectTier => rfl
  | @missingTier id quantitySold missing =>
      have found := fresh id quantitySold rfl
      simp [missing] at found
  | @updateQuantitySold id quantitySold tier tiers visible notNegative granted =>
      obtain ⟨locked, shows, readEq, -⟩ := VersionedTable.exists_shows shared.tiers agent id
      have found := fresh id quantitySold rfl
      rw [visible] at found
      refine ⟨tier, locked, .of_shows shows, readEq ▸ visible, notNegative,
        Option.some.inj found, ?_⟩
      simp only [SharedLedger.own, VersionedTable.own_put_self granted, ← shows.1]
  | saveTicketStatus visible granted => exact ⟨_, rfl⟩
  | logAction logged => rfl

end Exec

end Ticketing.Payments
