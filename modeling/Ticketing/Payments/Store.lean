import Ticketing.Transactional.Program
import Ticketing.Checkout.Store
import Ticketing.Audit

/-!
# The stores behind a refund

The rows of `payments/models.py` and `tickets/models.py`, and what each statement
of a refund does to the database when nobody else is connected.

## Main Definitions

* `Payment`, `Ticket` — the two tables, next to the tiers and the audit trail
* `Stmt` — the statements of a refund
* `Ledger`, `store` — a single client's view of the database

## Design Notes

A decimal amount is kept in hundredths, as its column stores it.  The query for
the tickets of a payment has no order of its own; the order it lists them in is
an input.  What `log_action` does to the audit trail is a parameter.
-/

namespace Ticketing.Payments

open Transactional

inductive PaymentStatus
  | pending
  | processing
  | succeeded
  | failed
  | refunded
  | disputed
  deriving DecidableEq

/-- The text a status is stored as. -/
def PaymentStatus.value : PaymentStatus → String
  | .pending => "pending"
  | .processing => "processing"
  | .succeeded => "succeeded"
  | .failed => "failed"
  | .refunded => "refunded"
  | .disputed => "disputed"

/-- A row of `payments_payment`, keyed by its id. -/
structure Payment where
  /-- In hundredths. -/
  amount : ℤ
  currency : String := "KES"
  status : PaymentStatus := .pending
  deriving DecidableEq

/-- `str(payment.amount)`: two decimals. -/
def Payment.amountText (payment : Payment) : String :=
  let units := payment.amount.natAbs / 100
  let cents := payment.amount.natAbs % 100
  (if payment.amount < 0 then "-" else "") ++ toString units ++ "." ++
    (if cents < 10 then "0" else "") ++ toString cents

inductive TicketStatus
  | issued
  | checkedIn
  | cancelled
  | transferred
  deriving DecidableEq

/-- A row of `tickets_ticket`, keyed by its id. -/
structure Ticket where
  payment : Option Uuid
  tierId : Uuid
  status : TicketStatus := .issued
  deriving DecidableEq

/-- The tables a refund reads and writes. -/
@[ext]
structure Ledger where
  payments : Table Uuid Payment
  tickets : Table Uuid Ticket
  tiers : Table Uuid TicketTier
  audit : AuditTrail

/-! ## Statements -/

inductive Stmt
  /-- `Payment.objects.select_for_update().get(id=id)`. -/
  | selectPaymentForUpdate (id : Uuid)
  /-- `Ticket.objects.filter(payment=payment, status=CHECKED_IN).count()`. -/
  | countCheckedIn (payment : Uuid)
  /-- `payment.save(update_fields=['status'])`. -/
  | savePaymentStatus (id : Uuid) (status : PaymentStatus)
  /-- `Ticket.objects.filter(payment=payment)`. -/
  | selectTickets (payment : Uuid)
  /-- Loading `ticket.tier`. -/
  | selectTier (id : Uuid)
  /-- `TicketTier.objects.filter(id=id).update(quantity_sold=...)`. -/
  | updateQuantitySold (id : Uuid) (quantitySold : ℤ)
  /-- `ticket.save(update_fields=['status'])`. -/
  | saveTicketStatus (id : Uuid) (status : TicketStatus)
  /-- `log_action(...)`. -/
  | logAction (call : LogAction)

@[reducible] def Stmt.Res : Stmt → Type
  | .selectPaymentForUpdate _ => Option Payment
  | .countCheckedIn _ => ℕ
  | .savePaymentStatus _ _ => Unit
  | .selectTickets _ => List (Uuid × Ticket)
  | .selectTier _ => Option TicketTier
  | .updateQuantitySold _ _ => Unit
  | .saveTicketStatus _ _ => Unit
  | .logAction _ => Unit

/-- The statements of a refund. -/
@[reducible] def signature : Signature where
  Stmt := Stmt
  Res := Stmt.Res

/-- The exceptions of a refund. -/
inductive RefundError
  /-- `RefundError`: the payment has another status. -/
  | notSucceeded (status : PaymentStatus)
  /-- `PostCheckinRefundError`: tickets have been checked in. -/
  | postCheckin (checkedInTickets : ℕ)
  /-- `Payment.DoesNotExist`. -/
  | paymentDoesNotExist
  /-- `TicketTier.DoesNotExist`. -/
  | tierDoesNotExist
  /-- `ValidationError`: the text is not a UUID. -/
  | invalidUuid (text : String)
  /-- `IntegrityError`: a negative quantity. -/
  | integrity
  /-- `DatabaseError`: a `save(update_fields=...)` that affects no row. -/
  | noRowsAffected
  /-- `log_action` has raised. -/
  | audit (error : AuditError)
  /-- A lost connection, a killed worker. -/
  | connection
  deriving DecidableEq

/-- The texts of `RefundError` and `PostCheckinRefundError`. -/
def RefundError.message : RefundError → Option String
  | .notSucceeded status => some s!"Cannot refund payment with status: {status.value}"
  | .postCheckin checkedInTickets =>
      some s!"Cannot refund: {checkedInTickets} ticket(s) already checked in."
  | _ => none

/-- What one statement takes from its surroundings: those of the audit trail, and
the order in which the database lists the tickets of a payment. -/
structure Input where
  audit : Ticketing.Input
  order : List (Uuid × Ticket) → List (Uuid × Ticket)
  /-- Listing the rows neither drops nor repeats one. -/
  order_perm : ∀ rows, (order rows).Perm rows

/-- An input whose rows come in the order of their keys. -/
def Input.plain (now : Time) (uuid : Uuid) : Input := ⟨.plain now uuid, id, fun _ => .refl _⟩

/-- What `log_action` does to the trail. -/
abbrev AuditService :=
  LogAction → Ticketing.Input → AuditTrail → Except AuditError (AuditLog × AuditTrail)

namespace Ledger

/-- `ticket` is a checked-in ticket of `payment`. -/
def checkedIn (payment : Uuid) (ticket : Ticket) : ℕ :=
  if ticket.payment = some payment ∧ ticket.status = .checkedIn then 1 else 0

/-- The number of tickets of a payment that lie on a tier. -/
def ticketsOn (ledger : Ledger) (payment tierId : Uuid) : ℕ :=
  ledger.tickets.total fun ticket =>
    if ticket.payment = some payment ∧ ticket.tierId = tierId then 1 else 0

/-- The tickets of a payment. -/
def ticketsOf (ledger : Ledger) (payment : Uuid) : List (Uuid × Ticket) :=
  ledger.tickets.entries.filter (·.2.payment = some payment)

/-- One statement of a single client. -/
def exec (service : AuditService) (input : Input) :
    (stmt : Stmt) → Ledger → Except RefundError (stmt.Res × Ledger)
  | .selectPaymentForUpdate id, ledger => .ok (ledger.payments.get id, ledger)
  | .countCheckedIn payment, ledger => .ok (ledger.tickets.total (checkedIn payment), ledger)
  | .savePaymentStatus id status, ledger =>
      match ledger.payments.get id with
      | none => .error .noRowsAffected
      | some payment =>
          .ok ((), { ledger with payments := ledger.payments.set id { payment with status } })
  | .selectTickets payment, ledger => .ok (input.order (ledger.ticketsOf payment), ledger)
  | .selectTier id, ledger => .ok (ledger.tiers.get id, ledger)
  | .updateQuantitySold id quantitySold, ledger =>
      match ledger.tiers.get id with
      | none => .ok ((), ledger)
      | some tier =>
          if quantitySold < 0 then .error .integrity
          else .ok ((), { ledger with
            tiers := ledger.tiers.set id { tier with quantitySold := quantitySold.toNat } })
  | .saveTicketStatus id status, ledger =>
      match ledger.tickets.get id with
      | none => .error .noRowsAffected
      | some ticket =>
          .ok ((), { ledger with tickets := ledger.tickets.set id { ticket with status } })
  | .logAction call, ledger =>
      match service call input.audit ledger.audit with
      | .ok (_, trail) => .ok ((), { ledger with audit := trail })
      | .error error => .error (.audit error)

end Ledger

/-- The database as a single client sees it. -/
def store (service : AuditService) : Store signature Input Ledger RefundError where
  exec := Ledger.exec service
  rollback saved _ := saved

/-! ## The tickets of a payment -/

/-- The number of tickets of a list that lie on a tier. -/
def onTier (tickets : List (Uuid × Ticket)) (tierId : Uuid) : ℕ :=
  tickets.countP (·.2.tierId = tierId)

namespace Ledger

/-- Every ticket lies on a tier: its foreign key. -/
def Referential (ledger : Ledger) : Prop :=
  ∀ id ticket, ledger.tickets.get id = some ticket → ledger.tiers.get ticket.tierId ≠ none

theorem mem_ticketsOf {ledger : Ledger} {payment id : Uuid} {ticket : Ticket} :
    (id, ticket) ∈ ledger.ticketsOf payment ↔
      ledger.tickets.get id = some ticket ∧ ticket.payment = some payment := by
  simp [ticketsOf, Table.mem_entries]

theorem nodup_ticketsOf (ledger : Ledger) (payment : Uuid) :
    ((ledger.ticketsOf payment).map Prod.fst).Nodup :=
  ledger.tickets.nodup_entries.sublist (List.filter_sublist.map _)

/-- Counting the listed tickets of a payment on a tier. -/
theorem onTier_ticketsOf (ledger : Ledger) (payment tierId : Uuid) :
    onTier (ledger.ticketsOf payment) tierId = ledger.ticketsOn payment tierId := by
  rw [ticketsOn, Table.total_ite_eq_countP, onTier, ticketsOf, List.countP_filter]
  refine List.countP_congr fun entry _ => ?_
  simp [and_comm]

/-- Nobody has checked in. -/
theorem checkedIn_eq_zero {ledger : Ledger} {payment : Uuid}
    (none : ledger.tickets.total (checkedIn payment) = 0) {id : Uuid} {ticket : Ticket}
    (stored : ledger.tickets.get id = some ticket) (ofPayment : ticket.payment = some payment) :
    ticket.status ≠ .checkedIn := by
  intro used
  have counted := ledger.tickets.le_total (checkedIn payment) stored
  rw [none, checkedIn, if_pos ⟨ofPayment, used⟩] at counted
  omega

/-- Somebody has. -/
theorem exists_checkedIn {ledger : Ledger} {payment : Uuid}
    (some : 0 < ledger.tickets.total (checkedIn payment)) :
    ∃ id ticket, ledger.tickets.get id = .some ticket ∧ ticket.payment = .some payment ∧
      ticket.status = .checkedIn := by
  obtain ⟨id, ticket, stored, counts⟩ := Table.total_pos_iff.mp some
  unfold checkedIn at counts
  split at counts
  · rename_i used
    exact ⟨id, ticket, stored, used⟩
  · exact absurd counts (lt_irrefl 0)

end Ledger

end Ticketing.Payments
