import Ticketing.Payments.Store

/-!
# Refunds

`request_refund` of `payments/refunds.py`, statement by statement.

## Main Definitions

* `restoreLoop` — the loop over the tickets of the payment
* `requestRefund` — `request_refund`

## Design Notes

`entity=payment` reaches the audit trail as the id of the content type of
`Payment`, which depends on the installation, and the key of the payment.
-/

namespace Ticketing.Payments

open Transactional

/-- Refund programs. -/
abbrev Refunding := Program signature RefundError

/-- Send one statement. -/
def send (stmt : Stmt) : Refunding stmt.Res := .send (S := signature) stmt

/-- What `request_refund` returns. -/
structure RefundResult where
  status : String
  paymentId : String
  amount : String
  currency : String
  deriving DecidableEq

/-- The loop of `request_refund`: `ticket.tier` is loaded for each ticket anew. -/
def restoreLoop : List (Uuid × Ticket) → Refunding Unit
  | [] => return ()
  | (ticketId, ticket) :: rest => do
    match ← send (.selectTier ticket.tierId) with
    | none => .raise .tierDoesNotExist
    | some tier =>
      send (.updateQuantitySold ticket.tierId (tier.quantitySold - 1))
      send (.saveTicketStatus ticketId .cancelled)
      restoreLoop rest

/-- The audit entry of a refund. -/
def refundEntry (contentType : ℕ) (id : Uuid) (payment : Payment) (reason : String)
    (actor : Option Uuid) : LogAction where
  action := "payment.refunded"
  actor := actor
  entity := some (contentType, id)
  metadata := some (.dict [("reason", .str reason), ("amount", .str payment.amountText)])

/-- `request_refund` once both guards have let the payment pass. -/
def refundPayment (contentType : ℕ) (paymentId : String) (id : Uuid) (payment : Payment)
    (reason : String) (actor : Option Uuid) : Refunding RefundResult := do
  send (.savePaymentStatus id .refunded)
  let tickets ← send (.selectTickets id)
  restoreLoop tickets
  send (.logAction (refundEntry contentType id payment reason actor))
  return {
    status := "refunded"
    paymentId := paymentId
    amount := payment.amountText
    currency := payment.currency }

/-- `request_refund`. -/
def requestRefund (contentType : ℕ) (paymentId reason : String) (actor : Option Uuid) :
    Refunding RefundResult :=
  .atomic do
    match Uuid.parse paymentId with
    | none => .raise (.invalidUuid paymentId)
    | some id =>
      match ← send (.selectPaymentForUpdate id) with
      | none => .raise .paymentDoesNotExist
      | some payment =>
        if payment.status ≠ .succeeded then .raise (.notSucceeded payment.status)
        else
          let checkedInTickets ← send (.countCheckedIn id)
          if checkedInTickets > 0 then .raise (.postCheckin checkedInTickets)
          else refundPayment contentType paymentId id payment reason actor

end Ticketing.Payments
