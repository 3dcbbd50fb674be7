import Ticketing.Checkout.Lifecycle
import Ticketing.Transactional.SingleTransaction

/-!
# The transactions of the checkout code

Every request runs at most one transaction and ends with it.  What it sends to
the tables in front of that transaction only reads.  The sweep opens none.

## Main Results

* `Request.singleTransaction` — the statements outside of the transaction read
* `Job.singleTransaction` — the same shape for all jobs, whatever they send outside
-/

namespace Ticketing

open Transactional Program

/-- Reading a hold is the only statement on the database outside a transaction. -/
def QuietStmt : Stmt → Prop
  | .sql (.selectHold _) => True
  | .sql _ => False
  | _ => True

theorem placeHold_plain (user : Uuid) (tierId : String) (id : Uuid) (tier : TicketTier)
    (quantity : ℤ) : (placeHold user tierId id tier quantity).Plain :=
  .call fun _ => .call fun _ => .call fun _ => .call fun _ => .call fun _ => .call fun _ =>
    .call fun _ => .call fun _ => .done _

theorem createHold_singleTransaction (user : Uuid) (tierId : String) (quantity : ℤ) :
    SingleTransaction QuietStmt false (createHold user tierId quantity) := by
  refine Plain.atomic ?_
  cases Uuid.parse tierId with
  | none => exact .raise _
  | some id =>
      refine .call fun found => ?_
      cases found with
      | none => exact .raise _
      | some tier =>
          refine .call fun count => ?_
          change (if count ≥ maxHoldsPerUserPerEvent then _ else _ : Checkout _).Plain
          split
          · exact .raise _
          · split
            · exact .raise _
            · exact placeHold_plain ..

theorem releaseHoldByToken_singleTransaction (holdToken : String) :
    SingleTransaction QuietStmt false (releaseHoldByToken holdToken) := by
  refine Plain.atomic ?_
  cases Uuid.parse holdToken with
  | none => exact .raise _
  | some token =>
      refine .call fun found => ?_
      cases found with
      | none => exact .done _
      | some hold =>
          refine .call fun _ => .call fun loaded => ?_
          cases loaded with
          | none => exact .raise _
          | some tier => exact .call fun _ => .call fun _ => .call fun _ => .done _

theorem releaseHoldOnPaymentTimeout_singleTransaction (holdToken : String) :
    SingleTransaction QuietStmt false (releaseHoldOnPaymentTimeout holdToken) := by
  unfold releaseHoldOnPaymentTimeout
  cases Uuid.parse holdToken with
  | none => exact .raise _ _
  | some token =>
      refine .before trivial fun found => ?_
      cases found with
      | none => exact .done _
      | some hold =>
          change SingleTransaction QuietStmt false
            (if hold.status = .active then _ else _ : Checkout Unit)
          split
          · refine .before trivial fun readAt => ?_
            change SingleTransaction QuietStmt false
              (if readAt > hold.expiresAt then _ else _ : Checkout Unit)
            split
            · exact releaseHoldByToken_singleTransaction holdToken
            · exact .done _
          · exact .done _

theorem Request.singleTransaction (request : Request) :
    SingleTransaction QuietStmt false request.program := by
  cases request with
  | createHold user tierId quantity => exact (createHold_singleTransaction ..).discard
  | releaseHoldByToken holdToken => exact releaseHoldByToken_singleTransaction holdToken
  | releaseHoldOnPaymentTimeout holdToken => exact releaseHoldOnPaymentTimeout_singleTransaction _

/-- The sweep opens no transaction. -/
theorem sweepExpiredHolds_singleTransaction :
    SingleTransaction (fun _ => True) false sweepExpiredHolds := by
  have loop (rows : List SweepRow) (expiredCount : ℕ) :
      SingleTransaction (fun _ => True) false (sweepLoop rows expiredCount) := by
    induction rows generalizing expiredCount with
    | nil => exact .done expiredCount
    | cons row rest ih =>
        exact .before trivial fun _ => .before trivial fun _ => .before trivial fun _ =>
          .before trivial fun _ => ih _
  refine .before trivial fun readAt => .before trivial fun expiredTokens => ?_
  change SingleTransaction _ false (if expiredTokens = [] then _ else _ : Checkout ℕ)
  split
  · exact .done 0
  · cases (expiredTokens : List String).mapM Uuid.parse with
    | none => exact .raise _ _
    | some tokens => exact .before trivial fun rows => loop rows 0

/-- Every job has at most one transaction, at its end. -/
theorem Job.singleTransaction (job : Job) :
    SingleTransaction (fun _ => True) false job.program := by
  cases job with
  | request call => exact call.singleTransaction.mono fun _ _ => trivial
  | sweepExpiredHolds => exact sweepExpiredHolds_singleTransaction.discard

end Ticketing
