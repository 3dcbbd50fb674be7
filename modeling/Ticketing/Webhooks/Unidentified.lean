import Ticketing.Payments.Mpesa
import Ticketing.Webhooks.Idempotent

/-!
# Payments without an identifier

What the handlers do with a payload that has no identifier, from the JSON payload on: an
order goes to its handler as it is, a callback through `parse_stk_callback`.

## Main Definitions

* `Webhook` — the payload of a webhook, `Webhook.handle` — what becomes of it
* `Webhook.Unidentified` — the identifier is missing, null or empty
* `Webhook.Rejects` — the payload is rejected, and never taken for another
* `Webhook.AbsenceSeen` — the absences that the code rejects

## Main Results

* `handleMpesaCallback_str` — the handler of a callback is the one of the deliveries
* `rejects_iff` — which payloads without an identifier are rejected

## Design Notes

`handle_mpesa_payment_succeeded` is written for strings; what a callback holds in the place
of an identifier, an amount or a receipt may be any JSON value, and reaches the handler as
it is.
-/

namespace Ticketing.Webhooks

open Transactional Payments

/-! ## From the payload on -/

section Payload

variable (python : PythonText)

/-- What the M-Pesa handler computes from the values of a callback. -/
def mpesaCallbackPayment (checkoutRequestId amount receiptNumber : Value) : Payment where
  result := .dict [("checkout_request_id", checkoutRequestId),
    ("amount", .str (amount.text python)), ("receipt_number", receiptNumber),
    ("status", .str "ticket_issued")]
  call := {
    action := "webhook.mpesa.payment_succeeded"
    metadata := some (.dict [("checkout_request_id", checkoutRequestId),
      ("receipt", receiptNumber)]) }

/-- `handle_mpesa_payment_succeeded`, of the values of a callback. -/
def handleMpesaCallback (checkoutRequestId amount receiptNumber : Value) : Handler Value :=
  .atomic (processOnce ("mpesa:" ++ checkoutRequestId.text python)
    (.ok (mpesaCallbackPayment python checkoutRequestId amount receiptNumber)))

/-- Of strings it is the handler of the deliveries. -/
theorem handleMpesaCallback_str (checkoutRequestId receiptNumber : String) (amount : Value) :
    handleMpesaCallback python (.str checkoutRequestId) amount (.str receiptNumber)
      = handleMpesaPaymentSucceeded checkoutRequestId (amount.text python) receiptNumber :=
  rfl

/-- The JSON payload of a webhook. -/
inductive Webhook
  | lemonSqueezy (eventData : Value)
  | mpesa (callbackData : Value)

namespace Webhook

/-- The handler called for a payload; a callback that reports no payment calls none. -/
def program : Webhook → Option (Handler Value)
  | lemonSqueezy eventData => some (handleLemonSqueezyOrderCreated python eventData)
  | mpesa callbackData =>
      match parseStkCallback callbackData with
      | .ok (.success checkoutRequestId amount receiptNumber _ _) =>
          some (handleMpesaCallback python checkoutRequestId amount receiptNumber)
      | _ => none

/-- How the handler of a payload ends, if one is called, and the stores after it. -/
def handle (service : AuditService) (webhook : Webhook) (inputs : ℕ → Input) (stores : Stores) :
    Option (Outcome WebhookError Value) × Stores :=
  match webhook.program python with
  | none => (none, stores)
  | some program =>
      let ended := program.run (store service) none inputs none stores
      (some ended.1, ended.2)

end Webhook

end Payload

/-- The value under a key of a JSON object. -/
def field (value : Value) (key : String) : Option Value :=
  match value with
  | .dict entries => entries.lookup key
  | _ => none

namespace Webhook

/-- The identifier of the provider: `data.id`, `Body.stkCallback.CheckoutRequestID`. -/
def identifier : Webhook → Option Value
  | lemonSqueezy eventData => do field (← field eventData "data") "id"
  | mpesa callbackData => do
      field (← field (← field callbackData "Body") "stkCallback") "CheckoutRequestID"

/-- The identifier is missing, null or empty. -/
def Unidentified (webhook : Webhook) : Prop :=
  webhook.identifier = none ∨ webhook.identifier = some .none ∨
    webhook.identifier = some (.str "")

/-- The handler raises `WebhookHandlerError` and leaves the idempotency store as it was, so
that the payment is never reported as a duplicate of another without an identifier. -/
structure Rejects (service : AuditService) (python : PythonText) (webhook : Webhook) : Prop where
  raises : ∀ inputs stores outcome, (webhook.handle python service inputs stores).1 = some outcome →
    outcome = .raised .missingOrderId
  unchanged : ∀ inputs stores, (webhook.handle python service inputs stores).2.cache = stores.cache
  distinct : ∀ earlier : Webhook, earlier.Unidentified → ∀ inputs laterInputs stores,
    (webhook.handle python service laterInputs
      (earlier.handle python service inputs stores).2).1 ≠ some (.returned alreadyProcessed)

/-- The absences that the code rejects: an order without `data`, or with an object there
whose `id` is not null; and a callback that reports no payment, whose handler is not called. -/
def AbsenceSeen : Webhook → Prop
  | lemonSqueezy eventData => ∃ entries, eventData = .dict entries ∧
      (entries.lookup "data" = none ∨
        ∃ data, entries.lookup "data" = some (.dict data) ∧ data.lookup "id" ≠ some .none)
  | mpesa callbackData => ¬ ReportsPayment callbackData

end Webhook

/-! ## Which absences are rejected -/

section Rejection

variable {service : AuditService} {python : PythonText}

/-- The text of an absent identifier is empty exactly when the code sees the absence. -/
theorem orderId_eq_empty_iff {eventData : Value}
    (unidentified : (Webhook.lemonSqueezy eventData).Unidentified) :
    orderId python eventData = .ok "" ↔ (Webhook.lemonSqueezy eventData).AbsenceSeen := by
  cases eventData with
  | dict entries =>
      have read : orderId python (.dict entries)
          = (((entries.lookup "data").getD (.dict [])).get "id" (.str "")).map
              (Value.text python) := rfl
      cases found : entries.lookup "data" with
      | none =>
          rw [read, found]
          exact iff_of_true rfl ⟨entries, rfl, Or.inl found⟩
      | some data =>
          rw [read, found, Option.getD_some]
          cases data with
          | dict fields =>
              have given : (Webhook.lemonSqueezy (.dict entries)).identifier
                  = fields.lookup "id" := by
                simp only [Webhook.identifier, field, found]
                rfl
              rw [Webhook.Unidentified, given] at unidentified
              rcases unidentified with missing | null | empty
              · simp only [Value.get, missing]
                exact iff_of_true rfl ⟨entries, rfl, Or.inr ⟨fields, found, by simp [missing]⟩⟩
              · simp only [Value.get, null]
                refine iff_of_false (fun same => ?_) ?_
                · exact absurd (Except.ok.inj same) (show ¬ "None" = "" by decide)
                · rintro ⟨entries', same, seen⟩
                  cases same
                  rcases seen with missing | ⟨fields', present, notNull⟩
                  · rw [found] at missing
                    cases missing
                  · rw [found] at present
                    cases present
                    exact notNull null
              · simp only [Value.get, empty]
                exact iff_of_true rfl ⟨entries, rfl, Or.inr ⟨fields, found, by simp [empty]⟩⟩
          | _ =>
              refine iff_of_false (fun same => by cases same) ?_
              rintro ⟨entries', same, seen⟩
              cases same
              rcases seen with missing | ⟨fields', present, -⟩
              · rw [found] at missing
                cases missing
              · rw [found] at present
                cases present
  | _ =>
      refine iff_of_false (fun same => by cases same) ?_
      rintro ⟨entries, same, -⟩
      cases same

/-- A payment that is found in the store is reported as a duplicate. -/
theorem run_processOnce_marked {paymentId : String} {payment : Except WebhookError Payment}
    {inputs : ℕ → Input} {stores : Stores} {value : Value}
    (found : stores.cached (inputs 0).now (idemKey paymentId) = some value) :
    (processOnce paymentId payment).atomic.run (store service) none inputs none stores
      = (.returned alreadyProcessed, stores) := by
  rw [atomic_processOnce]
  simp [Program.run, store, Stores.exec, found, answered]

/-- Stores in which every payment has been processed, a second before. -/
def processedStores : Stores where
  cache := fun _ => some (alreadyProcessed, second)
  audit := []

/-- A handler that gets to its check reports a duplicate there is none of. -/
theorem not_rejects_of_processOnce {webhook : Webhook} {paymentId : String}
    {payment : Except WebhookError Payment}
    (checks : webhook.program python = some (processOnce paymentId payment).atomic) :
    ¬ webhook.Rejects service python := by
  intro rejects
  -- where every payment has been processed, whatever identifier it makes up is a duplicate
  have found : processedStores.cached (Input.plain 0 (.ofNat 8)).now (idemKey paymentId)
      = some alreadyProcessed := rfl
  have ran := @run_processOnce_marked service paymentId payment
    (fun _ => Input.plain 0 (.ofNat 8)) processedStores _ found
  have ended : webhook.handle python service (fun _ => Input.plain 0 (.ofNat 8)) processedStores
      = (some (.returned alreadyProcessed), processedStores) := by
    rw [Webhook.handle, checks]
    simp only [ran]
  cases rejects.raises _ _ _ (congrArg Prod.fst ended)

/-- A handler that raises in front of its check leaves the cache as it was. -/
theorem handle_of_raise {webhook : Webhook} {error : WebhookError}
    (raises : webhook.program python = some (Program.atomic (.raise error))) (inputs : ℕ → Input)
    (stores : Stores) :
    (webhook.handle python service inputs stores).1 = some (.raised error) ∧
      (webhook.handle python service inputs stores).2.cache = stores.cache := by
  rw [Webhook.handle, raises]
  exact ⟨rfl, rfl⟩

/-- A payload whose handler never returns is never reported as a duplicate. -/
theorem rejects_of_outcome {webhook : Webhook}
    (raises : ∀ inputs stores outcome,
      (webhook.handle python service inputs stores).1 = some outcome →
        outcome = .raised .missingOrderId)
    (unchanged : ∀ inputs stores,
      (webhook.handle python service inputs stores).2.cache = stores.cache) :
    webhook.Rejects service python where
  raises := raises
  unchanged := unchanged
  distinct := fun earlier _ inputs laterInputs stores duplicate => by
    cases raises _ _ _ duplicate

/-- Orders. -/
theorem rejects_lemonSqueezy_iff (eventData : Value) :
    (Webhook.lemonSqueezy eventData).Rejects service python ↔
      orderId python eventData = .ok "" := by
  constructor
  · intro rejects
    cases read : orderId python eventData with
    | error error =>
        have program : (Webhook.lemonSqueezy eventData).program python
            = some (Program.atomic (.raise (.malformed error))) := by
          rw [Webhook.program, handleLemonSqueezyOrderCreated, read]
        have outcome := (@handle_of_raise service _ _ _ program
          (fun _ => .plain 0 (.ofNat 8)) processedStores).1
        cases rejects.raises _ _ _ outcome
    | ok id =>
        by_cases empty : id = ""
        · rw [empty]
        · have program : (Webhook.lemonSqueezy eventData).program python
              = some (processOnce ("ls:" ++ id)
                ((lemonSqueezyPayment python id eventData).mapError .malformed)).atomic := by
            rw [Webhook.program, handleLemonSqueezyOrderCreated, read]
            simp only [if_neg empty]
          exact absurd rejects (not_rejects_of_processOnce program)
  · intro read
    have program : (Webhook.lemonSqueezy eventData).program python
        = some (Program.atomic (.raise .missingOrderId)) := by
      rw [Webhook.program, handleLemonSqueezyOrderCreated, read]
      rfl
    refine rejects_of_outcome (fun inputs stores outcome ended => ?_)
      fun inputs stores => (handle_of_raise program inputs stores).2
    rw [(handle_of_raise program inputs stores).1] at ended
    exact (Option.some.inj ended).symm

/-- Callbacks. -/
theorem rejects_mpesa_iff (callbackData : Value) :
    (Webhook.mpesa callbackData).Rejects service python ↔ ¬ ReportsPayment callbackData := by
  constructor
  · intro rejects reports
    obtain ⟨checkoutRequestId, amount, receiptNumber, phone, transactionDate, parsed⟩ :=
      (parseStkCallback_success_iff callbackData).mpr reports
    have program : (Webhook.mpesa callbackData).program python
        = some (handleMpesaCallback python checkoutRequestId amount receiptNumber) := by
      rw [Webhook.program, parsed]
    exact not_rejects_of_processOnce program rejects
  · intro silent
    have program : (Webhook.mpesa callbackData).program python = none := by
      rw [Webhook.program]
      split
      next checkoutRequestId amount receiptNumber phone transactionDate parsed =>
          exact absurd ((parseStkCallback_success_iff callbackData).mp ⟨_, _, _, _, _, parsed⟩)
            silent
      next => rfl
    have ended (inputs : ℕ → Input) (stores : Stores) :
        (Webhook.mpesa callbackData).handle python service inputs stores = (none, stores) := by
      rw [Webhook.handle, program]
    refine rejects_of_outcome (fun inputs stores outcome called => ?_) fun inputs stores => ?_
    · rw [ended] at called
      cases called
    · rw [ended]

/-- **Rejection.**  A payload without an identifier is rejected exactly when the code sees
the absence. -/
theorem rejects_iff (service : AuditService) (python : PythonText) {webhook : Webhook}
    (unidentified : webhook.Unidentified) :
    webhook.Rejects service python ↔ webhook.AbsenceSeen := by
  cases webhook with
  | lemonSqueezy eventData =>
      rw [rejects_lemonSqueezy_iff]
      exact orderId_eq_empty_iff unidentified
  | mpesa callbackData => exact rejects_mpesa_iff callbackData

end Rejection

namespace Sample

/-- An order over `total` cents, with the entries of `data` that give its identifier. -/
def orderOf (identifier : List (String × Value)) (total : ℤ) : Webhook :=
  .lemonSqueezy (.dict [("data", .dict (identifier ++
    [("attributes", .dict [("total", .int total), ("currency", .str "USD")])]))])

/-- A callback of a payment of `amount`, without `CheckoutRequestID`. -/
def callbackOf (amount : ℤ) (receiptNumber : String) : Webhook :=
  .mpesa (.dict [("Body", .dict [("stkCallback", .dict [("ResultCode", .int 0),
    ("CallbackMetadata", .dict [("Item", .list [
      .dict [("Name", .str "Amount"), ("Value", .int amount)],
      .dict [("Name", .str "MpesaReceiptNumber"), ("Value", .str receiptNumber)]])])])])])

/-- The statuses of two payloads, one after the other. -/
def pair (first later : Webhook) : List (Option (Outcome WebhookError (Option String))) :=
  let ended := first.handle python appending (fun _ => .plain 0 (.ofNat 8)) stores
  let again := later.handle python appending (fun _ => .plain second (.ofNat 9)) ended.2
  [ended.1.map (Outcome.map status), again.1.map (Outcome.map status)]

end Sample

theorem rejects_iff_sample :
    (Sample.orderOf [] 150000).Rejects Sample.appending Sample.python ↔
      (Sample.orderOf [] 150000).AbsenceSeen :=
  rejects_iff Sample.appending Sample.python (Or.inl rfl)

/-- Two orders with a null identifier, and two callbacks without one: each time the second
payment, another one, is reported as a duplicate of the first. -/
theorem unidentified_swallowed :
    (Sample.orderOf [("id", .none)] 150000).Unidentified ∧
      (Sample.orderOf [("id", .none)] 9900).Unidentified ∧
      Sample.pair (Sample.orderOf [("id", .none)] 150000) (Sample.orderOf [("id", .none)] 9900)
        = [some (.returned (some "ticket_issued")), some (.returned (some "already_processed"))] ∧
      (Sample.callbackOf 1500 "NLJ7RT61SV").Unidentified ∧
      (Sample.callbackOf 800 "NLJ8AB12CD").Unidentified ∧
      Sample.pair (Sample.callbackOf 1500 "NLJ7RT61SV") (Sample.callbackOf 800 "NLJ8AB12CD")
        = [some (.returned (some "ticket_issued")),
            some (.returned (some "already_processed"))] := by
  refine ⟨Or.inr (Or.inl rfl), Or.inr (Or.inl rfl), ?_, Or.inl rfl, Or.inl rfl, ?_⟩
  · decide +kernel
  · decide +kernel

end Ticketing.Webhooks
