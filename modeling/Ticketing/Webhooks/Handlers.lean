import Ticketing.Transactional.Interleaving
import Ticketing.Audit

/-!
# The webhook handlers

`webhooks/handlers.py` and `payments/idempotency_store.py`, statement by
statement, over the Redis cache and the audit trail.

## Main Definitions

* `isProcessed`, `markProcessed` — the idempotency store
* `handleLemonSqueezyOrderCreated`, `handleMpesaPaymentSucceeded` — the handlers
* `Delivery` — one delivery of either webhook
* `store`, `engine` — the stores of one worker alone, and of many

## Design Notes

What `log_action` does is a parameter of the stores (`AuditService`): the code's
own `logAction`, the function the tests put in its place, or any other.  The
cache keeps a result where the code keeps its JSON text.  The cache
does not take part in the transaction of a handler; the audit trail does.
-/

namespace Ticketing.Webhooks

open Transactional

/-- The exceptions of a handler. -/
inductive WebhookError
  /-- `WebhookHandlerError('Missing order ID in LemonSqueezy webhook')`. -/
  | missingOrderId
  /-- The payload does not have the shape the handler expects. -/
  | malformed (error : PythonError)
  /-- `log_action` has raised. -/
  | audit (error : AuditError)
  /-- A lost connection, a killed worker. -/
  | connection
  deriving DecidableEq

/-- The text of `WebhookHandlerError`. -/
def WebhookError.message : WebhookError → Option String
  | .missingOrderId => some "Missing order ID in LemonSqueezy webhook"
  | _ => none

inductive Stmt
  /-- `cache.get(key)`. -/
  | cacheGet (key : String)
  /-- `cache.set(key, value, ttl)`. -/
  | cacheSet (key : String) (value : Value) (ttl : ℤ)
  /-- `log_action(...)`. -/
  | logAction (call : LogAction)

@[reducible] def Stmt.Res : Stmt → Type
  | .cacheGet _ => Option Value
  | .cacheSet .. => Unit
  | .logAction _ => Unit

/-- The statements of the handlers. -/
@[reducible] def signature : Signature where
  Stmt := Stmt
  Res := Stmt.Res

/-- Handler programs. -/
abbrev Handler := Program signature WebhookError

/-! ## The idempotency store -/

/-- `IDEM_PREFIX`. -/
def idemPrefix : String := "idem:payment:"

/-- `IDEM_TTL`, in seconds. -/
def idemTtl : ℤ := 86400 * 7

/-- The cache key of a payment. -/
def idemKey (paymentId : String) : String := idemPrefix ++ paymentId

/-- `is_processed`. -/
def isProcessed (paymentId : String) : Handler Bool := do
  let cached ← Program.send (S := signature) (.cacheGet (idemKey paymentId))
  return cached.isSome

/-- `mark_processed`. -/
def markProcessed (paymentId : String) (result : Value) : Handler Unit :=
  Program.send (S := signature) (.cacheSet (idemKey paymentId) result idemTtl)

/-! ## The handlers -/

/-- What a handler returns for a payment it finds processed. -/
def alreadyProcessed : Value :=
  .dict [("status", .str "already_processed"), ("idempotent", .bool true)]

/-- The status of a result. -/
def status : Value → Option String
  | .dict entries =>
      match entries.lookup "status" with
      | some (.str text) => some text
      | _ => none
  | _ => none

/-- A payment whose result and audit entry have been computed. -/
structure Payment where
  result : Value
  call : LogAction

/-- The part both handlers share: check, compute, mark, log.  `payment` raises
when the payload is malformed. -/
def processOnce (paymentId : String) (payment : Except WebhookError Payment) : Handler Value := do
  if ← isProcessed paymentId then return alreadyProcessed
  else
    match payment with
    | .error error => .raise error
    | .ok payment =>
      -- the mark is set before the ticket's audit entry is on record
      markProcessed paymentId payment.result
      Program.send (S := signature) (.logAction payment.call)
      return payment.result

/-- What is left of a handler once its check has been answered. -/
def answered (paymentId : String) (payment : Except WebhookError Payment)
    (cached : Option Value) : Handler Value :=
  match cached, payment with
  | some _, _ => .commit (.done alreadyProcessed)
  | none, .error error => .raise error
  | none, .ok payment =>
      .call (.cacheSet (idemKey paymentId) payment.result idemTtl) fun _ =>
        .call (.logAction payment.call) fun _ => .commit (.done payment.result)

/-- The statements of the shared part in its transaction. -/
theorem atomic_processOnce (paymentId : String) (payment : Except WebhookError Payment) :
    (processOnce paymentId payment).atomic
      = .begin (.call (.cacheGet (idemKey paymentId)) (answered paymentId payment)) := by
  refine congrArg Program.begin (congrArg (Program.call _) (funext fun cached => ?_))
  cases cached with
  | some value => rfl
  | none =>
      cases payment with
      | error error => rfl
      | ok payment => rfl

section LemonSqueezy

variable (python : PythonText)

/-- `str(event_data.get('data', {}).get('id', ''))`. -/
def orderId (eventData : Value) : Except PythonError String := do
  let data ← eventData.get "data" (.dict [])
  let id ← data.get "id" (.str "")
  return id.text python

/-- `value.upper()`. -/
def upper : Value → Except PythonError String
  | .str text => .ok (python.upper text)
  | _ => .error .attribute

/-- What the handler computes from the attributes of an order. -/
def lemonSqueezyPayment (orderId : String) (eventData : Value) : Except PythonError Payment := do
  let data ← eventData.get "data" (.dict [])
  let attributes ← data.get "attributes" (.dict [])
  let customData ← attributes.get "custom_data" (.dict [])
  let holdToken ← customData.get "hold_token" .none
  let total ← attributes.get "total" (.int 0)
  let amount ← total.hundredth
  let currency ← upper python (← attributes.get "currency" (.str "USD"))
  return {
    result := .dict [("order_id", .str orderId), ("hold_token", holdToken),
      ("amount", .str amount), ("currency", .str currency), ("status", .str "ticket_issued")]
    call := {
      action := "webhook.ls.order_created"
      metadata := some (.dict [("order_id", .str orderId), ("amount", .str amount),
        ("currency", .str currency)]) } }

/-- A LemonSqueezy payment is computed with the status `ticket_issued`. -/
theorem status_lemonSqueezyPayment {orderId : String} {eventData : Value} {payment : Payment}
    (computed : lemonSqueezyPayment python orderId eventData = .ok payment) :
    status payment.result = some "ticket_issued" := by
  simp only [lemonSqueezyPayment, bind_eq_ok] at computed
  obtain ⟨data, -, attributes, -, customData, -, holdToken, -, computed⟩ := computed
  obtain ⟨total, -, amount, -, currencyValue, -, currency, -, computed⟩ := computed
  cases computed
  rfl

/-- `handle_lemon_squeezy_order_created`. -/
def handleLemonSqueezyOrderCreated (eventData : Value) : Handler Value :=
  .atomic (
    match orderId python eventData with
    | .error error => .raise (.malformed error)
    -- only the empty text counts as missing; `str(None)` is "None"
    | .ok orderId =>
      if orderId = "" then .raise .missingOrderId
      else processOnce ("ls:" ++ orderId)
        ((lemonSqueezyPayment python orderId eventData).mapError .malformed))

end LemonSqueezy

/-- What the M-Pesa handler computes; `amount` is the text of the amount. -/
def mpesaPayment (checkoutRequestId amount receiptNumber : String) : Payment where
  result := .dict [("checkout_request_id", .str checkoutRequestId), ("amount", .str amount),
    ("receipt_number", .str receiptNumber), ("status", .str "ticket_issued")]
  call := {
    action := "webhook.mpesa.payment_succeeded"
    metadata := some (.dict [("checkout_request_id", .str checkoutRequestId),
      ("receipt", .str receiptNumber)]) }

/-- `handle_mpesa_payment_succeeded`. -/
def handleMpesaPaymentSucceeded (checkoutRequestId amount receiptNumber : String) :
    Handler Value :=
  .atomic (processOnce ("mpesa:" ++ checkoutRequestId)
    (.ok (mpesaPayment checkoutRequestId amount receiptNumber)))

/-- One delivery of a webhook. -/
inductive Delivery
  | lemonSqueezy (eventData : Value)
  | mpesa (checkoutRequestId amount receiptNumber : String)

namespace Delivery

variable (python : PythonText)

/-- The handler of a delivery. -/
def program : Delivery → Handler Value
  | lemonSqueezy eventData => handleLemonSqueezyOrderCreated python eventData
  | mpesa checkoutRequestId amount receiptNumber =>
      handleMpesaPaymentSucceeded checkoutRequestId amount receiptNumber

/-- The payment a delivery is about; `none` when it names no order. -/
def paymentId : Delivery → Option String
  | lemonSqueezy eventData =>
      match orderId python eventData with
      | .ok orderId => if orderId = "" then none else some ("ls:" ++ orderId)
      | .error _ => none
  | mpesa checkoutRequestId _ _ => some ("mpesa:" ++ checkoutRequestId)

/-- What the handler computes, or the exception it raises on the way. -/
def payment : Delivery → Except WebhookError Payment
  | lemonSqueezy eventData =>
      match orderId python eventData with
      | .ok orderId => (lemonSqueezyPayment python orderId eventData).mapError .malformed
      | .error error => .error (.malformed error)
  | mpesa checkoutRequestId amount receiptNumber =>
      .ok (mpesaPayment checkoutRequestId amount receiptNumber)

/-- A delivery that names a payment runs the shared part in a transaction. -/
theorem program_eq {delivery : Delivery} {paymentId : String}
    (named : delivery.paymentId python = some paymentId) :
    delivery.program python = .begin (.call (.cacheGet (idemKey paymentId))
      (answered paymentId (delivery.payment python))) := by
  rw [← atomic_processOnce]
  cases delivery with
  | mpesa checkoutRequestId amount receiptNumber =>
      cases named
      rfl
  | lemonSqueezy eventData =>
      simp only [Delivery.paymentId] at named
      simp only [program, handleLemonSqueezyOrderCreated, payment]
      cases found : orderId python eventData with
      | error error => simp [found] at named
      | ok id =>
          rw [found] at named
          by_cases empty : id = ""
          · simp [empty] at named
          · simp only [empty, if_false, Option.some.injEq] at named ⊢
            rw [named]

/-- Every payment is computed with the status `ticket_issued`. -/
theorem status_payment {delivery : Delivery} {payment : Payment}
    (computed : delivery.payment python = .ok payment) :
    status payment.result = some "ticket_issued" := by
  cases delivery with
  | mpesa checkoutRequestId amount receiptNumber =>
      cases computed
      rfl
  | lemonSqueezy eventData =>
      simp only [Delivery.payment] at computed
      cases found : orderId python eventData with
      | error error =>
          rw [found] at computed
          cases computed
      | ok id =>
          rw [found] at computed
          exact status_lemonSqueezyPayment python (mapError_eq_ok.mp computed)

end Delivery

/-! ## The stores -/

/-- What `log_action` does to the trail. -/
abbrev AuditService := LogAction → Input → AuditTrail → Except AuditError (AuditLog × AuditTrail)

/-- A cache, each key with its value and the instant it expires, and the audit
trail. -/
structure Stores where
  cache : String → Option (Value × Time)
  audit : AuditTrail

namespace Stores

/-- What `cache.get(key)` finds at `now`. -/
def cached (stores : Stores) (now : Time) (key : String) : Option Value :=
  match stores.cache key with
  | some (value, expiry) => if now < expiry then some value else none
  | none => none

/-- The idempotency key of a payment in the cache. -/
def entry (stores : Stores) (paymentId : String) : Option (Value × Time) :=
  stores.cache (idemKey paymentId)

/-- `cache.set(key, value, ttl)` at `now`. -/
def setCached (stores : Stores) (now : Time) (key : String) (value : Value) (ttl : ℤ) : Stores :=
  { stores with cache := Function.update stores.cache key (some (value, now + ttl * second)) }

@[simp] theorem entry_setCached (stores : Stores) (now : Time) (paymentId : String)
    (value : Value) (ttl : ℤ) :
    (stores.setCached now (idemKey paymentId) value ttl).entry paymentId
      = some (value, now + ttl * second) := by
  simp [entry, setCached]

/-- What the check finds of a key that has not expired. -/
theorem cached_idemKey {stores : Stores} {now : Time} {paymentId : String}
    (alive : ∀ value expiry, stores.entry paymentId = some (value, expiry) → now < expiry) :
    stores.cached now (idemKey paymentId) = (stores.entry paymentId).map Prod.fst := by
  unfold cached entry at *
  cases found : stores.cache (idemKey paymentId) with
  | none => rfl
  | some pair => simp [alive pair.1 pair.2 found]

/-- One statement of a handler. -/
def exec (service : AuditService) (input : Input) :
    (stmt : Stmt) → Stores → Except WebhookError (stmt.Res × Stores)
  | .cacheGet key, stores => .ok (stores.cached input.now key, stores)
  | .cacheSet key value ttl, stores => .ok ((), stores.setCached input.now key value ttl)
  | .logAction call, stores =>
      match service call input stores.audit with
      | .ok (_, trail) => .ok ((), { stores with audit := trail })
      | .error error => .error (.audit error)

/-- `log_action` does not touch the cache. -/
theorem cache_logAction {service : AuditService} {input : Input} {call : LogAction}
    {stores stores' : Stores} {answer : Unit}
    (executed : stores.exec service input (.logAction call) = .ok (answer, stores')) :
    stores'.cache = stores.cache := by
  simp only [exec] at executed
  split at executed
  · cases executed
    rfl
  · cases executed

end Stores

/-- The stores of one worker alone.  Undoing a transaction undoes its part of
the audit trail, and nothing in the cache. -/
def store (service : AuditService) : Store signature Input Stores WebhookError where
  exec := Stores.exec service
  rollback saved stores := { stores with audit := saved.audit }

/-- The stores of many workers, with the rows each open transaction has added to
the audit trail. -/
structure SharedStores (ι : Type) where
  stores : Stores
  pending : ι → AuditTrail

namespace SharedStores

variable {ι : Type} [DecidableEq ι]

/-- `stores` with no open transaction. -/
def ofStores (stores : Stores) : SharedStores ι := ⟨stores, fun _ => []⟩

/-- The stores as one worker sees them. -/
def view (shared : SharedStores ι) (agent : ι) : Stores :=
  { shared.stores with audit := shared.stores.audit ++ shared.pending agent }

/-- The shared stores after a statement that leaves its worker with `seen`. -/
def put (shared : SharedStores ι) (agent : ι) (seen : Stores) : SharedStores ι where
  stores := { shared.stores with cache := seen.cache }
  pending := Function.update shared.pending agent
    (seen.audit.drop shared.stores.audit.length)

end SharedStores

/-- The stores of many workers as an engine.  The cache is written at once; the
audit trail when a transaction commits. -/
def engine (service : AuditService) (ι : Type) [DecidableEq ι] :
    Engine signature ι Input (SharedStores ι) WebhookError where
  exec agent input stmt shared :=
    some (((shared.view agent).exec service input stmt).map fun (answer, seen) =>
      (answer, shared.put agent seen))
  commit agent shared :=
    { stores := { shared.stores with audit := (shared.view agent).audit }
      pending := Function.update shared.pending agent [] }
  rollback agent shared := { shared with pending := Function.update shared.pending agent [] }

/-- A statement does to the shared stores what it does to its worker's view of them. -/
theorem exec_view {service : AuditService} {ι : Type} [DecidableEq ι] {agent : ι} {input : Input}
    {stmt : Stmt} {shared shared' : SharedStores ι} {answer : stmt.Res}
    (result : (engine service ι).exec agent input stmt shared = some (.ok (answer, shared'))) :
    ∃ seen, (shared.view agent).exec service input stmt = .ok (answer, seen) ∧
      shared' = shared.put agent seen := by
  cases executed : (shared.view agent).exec service input stmt with
  | error error =>
      simp only [engine, executed] at result
      cases result
  | ok pair =>
      simp only [engine, executed] at result
      cases result
      exact ⟨_, rfl, rfl⟩

/-- With an audit service that returns, no statement fails. -/
theorem exec_ne_error {service : AuditService} {ι : Type} [DecidableEq ι] {agent : ι}
    {input : Input} {stmt : Stmt} {shared : SharedStores ι} {error : WebhookError}
    (returns : ∀ call input trail, ∃ made, service call input trail = .ok made) :
    (engine service ι).exec agent input stmt shared ≠ some (.error error) := by
  intro fails
  cases stmt with
  | cacheGet key => cases fails
  | cacheSet key value ttl => cases fails
  | logAction call =>
      obtain ⟨made, returned⟩ := returns call input (shared.view agent).audit
      simp only [engine, Stores.exec, returned] at fails
      cases fails

namespace Sample

/-- `log_action` without the guard that refuses its entry. -/
def appending : AuditService := fun call input trail =>
  .ok (call.entry input.uuid,
    trail ++ [{ call.entry input.uuid with id := input.uuid, createdAt := input.now }])

/-- The orders below are in ASCII. -/
def python : PythonText := ⟨fun _ => false, fun char => [char], id⟩

/-- Nothing in the cache, nothing in the audit trail. -/
def stores : Stores := ⟨fun _ => none, []⟩

/-- A LemonSqueezy order. -/
def order : Delivery := .lemonSqueezy (.dict [("data", .dict [("id", .str "order-123"),
  ("attributes", .dict [("total", .int 150000), ("currency", .str "USD"),
    ("custom_data", .dict [("hold_token", .str "hold-abc")])])])])

/-- An M-Pesa payment. -/
def checkout : Delivery := .mpesa "ws_CO_123" "1500.0" "NLJ7RT61SV"

end Sample

end Ticketing.Webhooks
