import Ticketing.Python
import Ticketing.Transactional.Program

/-!
# STK callbacks

`parse_stk_callback` of `payments/mpesa.py`.

## Main Definitions

* `parseStkCallback` — the parser
* `StkCallback` — the two shapes of what it returns
* `ReportsPayment` — the callbacks that report a payment

## Main Results

* `parseStkCallback_success_iff` — the parser reports success of exactly these

## Design Notes

The callback is any JSON value.  What the parser navigates it with are the operations of
Python, with the exceptions they raise where a part has another shape.
-/

namespace Ticketing

/-- The exceptions of the parser. -/
inductive CallbackError
  | operation (error : PythonError)
  /-- `KeyError`: an item without a name. -/
  | key
  deriving DecidableEq

namespace Value

/-- `value == 0`: besides the integer, `False` and the zeros of the floats. -/
def isZero : Value → Bool
  | bool value => !value
  | int value => value = 0
  | float text => text = "0.0" || text = "-0.0"
  | _ => false

/-- `list(value)`. -/
def iterate : Value → Except PythonError (List Value)
  | list items => .ok items
  | dict entries => .ok (entries.map fun entry => .str entry.1)
  | str text => .ok (text.toList.map fun character => .str character.toString)
  | _ => .error .type

/-- `value['Name']`, of a value that is not a dict a `TypeError`. -/
def item (value : Value) (key : String) : Except CallbackError Value :=
  match value with
  | dict entries =>
      match entries.lookup key with
      | some found => .ok found
      | Option.none => .error .key
  | _ => .error (.operation .type)

/-- The value can be a key of a dict. -/
def hashable : Value → Bool
  | list _ => false
  | dict _ => false
  | _ => true

end Value

namespace Payments

open Transactional

/-- What `parse_stk_callback` returns. -/
inductive StkCallback
  /-- `'success': False`. -/
  | failure (checkoutRequestId resultCode resultDesc : Value)
  /-- `'success': True`. -/
  | success (checkoutRequestId amount receiptNumber phone transactionDate : Value)

/-- `callback_data.get('Body', {}).get('stkCallback', {})`. -/
def stkBody (callbackData : Value) : Except PythonError Value := do
  let body ← callbackData.get "Body" (.dict [])
  body.get "stkCallback" (.dict [])

/-- One entry of the dict comprehension over the items: `i['Name']: i.get('Value')`. -/
def metadataEntry (item : Value) : Except CallbackError (Value × Value) := do
  let name ← item.item "Name"
  let value ← (item.get "Value" .none).mapError .operation
  if name.hashable then return (name, value) else .error (.operation .type)

/-- The dict comprehension over the items, its entries in the order of the items. -/
def metadataItems (body : Value) : Except CallbackError (List (Value × Value)) := do
  let metadata ← (body.get "CallbackMetadata" (.dict [])).mapError .operation
  let items ← (metadata.get "Item" (.list [])).mapError .operation
  (← items.iterate.mapError .operation).mapM metadataEntry

/-- `name == text`. -/
def named (text : String) : Value → Bool
  | .str name => name = text
  | _ => false

/-- `items.get(name)`: of entries with equal names the last one counts. -/
def metadataValue (items : List (Value × Value)) (name : String) : Value :=
  ((items.reverse.find? fun entry => named name entry.1).map Prod.snd).getD .none

/-- `parse_stk_callback`. -/
def parseStkCallback (callbackData : Value) : Except CallbackError StkCallback := do
  let body ← (stkBody callbackData).mapError .operation
  let resultCode ← (body.get "ResultCode" .none).mapError .operation
  let checkoutRequestId ← (body.get "CheckoutRequestID" (.str "")).mapError .operation
  if resultCode.isZero then
    let items ← metadataItems body
    return .success checkoutRequestId (metadataValue items "Amount")
      (metadataValue items "MpesaReceiptNumber") (metadataValue items "PhoneNumber")
      (metadataValue items "TransactionDate")
  else
    let resultDesc ← (body.get "ResultDesc" (.str "")).mapError .operation
    return .failure checkoutRequestId resultCode resultDesc

/-- The callback reports a payment: its result code is zero and its metadata can be read. -/
def ReportsPayment (callbackData : Value) : Prop :=
  ∃ entries, stkBody callbackData = .ok (.dict entries) ∧
    ((entries.lookup "ResultCode").getD .none).isZero = true ∧
    ∃ items, metadataItems (.dict entries) = .ok items

/-- The identifier of a parsed callback, in either shape. -/
def StkCallback.checkoutRequestId : StkCallback → Value
  | failure checkoutRequestId .. => checkoutRequestId
  | success checkoutRequestId .. => checkoutRequestId

/-- What the parser does once it has the body. -/
theorem parseStkCallback_of_body {callbackData : Value} {entries : List (String × Value)}
    (body : stkBody callbackData = .ok (.dict entries)) :
    parseStkCallback callbackData =
      let resultCode := (entries.lookup "ResultCode").getD .none
      let checkoutRequestId := (entries.lookup "CheckoutRequestID").getD (.str "")
      if resultCode.isZero then
        (metadataItems (.dict entries)).map fun items =>
          .success checkoutRequestId (metadataValue items "Amount")
            (metadataValue items "MpesaReceiptNumber") (metadataValue items "PhoneNumber")
            (metadataValue items "TransactionDate")
      else
        .ok (.failure checkoutRequestId resultCode
          ((entries.lookup "ResultDesc").getD (.str ""))) := by
  rw [parseStkCallback, body]
  refine if_congr Iff.rfl ?_ rfl
  show (metadataItems (.dict entries)).bind _ = _
  cases metadataItems (.dict entries) with
  | error error => rfl
  | ok items => rfl

/-- A body that is no dict ends the parser. -/
theorem parseStkCallback_of_no_body {callbackData : Value}
    (shape : ∀ entries, stkBody callbackData ≠ .ok (.dict entries)) :
    ∃ error, parseStkCallback callbackData = .error error := by
  rw [parseStkCallback]
  cases found : stkBody callbackData with
  | error error => exact ⟨.operation error, rfl⟩
  | ok body =>
      cases body with
      | dict entries => exact absurd found (shape entries)
      | _ => exact ⟨.operation .attribute, rfl⟩

/-- **Success.**  The parser returns `'success': True` of exactly the callbacks that report a
payment. -/
theorem parseStkCallback_success_iff (callbackData : Value) :
    (∃ checkoutRequestId amount receiptNumber phone transactionDate,
      parseStkCallback callbackData
        = .ok (.success checkoutRequestId amount receiptNumber phone transactionDate)) ↔
      ReportsPayment callbackData := by
  constructor
  · rintro ⟨checkoutRequestId, amount, receiptNumber, phone, transactionDate, parsed⟩
    by_cases shape : ∃ entries, stkBody callbackData = .ok (.dict entries)
    · obtain ⟨entries, body⟩ := shape
      rw [parseStkCallback_of_body body] at parsed
      refine ⟨entries, body, ?_⟩
      by_cases zero : ((entries.lookup "ResultCode").getD .none).isZero = true
      · simp only [zero, if_true, map_eq_ok] at parsed
        obtain ⟨items, read, -⟩ := parsed
        exact ⟨zero, items, read⟩
      · simp only [zero] at parsed
        cases parsed
    · obtain ⟨error, fails⟩ := parseStkCallback_of_no_body (not_exists.mp shape)
      rw [fails] at parsed
      cases parsed
  · rintro ⟨entries, body, zero, items, read⟩
    rw [parseStkCallback_of_body body]
    simp only [zero, if_true, read]
    exact ⟨_, _, _, _, _, rfl⟩

end Payments

end Ticketing
