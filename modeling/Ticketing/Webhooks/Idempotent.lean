import Ticketing.Webhooks.Retries

/-!
# Payments kept apart

A history of deliveries that mixes the two providers and any number of payments, all in
one idempotency store.

## Main Definitions

* `Source`, `Source.paymentId` — a provider with the identifier it gives a payment, and
  the identifier the store knows it by
* `Stores.getResult` — `get_result`
* `Stores.Holds` — what the store holds of a payment until an instant
* `ProcessedOnce` — what a history promises about one payment

## Main Results

* `Source.paymentId_injective` — two payments never share an identifier
* `report_own`, `report_other` — one delivery, seen from its own payment and from another
* `processed_once_and_apart` — the promise, and that deliveries of other payments do not
  matter

## Design Notes

Seen from one payment the store is an optional result: a delivery of the payment sets it
if there is none, and a delivery of any other payment leaves it alone.
-/

namespace Ticketing.Webhooks

open Transactional

inductive Provider
  | lemonSqueezy
  | mpesa
  deriving DecidableEq

/-- A provider, with the identifier it gives a payment. -/
abbrev Source := Provider × String

namespace Source

/-- The identifier that the handlers build for the store. -/
def paymentId : Source → String
  | (.lemonSqueezy, id) => "ls:" ++ id
  | (.mpesa, id) => "mpesa:" ++ id

/-- **Separate keys.**  Whatever the identifiers are, the identifiers in the store tell the
payments apart. -/
theorem paymentId_injective : Function.Injective paymentId := by
  rintro ⟨provider, id⟩ ⟨provider', id'⟩ same
  have texts := congrArg String.toList same
  cases provider with
  | lemonSqueezy =>
      cases provider' with
      | lemonSqueezy =>
          simp only [paymentId, String.toList_append, List.append_cancel_left_eq] at texts
          rw [String.toList_injective texts]
      | mpesa =>
          simp only [paymentId, String.toList_append] at texts
          cases texts
  | mpesa =>
      cases provider' with
      | lemonSqueezy =>
          simp only [paymentId, String.toList_append] at texts
          cases texts
      | mpesa =>
          simp only [paymentId, String.toList_append, List.append_cancel_left_eq] at texts
          rw [String.toList_injective texts]

end Source

/-- The keys of two identifiers are the same only if the identifiers are. -/
theorem idemKey_injective : Function.Injective idemKey := by
  intro first second same
  have texts := congrArg String.toList same
  simp only [idemKey, String.toList_append, List.append_cancel_left_eq] at texts
  exact String.toList_injective texts

/-- The payment that a delivery is about; `none` when it names no order. -/
def Delivery.source (python : PythonText) : Delivery → Option Source
  | .lemonSqueezy eventData =>
      match orderId python eventData with
      | .ok orderId => if orderId = "" then none else some (.lemonSqueezy, orderId)
      | .error _ => none
  | .mpesa checkoutRequestId _ _ => some (.mpesa, checkoutRequestId)

/-- The store knows a payment by the identifier of its source. -/
theorem Delivery.paymentId_of_source {python : PythonText} {delivery : Delivery} {source : Source}
    (named : delivery.source python = some source) :
    delivery.paymentId python = some source.paymentId := by
  cases delivery with
  | mpesa checkoutRequestId amount receiptNumber =>
      cases named
      rfl
  | lemonSqueezy eventData =>
      simp only [Delivery.source, Delivery.paymentId] at named ⊢
      cases found : orderId python eventData with
      | error error => simp [found] at named
      | ok id =>
          rw [found] at named
          by_cases empty : id = ""
          · simp [empty] at named
          · simp only [empty, if_false, Option.some.injEq] at named ⊢
            rw [← named]
            rfl

/-- A delivery that the handler works off without an exception of its own. -/
structure Delivery.WellFormed (python : PythonText) (delivery : Delivery) : Prop where
  named : ∃ source, delivery.source python = some source
  computed : ∃ ticket, delivery.payment python = .ok ticket

/-- Every clock reading of an attempt is less than the lifetime of a key after `start`. -/
def Attempt.Within (start : Time) (attempt : Attempt) : Prop :=
  ∀ n, start ≤ (attempt.inputs n).now ∧ (attempt.inputs n).now < start + idemTtl * second

namespace Stores

/-- `get_result`. -/
def getResult (stores : Stores) (now : Time) (paymentId : String) : Option Value :=
  stores.cached now (idemKey paymentId)

/-- What the store holds of a payment until `expiry`. -/
def Holds (stores : Stores) (expiry : Time) (source : Source) : Option Value → Prop
  | none => stores.entry source.paymentId = none
  | some result => ∃ later, stores.entry source.paymentId = some (result, later) ∧ expiry ≤ later

/-- What is held is what `get_result` finds. -/
theorem Holds.getResult {stores : Stores} {expiry now : Time} {source : Source}
    {result : Option Value} (holds : stores.Holds expiry source result) (early : now < expiry) :
    stores.getResult now source.paymentId = result := by
  cases result with
  | none => exact cached_unmarked now holds
  | some result =>
      obtain ⟨later, marked, lasting⟩ := holds
      rw [Stores.getResult, cached_idemKey, marked, Option.map_some]
      intro value found present
      rw [marked] at present
      cases present
      exact early.trans_le lasting

/-- Only the entry of the payment matters. -/
theorem Holds.of_entry {stores stores' : Stores} {expiry : Time} {source : Source}
    {result : Option Value} (holds : stores.Holds expiry source result)
    (same : stores'.entry source.paymentId = stores.entry source.paymentId) :
    stores'.Holds expiry source result := by
  cases result with
  | none => exact same.trans holds
  | some result =>
      obtain ⟨later, marked, lasting⟩ := holds
      exact ⟨later, same.trans marked, lasting⟩

end Stores

/-! ## One delivery -/

section Delivery

variable {service : AuditService} {python : PythonText} {attempt : Attempt} {stores : Stores}

/-- With an audit service that returns, the first delivery of a payment is worked off. -/
theorem report_first (returns : ∀ call input trail, ∃ made, service call input trail = .ok made)
    {paymentId : String} (named : attempt.delivery.paymentId python = some paymentId)
    (whole : attempt.fault = none) (unmarked : stores.entry paymentId = none) {ticket : Payment}
    (computed : attempt.delivery.payment python = .ok ticket) :
    (attempt.report service python stores).outcome = .returned ticket.result ∧
      (attempt.report service python stores).after.cache = (stores.setCached
        (attempt.inputs 1).now (idemKey paymentId) ticket.result idemTtl).cache := by
  have late : ∀ n, attempt.fault = some n → 2 < n := by
    intro n fault
    rw [whole] at fault
    cases fault
  have found := cached_unmarked (attempt.inputs 0).now unmarked
  obtain ⟨made, logged⟩ := returns ticket.call (attempt.inputs 2) stores.audit
  refine ⟨?_, (report_late named unmarked computed late).1⟩
  simp only [Attempt.report, Delivery.program_eq python named, computed, whole]
  simp [Program.run, store, Stores.exec, found, answered, Stores.setCached, logged]

/-- An uninterrupted delivery of a marked payment is refused. -/
theorem report_again {paymentId : String}
    (named : attempt.delivery.paymentId python = some paymentId) (whole : attempt.fault = none)
    {value : Value} {expiry : Time} (marked : stores.entry paymentId = some (value, expiry))
    (alive : attempt.Alive expiry) :
    (attempt.report service python stores).outcome = .returned alreadyProcessed ∧
      (attempt.report service python stores).after = stores := by
  have found : stores.cached (attempt.inputs 0).now (idemKey paymentId) = some value := by
    rw [Stores.cached_idemKey, marked, Option.map_some]
    intro value' expiry' present
    rw [marked] at present
    cases present
    exact alive 0
  refine ⟨?_, (report_marked named marked alive).1⟩
  simp only [Attempt.report, Delivery.program_eq python named, whole]
  simp [Program.run, store, Stores.exec, found, answered]

/-- **One delivery, from its own payment.**  It issues the ticket if the store holds no
result, and is refused if it does; afterwards the store holds one. -/
theorem report_own (returns : ∀ call input trail, ∃ made, service call input trail = .ok made)
    {start : Time} {source : Source} (named : attempt.delivery.source python = some source)
    (whole : attempt.fault = none) (within : attempt.Within start) {ticket : Payment}
    (computed : attempt.delivery.payment python = .ok ticket) {result : Option Value}
    (holds : stores.Holds (start + idemTtl * second) source result) :
    (attempt.report service python stores).outcome
        = .returned (result.elim ticket.result fun _ => alreadyProcessed) ∧
      (attempt.report service python stores).after.Holds (start + idemTtl * second) source
        (some (result.getD ticket.result)) := by
  have known := Delivery.paymentId_of_source named
  cases result with
  | none =>
      obtain ⟨outcome, cache⟩ := report_first returns known whole holds computed
      refine ⟨outcome, (attempt.inputs 1).now + idemTtl * second, ?_, ?_⟩
      · exact (congrFun cache (idemKey source.paymentId)).trans (Stores.entry_setCached ..)
      · exact add_le_add_left (within 1).1 _
  | some result =>
      obtain ⟨later, marked, lasting⟩ := holds
      have alive : attempt.Alive later := fun n => (within n).2.trans_le lasting
      obtain ⟨outcome, unchanged⟩ := @report_again service _ _ _ _ known whole _ _ marked alive
      refine ⟨outcome, later, ?_, lasting⟩
      rw [unchanged, marked]
      rfl

/-- A delivery writes no key but that of its payment. -/
theorem cache_report_of_ne {paymentId key : String}
    (named : attempt.delivery.paymentId python = some paymentId) (whole : attempt.fault = none)
    (different : key ≠ idemKey paymentId) :
    (attempt.report service python stores).after.cache key = stores.cache key := by
  simp only [Attempt.report, Delivery.program_eq python named, whole]
  cases found : stores.cached (attempt.inputs 0).now (idemKey paymentId) with
  | some value => simp [Program.run, store, Stores.exec, found, answered]
  | none =>
      cases computed : attempt.delivery.payment python with
      | error error => simp [Program.run, store, Stores.exec, found, answered, Store.abort]
      | ok ticket =>
          cases logged : service ticket.call (attempt.inputs 2) stores.audit with
          | error error =>
              simp [Program.run, store, Stores.exec, found, answered, Stores.setCached, logged,
                Store.abort, different]
          | ok made =>
              simp [Program.run, store, Stores.exec, found, answered, Stores.setCached, logged,
                different]

/-- **One delivery, from another payment.**  The store holds of it what it held. -/
theorem report_other {source other : Source} {expiry : Time} {result : Option Value}
    (named : attempt.delivery.source python = some source) (different : other ≠ source)
    (whole : attempt.fault = none) (holds : stores.Holds expiry other result) :
    (attempt.report service python stores).after.Holds expiry other result := by
  refine holds.of_entry (cache_report_of_ne (Delivery.paymentId_of_source named) whole ?_)
  intro same
  exact different (Source.paymentId_injective (idemKey_injective same))

end Delivery

/-! ## Histories -/

/-- A report about a delivery of `source`. -/
def Report.IsOf (python : PythonText) (source : Source) (report : Report) : Prop :=
  report.attempt.delivery.source python = some source

instance (python : PythonText) (source : Source) (report : Report) :
    Decidable (report.IsOf python source) :=
  inferInstanceAs (Decidable (_ = _))

/-- What a history promises about one payment. -/
structure ProcessedOnce (python : PythonText) (expiry : Time) (source : Source)
    (history : List Report) : Prop where
  /-- The first delivery issues the ticket, and its result is what `get_result` finds from
  then on. -/
  first : ∀ earlier report later, history = earlier ++ report :: later →
    report.IsOf python source → (∀ other ∈ earlier, ¬ other.IsOf python source) →
    ∃ ticket, report.attempt.delivery.payment python = .ok ticket ∧
      status ticket.result = some "ticket_issued" ∧ report.outcome = .returned ticket.result ∧
      ∀ other ∈ report :: later, ∀ now < expiry,
        other.after.getResult now source.paymentId = some ticket.result
  /-- Every later one is refused. -/
  again : ∀ earlier report later, history = earlier ++ report :: later →
    report.IsOf python source → (∃ other ∈ earlier, other.IsOf python source) →
    report.outcome = .returned alreadyProcessed

/-- The responses to the deliveries of one payment. -/
def responses (python : PythonText) (source : Source) (history : List Report) :
    List (Outcome WebhookError Value) :=
  (history.filter fun report => report.IsOf python source).map Report.outcome

/-- A delivery of the payment adds its response. -/
theorem responses_cons {python : PythonText} {source : Source} {head : Report}
    {history : List Report} (isOf : head.IsOf python source) :
    responses python source (head :: history) = head.outcome :: responses python source history :=
  congrArg (List.map Report.outcome) (List.filter_cons_of_pos (decide_eq_true isOf))

/-- A delivery of another payment adds none. -/
theorem responses_cons_other {python : PythonText} {source : Source} {head : Report}
    {history : List Report} (foreign : ¬ head.IsOf python source) :
    responses python source (head :: history) = responses python source history :=
  congrArg (List.map Report.outcome)
    (List.filter_cons_of_neg fun kept => foreign (of_decide_eq_true kept))

/-- The deliveries of one payment. -/
def deliveriesOf (python : PythonText) (source : Source) (attempts : List Attempt) :
    List Attempt :=
  attempts.filter fun attempt => attempt.delivery.source python = some source

/-- An attempt that the handler works off: well-formed, uninterrupted, in time. -/
structure Attempt.Sound (python : PythonText) (start : Time) (attempt : Attempt) : Prop where
  wellFormed : attempt.delivery.WellFormed python
  whole : attempt.fault = none
  within : attempt.Within start

section Histories

variable {service : AuditService} {python : PythonText} {start : Time} {source : Source}
  {stores : Stores}

/-- A sound delivery is one of the payment or one of another. -/
theorem Attempt.Sound.own_or_other {attempt : Attempt} (sound : attempt.Sound python start)
    (source : Source) :
    attempt.delivery.source python = some source ∨
      ∃ own, attempt.delivery.source python = some own ∧ source ≠ own := by
  obtain ⟨own, named⟩ := sound.wellFormed.named
  by_cases same : source = own
  · subst same
    exact Or.inl named
  · exact Or.inr ⟨own, named, same⟩

/-- A delivery of another payment is none of this one. -/
theorem not_source {attempt : Attempt} {own : Source}
    (named : attempt.delivery.source python = some own) (different : source ≠ own) :
    ¬ attempt.delivery.source python = some source := by
  intro also
  rw [named] at also
  exact different (Option.some.inj also).symm

/-- One sound delivery while the store holds a result of the payment. -/
theorem Attempt.Sound.report_held
    (returns : ∀ call input trail, ∃ made, service call input trail = .ok made)
    {attempt : Attempt} (sound : attempt.Sound python start) {result : Value}
    (holds : stores.Holds (start + idemTtl * second) source (some result)) :
    (attempt.report service python stores).after.Holds (start + idemTtl * second) source
        (some result) ∧
      ((attempt.report service python stores).IsOf python source →
        (attempt.report service python stores).outcome = .returned alreadyProcessed) := by
  obtain ⟨ticket, computed⟩ := sound.wellFormed.computed
  rcases sound.own_or_other source with named | ⟨own, named, different⟩
  · obtain ⟨outcome, after⟩ := report_own returns named sound.whole sound.within computed holds
    exact ⟨after, fun _ => outcome⟩
  · exact ⟨report_other named different sound.whole holds,
      fun isOf => absurd isOf (not_source named different)⟩

/-- Once the store holds a result, it stays, and every delivery of the payment is refused. -/
theorem reports_held
    (returns : ∀ call input trail, ∃ made, service call input trail = .ok made)
    {attempts : List Attempt} (sound : ∀ attempt ∈ attempts, attempt.Sound python start)
    {result : Value} (holds : stores.Holds (start + idemTtl * second) source (some result)) :
    ∀ report ∈ reports service python attempts stores,
      report.after.Holds (start + idemTtl * second) source (some result) ∧
        (report.IsOf python source → report.outcome = .returned alreadyProcessed) := by
  induction attempts generalizing stores with
  | nil => exact List.forall_mem_nil _
  | cons attempt rest ih =>
      obtain ⟨ok, soundRest⟩ := List.forall_mem_cons.mp sound
      have step := ok.report_held returns holds
      have later := ih soundRest step.1
      exact List.forall_mem_cons.mpr ⟨step, later⟩

/-- A delivery of another payment in front of a history changes nothing of the promise. -/
theorem ProcessedOnce.cons_other {expiry : Time} {head : Report} {history : List Report}
    (promise : ProcessedOnce python expiry source history)
    (foreign : ¬ head.IsOf python source) :
    ProcessedOnce python expiry source (head :: history) where
  first := by
    intro earlier report later split isOf unseen
    cases earlier with
    | nil =>
        cases split
        exact absurd isOf foreign
    | cons head' earlier =>
        cases split
        exact promise.first earlier report later rfl isOf fun other inside =>
          unseen other (List.mem_cons_of_mem _ inside)
  again := by
    intro earlier report later split isOf seen
    cases earlier with
    | nil =>
        cases split
        exact absurd isOf foreign
    | cons head' earlier =>
        cases split
        obtain ⟨other, inside, isOther⟩ := seen
        refine promise.again earlier report later rfl isOf ⟨other, ?_, isOther⟩
        rcases List.mem_cons.mp inside with rfl | inside
        · exact absurd isOther foreign
        · exact inside

/-- The first delivery of a payment in front of refused ones makes the promise good. -/
theorem ProcessedOnce.cons_first {expiry : Time} {head : Report} {history : List Report}
    {ticket : Payment} (isFirst : head.IsOf python source)
    (computed : head.attempt.delivery.payment python = .ok ticket)
    (outcome : head.outcome = .returned ticket.result)
    (held : ∀ report ∈ head :: history, report.after.Holds expiry source (some ticket.result))
    (refused : ∀ report ∈ history, report.IsOf python source →
      report.outcome = .returned alreadyProcessed) :
    ProcessedOnce python expiry source (head :: history) where
  first := by
    intro earlier report later split isOf unseen
    cases earlier with
    | nil =>
        cases split
        exact ⟨ticket, computed, Delivery.status_payment python computed, outcome,
          fun other inside now early => (held other inside).getResult early⟩
    | cons head' earlier =>
        cases split
        exact absurd isFirst (unseen head List.mem_cons_self)
  again := by
    intro earlier report later split isOf seen
    cases earlier with
    | nil =>
        obtain ⟨other, inside, -⟩ := seen
        exact absurd inside List.not_mem_nil
    | cons head' earlier =>
        cases split
        exact refused report (List.mem_append_right _ List.mem_cons_self) isOf

/-- **Run lemma.**  From stores that hold nothing of the payment, the promise is kept. -/
theorem reports_processedOnce
    (returns : ∀ call input trail, ∃ made, service call input trail = .ok made)
    {attempts : List Attempt} (sound : ∀ attempt ∈ attempts, attempt.Sound python start)
    (holds : stores.Holds (start + idemTtl * second) source none) :
    ProcessedOnce python (start + idemTtl * second) source
      (reports service python attempts stores) := by
  induction attempts generalizing stores with
  | nil =>
      exact ⟨fun earlier report later split => by simp [reports] at split,
        fun earlier report later split => by simp [reports] at split⟩
  | cons attempt rest ih =>
      obtain ⟨ok, soundRest⟩ := List.forall_mem_cons.mp sound
      obtain ⟨ticket, computed⟩ := ok.wellFormed.computed
      rcases ok.own_or_other source with named | ⟨own, named, different⟩
      · obtain ⟨outcome, after⟩ := report_own returns named ok.whole ok.within computed holds
        have later := reports_held returns soundRest after
        exact .cons_first named computed outcome
          (List.forall_mem_cons.mpr ⟨after, fun report inside => (later report inside).1⟩)
          fun report inside => (later report inside).2
      · exact (ih soundRest (report_other named different ok.whole holds)).cons_other
          (not_source named different)

/-- **Deletion.**  From stores that hold the same of a payment, its deliveries alone get the
responses they get among all others. -/
theorem responses_deliveriesOf
    (returns : ∀ call input trail, ∃ made, service call input trail = .ok made)
    {attempts : List Attempt} (sound : ∀ attempt ∈ attempts, attempt.Sound python start)
    {alone : Stores} {result : Option Value}
    (holds : stores.Holds (start + idemTtl * second) source result)
    (holdsAlone : alone.Holds (start + idemTtl * second) source result) :
    responses python source (reports service python (deliveriesOf python source attempts) alone)
      = responses python source (reports service python attempts stores) := by
  induction attempts generalizing stores alone result with
  | nil => rfl
  | cons attempt rest ih =>
      obtain ⟨ok, soundRest⟩ := List.forall_mem_cons.mp sound
      obtain ⟨ticket, computed⟩ := ok.wellFormed.computed
      rcases ok.own_or_other source with named | ⟨own, named, different⟩
      · obtain ⟨outcome, after⟩ := report_own returns named ok.whole ok.within computed holds
        obtain ⟨outcomeAlone, afterAlone⟩ :=
          report_own returns named ok.whole ok.within computed holdsAlone
        have kept : deliveriesOf python source (attempt :: rest)
            = attempt :: deliveriesOf python source rest :=
          List.filter_cons_of_pos (decide_eq_true named)
        have isOf (world : Stores) : (attempt.report service python world).IsOf python source :=
          named
        rw [kept, reports, reports, responses_cons (isOf _), responses_cons (isOf _), outcome,
          outcomeAlone, ih soundRest after afterAlone]
      · have dropped : deliveriesOf python source (attempt :: rest)
            = deliveriesOf python source rest :=
          List.filter_cons_of_neg fun kept => not_source named different (of_decide_eq_true kept)
        have after : (attempt.report service python stores).after.Holds
            (start + idemTtl * second) source result :=
          report_other named different ok.whole holds
        have foreign : ¬ (attempt.report service python stores).IsOf python source :=
          not_source named different
        rw [dropped, reports, responses_cons_other foreign, ih soundRest after holdsAlone]

end Histories

/-- **Once and apart.**  From a store that holds no payment, in every sequence of well-formed
deliveries shorter than the lifetime of a key, each payment is processed once, and its
responses are those that its deliveries get alone. -/
theorem processed_once_and_apart (service : AuditService) (python : PythonText)
    (returns : ∀ call input trail, ∃ made, service call input trail = .ok made) (start : Time)
    {stores : Stores} (fresh : ∀ paymentId, stores.entry paymentId = none)
    {attempts : List Attempt} (sound : ∀ attempt ∈ attempts, attempt.Sound python start)
    (source : Source) :
    ProcessedOnce python (start + idemTtl * second) source
        (reports service python attempts stores) ∧
      responses python source (reports service python (deliveriesOf python source attempts) stores)
        = responses python source (reports service python attempts stores) := by
  have holds : stores.Holds (start + idemTtl * second) source none := fresh _
  exact ⟨reports_processedOnce returns sound holds,
    responses_deliveriesOf returns sound holds holds⟩

namespace Sample

/-- A payment of each provider, the first one delivered again. -/
def mixed : List Attempt := [attempt checkout none, attempt order none, attempt checkout none]

theorem order_wellFormed : order.WellFormed python where
  named := ⟨(.lemonSqueezy, "order-123"), rfl⟩
  computed := ⟨_, rfl⟩

theorem checkout_wellFormed : checkout.WellFormed python where
  named := ⟨(.mpesa, "ws_CO_123"), rfl⟩
  computed := ⟨_, rfl⟩

theorem attempt_sound {delivery : Delivery} (wellFormed : delivery.WellFormed python) :
    (attempt delivery none).Sound python 0 where
  wellFormed := wellFormed
  whole := rfl
  within := fun _ => show (0 : Time) ≤ 0 ∧ (0 : Time) < 0 + idemTtl * second by decide

end Sample

theorem processed_once_and_apart_sample :
    ProcessedOnce Sample.python (0 + idemTtl * second) (.mpesa, "ws_CO_123")
        (reports Sample.appending Sample.python Sample.mixed Sample.stores) ∧
      responses Sample.python (.mpesa, "ws_CO_123")
          (reports Sample.appending Sample.python
            (deliveriesOf Sample.python (.mpesa, "ws_CO_123") Sample.mixed) Sample.stores)
        = responses Sample.python (.mpesa, "ws_CO_123")
            (reports Sample.appending Sample.python Sample.mixed Sample.stores) := by
  refine processed_once_and_apart Sample.appending Sample.python (fun _ _ _ => ⟨_, rfl⟩) 0
    (fun _ => rfl) (fun attempt inside => ?_) _
  simp only [Sample.mixed, List.mem_cons, List.not_mem_nil, or_false] at inside
  rcases inside with rfl | rfl | rfl
  · exact Sample.attempt_sound Sample.checkout_wellFormed
  · exact Sample.attempt_sound Sample.order_wellFormed
  · exact Sample.attempt_sound Sample.checkout_wellFormed

end Ticketing.Webhooks
