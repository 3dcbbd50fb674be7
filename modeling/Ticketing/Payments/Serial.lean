import Ticketing.Payments.Refunds

/-!
# Serial refunds

What one complete refund does when nothing else is running, and what whole
sequences of refunds preserve.

## Main Definitions

* `Restored` — what the loop over a list of tickets does to the tables
* `Refunded` — what a successful refund does to the tables
* `RefundRun` — everything a refund can do
* `serialRefunds` — sequences of complete refunds

## Main Results

* `requestRefund_run` — the specification of `request_refund`
* `refund_exact` — refunds are exact, all or nothing, and happen at most once

## Design Notes

The loop writes absolute values, but each of them is computed from a tier that has
just been loaded; the induction over the tickets carries the exact counters.
-/

namespace Ticketing.Payments

open Transactional Program

/-! ## The loop -/

/-- The loop has restored one place for each ticket of the list, and cancelled the
tickets. -/
structure Restored (tickets : List (Uuid × Ticket)) (before after : Ledger) : Prop where
  payments : after.payments = before.payments
  audit : after.audit = before.audit
  cancelled : ∀ id, after.tickets.get id = (before.tickets.get id).map fun ticket =>
    if id ∈ tickets.map Prod.fst then { ticket with status := .cancelled } else ticket
  noTier : ∀ id, before.tiers.get id = none → after.tiers.get id = none
  restored : ∀ id tier, before.tiers.get id = some tier → ∃ sold,
    sold + onTier tickets id = tier.quantitySold ∧
      after.tiers.get id = some { tier with quantitySold := sold }

/-- Some tier has sold fewer tickets than lie on it. -/
def Short (tickets : List (Uuid × Ticket)) (ledger : Ledger) : Prop :=
  ∃ id tier, ledger.tiers.get id = some tier ∧ tier.quantitySold < onTier tickets id

theorem Restored.nil (ledger : Ledger) : Restored [] ledger ledger where
  payments := rfl
  audit := rfl
  cancelled id := by simp
  noTier _ absent := absent
  restored id tier present := ⟨tier.quantitySold, rfl, present⟩

/-- The ledger after one round of the loop. -/
def Ledger.restoreOne (ledger : Ledger) (ticketId : Uuid) (ticket : Ticket) (tier : TicketTier) :
    Ledger :=
  { ledger with
    tickets := ledger.tickets.set ticketId { ticket with status := .cancelled }
    tiers := ledger.tiers.set ticket.tierId { tier with quantitySold := tier.quantitySold - 1 } }

section Round

variable {ledger after : Ledger} {ticketId : Uuid} {ticket : Ticket} {tier : TicketTier}
variable {rest : List (Uuid × Ticket)}

theorem onTier_cons_self (ticketId : Uuid) (ticket : Ticket) (rest : List (Uuid × Ticket)) :
    onTier ((ticketId, ticket) :: rest) ticket.tierId = onTier rest ticket.tierId + 1 := by
  simp [onTier]

theorem onTier_cons_of_ne (ticketId : Uuid) {id : Uuid} {ticket : Ticket}
    (rest : List (Uuid × Ticket)) (different : id ≠ ticket.tierId) :
    onTier ((ticketId, ticket) :: rest) id = onTier rest id := by
  simp [onTier, different.symm]

/-- One round, then the rest of the loop. -/
theorem Restored.cons (stored : ledger.tickets.get ticketId = some ticket)
    (present : ledger.tiers.get ticket.tierId = some tier) (enough : 0 < tier.quantitySold)
    (others : Restored rest (ledger.restoreOne ticketId ticket tier) after) :
    Restored ((ticketId, ticket) :: rest) ledger after where
  payments := others.payments
  audit := others.audit
  cancelled id := by
    rw [others.cancelled, Ledger.restoreOne, Table.get_set]
    by_cases same : id = ticketId
    · subst same
      simp [stored]
    · have listed : id ∈ ((ticketId, ticket) :: rest).map Prod.fst ↔ id ∈ rest.map Prod.fst := by
        rw [List.map_cons, List.mem_cons, or_iff_right same]
      rw [if_neg same]
      simp only [listed]
  noTier id absent := by
    have different : id ≠ ticket.tierId := by
      rintro rfl
      exact absurd (absent.symm.trans present) nofun
    exact others.noTier id ((Table.get_set_of_ne _ _ different).trans absent)
  restored id row found := by
    by_cases same : id = ticket.tierId
    · subst same
      -- this round has taken one ticket off the tier, the others take the rest
      cases present.symm.trans found
      obtain ⟨sold, counted, written⟩ := others.restored ticket.tierId
        { tier with quantitySold := tier.quantitySold - 1 } (Table.get_set_self ..)
      rw [onTier_cons_self]
      simp only at counted
      exact ⟨sold, by omega, written⟩
    · rw [onTier_cons_of_ne ticketId rest same]
      exact others.restored id row ((Table.get_set_of_ne _ _ same).trans found)

/-- What is short after one round was short before. -/
theorem Short.cons (present : ledger.tiers.get ticket.tierId = some tier)
    (short : Short rest (ledger.restoreOne ticketId ticket tier)) :
    Short ((ticketId, ticket) :: rest) ledger := by
  obtain ⟨id, row, found, few⟩ := short
  by_cases same : id = ticket.tierId
  · subst same
    refine ⟨ticket.tierId, tier, present, ?_⟩
    cases (Table.get_set_self ledger.tiers ticket.tierId _).symm.trans found
    rw [onTier_cons_self]
    simp only at few
    omega
  · refine ⟨id, row, (Table.get_set_of_ne _ _ same).symm.trans found, ?_⟩
    rwa [onTier_cons_of_ne ticketId rest same]

end Round

/-! ## Statements of a single client -/

section Runs

variable {α : Type} {service : AuditService} {inputs : ℕ → Input} {saved : Option Ledger}
variable {ledger : Ledger}

theorem run_ok {stmt : Stmt} {answer : stmt.Res} {ledger' : Ledger}
    (next : stmt.Res → Refunding α)
    (result : ledger.exec service (inputs 0) stmt = .ok (answer, ledger')) :
    (call (S := signature) stmt next).run (store service) none inputs saved ledger
      = (next answer).run (store service) none (fun n => inputs (n + 1)) saved ledger' := by
  rw [run_call]
  simp only [store, result]

theorem run_error {stmt : Stmt} {error : RefundError} (next : stmt.Res → Refunding α)
    (result : ledger.exec service (inputs 0) stmt = .error error) :
    (call (S := signature) stmt next).run (store service) none inputs saved ledger
      = (.raised error, (store service).abort saved ledger) := by
  rw [run_call]
  simp only [store, result]

/-- **The loop**, followed by whatever comes next. -/
theorem restoreLoop_run (service : AuditService) (tickets : List (Uuid × Ticket))
    (next : Unit → Refunding α) (saved : Ledger) (inputs : ℕ → Input) (ledger : Ledger)
    (nodup : (tickets.map Prod.fst).Nodup)
    (stored : ∀ id ticket, (id, ticket) ∈ tickets → ledger.tickets.get id = some ticket)
    (tiers : ∀ id ticket, (id, ticket) ∈ tickets → ledger.tiers.get ticket.tierId ≠ none) :
    Short tickets ledger ∧
        (restoreLoop tickets >>= next).run (store service) none inputs (some saved) ledger
          = (.raised .integrity, saved) ∨
      ∃ inputs' after, Restored tickets ledger after ∧
        (restoreLoop tickets >>= next).run (store service) none inputs (some saved) ledger
          = (next ()).run (store service) none inputs' (some saved) after := by
  -- each round restores one ticket; the first one that finds no ticket sold ends the refund
  induction tickets generalizing inputs ledger with
  | nil => exact .inr ⟨inputs, ledger, .nil ledger, rfl⟩
  | cons head rest ih =>
      obtain ⟨ticketId, ticket⟩ := head
      obtain ⟨absent, nodup⟩ := List.nodup_cons.mp nodup
      have isStored := stored ticketId ticket List.mem_cons_self
      obtain ⟨tier, present⟩ := Option.ne_none_iff_exists'.mp
        (tiers ticketId ticket List.mem_cons_self)
      have select : ledger.exec service (inputs 0) (.selectTier ticket.tierId)
        = .ok (some tier, ledger) := by
          simp only [Ledger.exec, present]
      simp only [restoreLoop, send, Program.send, call_bind, done_bind]
      rw [run_ok _ select]
      simp only [call_bind]
      by_cases sold : tier.quantitySold = 0
      · -- the database rejects -1
        have update : ledger.exec service (inputs 1)
            (.updateQuantitySold ticket.tierId (tier.quantitySold - 1)) = .error .integrity := by
          simp [Ledger.exec, present, sold]
        refine .inl ⟨⟨ticket.tierId, tier, present, ?_⟩, run_error _ update⟩
        rw [onTier_cons_self]
        omega
      · have update : ledger.exec service (inputs 1)
            (.updateQuantitySold ticket.tierId (tier.quantitySold - 1)) = .ok ((), { ledger with
              tiers := ledger.tiers.set ticket.tierId
                { tier with quantitySold := tier.quantitySold - 1 } }) := by
          have nonneg : ¬ (tier.quantitySold : ℤ) - 1 < 0 := by omega
          have value : ((tier.quantitySold : ℤ) - 1).toNat = tier.quantitySold - 1 := by omega
          simp only [Ledger.exec, present, if_neg nonneg, value]
        have save : Ledger.exec service (inputs 2) (.saveTicketStatus ticketId .cancelled)
            { ledger with
              tiers := ledger.tiers.set ticket.tierId
                { tier with quantitySold := tier.quantitySold - 1 } }
              = .ok ((), ledger.restoreOne ticketId ticket tier) := by
          simp only [Ledger.exec, isStored, Ledger.restoreOne]
        have storedLater (id : Uuid) (row : Ticket) (later : (id, row) ∈ rest) :
            (ledger.restoreOne ticketId ticket tier).tickets.get id = some row := by
          have different : id ≠ ticketId := by
            intro same
            exact absent (List.mem_map.mpr ⟨(id, row), later, same⟩)
          exact (Table.get_set_of_ne _ _ different).trans
            (stored id row (List.mem_cons_of_mem _ later))
        have tiersLater (id : Uuid) (row : Ticket) (later : (id, row) ∈ rest) :
            (ledger.restoreOne ticketId ticket tier).tiers.get row.tierId ≠ none := by
          have there := tiers id row (List.mem_cons_of_mem _ later)
          rw [Ledger.restoreOne, Table.get_set]
          split
          · exact Option.some_ne_none _
          · exact there
        rw [run_ok _ update, run_ok _ save]
        rcases ih (fun n => inputs (n + 3)) _ nodup storedLater tiersLater with
          ⟨short, run⟩ | ⟨inputs', after, restored, run⟩
        · exact .inl ⟨short.cons present, run⟩
        · exact .inr ⟨inputs', after, restored.cons isStored present (by omega), run⟩

end Runs

/-! ## One refund -/

/-- What a successful refund of `payment` does to the tables. -/
structure Refunded (id : Uuid) (payment : Payment) (before after : Ledger) : Prop where
  succeeded : payment.status = .succeeded
  unused : ∀ ticketId ticket, before.tickets.get ticketId = some ticket →
    ticket.payment = some id → ticket.status ≠ .checkedIn
  payments : after.payments = before.payments.set id { payment with status := .refunded }
  tickets : ∀ ticketId, after.tickets.get ticketId = (before.tickets.get ticketId).map fun ticket =>
    if ticket.payment = some id then { ticket with status := .cancelled } else ticket
  noTier : ∀ tierId, before.tiers.get tierId = none → after.tiers.get tierId = none
  tiers : ∀ tierId tier, before.tiers.get tierId = some tier → ∃ sold,
    sold + before.ticketsOn id tierId = tier.quantitySold ∧
      after.tiers.get tierId = some { tier with quantitySold := sold }

/-- Why a refund of `payment` raises. -/
inductive Refusal (id : Uuid) (payment : Payment) (ledger : Ledger) : RefundError → Prop
  | notSucceeded (other : payment.status ≠ .succeeded) :
      Refusal id payment ledger (.notSucceeded payment.status)
  | postCheckin {ticketId : Uuid} {ticket : Ticket}
      (stored : ledger.tickets.get ticketId = some ticket) (ofPayment : ticket.payment = some id)
      (used : ticket.status = .checkedIn) :
      Refusal id payment ledger (.postCheckin (ledger.tickets.total (Ledger.checkedIn id)))
  | integrity {tierId : Uuid} {tier : TicketTier} (present : ledger.tiers.get tierId = some tier)
      (short : tier.quantitySold < ledger.ticketsOn id tierId) :
      Refusal id payment ledger .integrity

/-- Everything a refund can do: raise and change nothing, or refund one payment. -/
inductive RefundRun (paymentId : String) (ledger : Ledger) :
    Outcome RefundError RefundResult × Ledger → Prop
  | refused (error : RefundError)
      (reason : ∀ id payment, Uuid.parse paymentId = some id →
        ledger.payments.get id = some payment → Refusal id payment ledger error) :
      RefundRun paymentId ledger (.raised error, ledger)
  | refunded {id : Uuid} {payment : Payment} {after : Ledger}
      (parsed : Uuid.parse paymentId = some id) (stored : ledger.payments.get id = some payment)
      (done : Refunded id payment ledger after) :
      RefundRun paymentId ledger
        (.returned ⟨"refunded", paymentId, payment.amountText, payment.currency⟩, after)

section Refund

variable {service : AuditService} {ledger : Ledger} {id : Uuid} {payment : Payment}

/-- The ledger once the status of the payment has been saved. -/
def Ledger.marked (ledger : Ledger) (id : Uuid) (payment : Payment) : Ledger :=
  { ledger with payments := ledger.payments.set id { payment with status := .refunded } }

/-- The loop has cancelled and restored exactly the tickets of the payment. -/
theorem Restored.refunded {tickets : List (Uuid × Ticket)} {before after : Ledger}
    {trail : AuditTrail}
    (succeeded : payment.status = .succeeded)
    (noCheckIn : before.tickets.total (Ledger.checkedIn id) = 0)
    (listed : tickets.Perm (before.ticketsOf id))
    (restored : Restored tickets (before.marked id payment) after) :
    Refunded id payment before { after with audit := trail } where
  succeeded := succeeded
  unused _ _ := Ledger.checkedIn_eq_zero noCheckIn
  payments := restored.payments
  tickets ticketId := by
    refine (restored.cancelled ticketId).trans ?_
    rw [Ledger.marked]
    cases stored : before.tickets.get ticketId with
    | none => rfl
    | some ticket =>
        have chosen : ticketId ∈ tickets.map Prod.fst ↔ ticket.payment = some id := by
          rw [(listed.map Prod.fst).mem_iff, List.mem_map]
          constructor
          · rintro ⟨⟨ticketId', ticket'⟩, inside, rfl⟩
            obtain ⟨stored', ofPayment⟩ := Ledger.mem_ticketsOf.mp inside
            cases stored.symm.trans stored'
            exact ofPayment
          · intro ofPayment
            exact ⟨(ticketId, ticket), Ledger.mem_ticketsOf.mpr ⟨stored, ofPayment⟩, rfl⟩
        simp only [Option.map_some, chosen]
  noTier := restored.noTier
  tiers tierId tier present := by
    obtain ⟨sold, counted, written⟩ := restored.restored tierId tier present
    refine ⟨sold, ?_, written⟩
    rw [← Ledger.onTier_ticketsOf, ← counted, onTier, onTier, listed.countP_eq]

theorem refundPayment_run
    (returns : ∀ call input trail, ∃ made, service call input trail = .ok made)
    (referential : ledger.Referential) (contentType : ℕ) {paymentId : String} (reason : String)
    (actor : Option Uuid) (inputs : ℕ → Input) (parsed : Uuid.parse paymentId = some id)
    (stored : ledger.payments.get id = some payment) (succeeded : payment.status = .succeeded)
    (noCheckIn : ledger.tickets.total (Ledger.checkedIn id) = 0) :
    RefundRun paymentId ledger
      ((refundPayment contentType paymentId id payment reason actor >>= fun value =>
        commit (done value)).run (store service) none inputs (some ledger) ledger) := by
  have save : ledger.exec service (inputs 0) (.savePaymentStatus id .refunded)
      = .ok ((), ledger.marked id payment) := by
    simp only [Ledger.exec, stored, Ledger.marked]
  have select : (ledger.marked id payment).exec service (inputs 1) (.selectTickets id)
      = .ok ((inputs 1).order (ledger.ticketsOf id), ledger.marked id payment) := rfl
  simp only [refundPayment, send, Program.send, call_bind, done_bind]
  rw [run_ok _ save, run_ok _ select, bind_assoc]
  have listed : ((inputs 1).order (ledger.ticketsOf id)).Perm (ledger.ticketsOf id) :=
    (inputs 1).order_perm _
  have nodup : (((inputs 1).order (ledger.ticketsOf id)).map Prod.fst).Nodup :=
    (listed.map Prod.fst).nodup_iff.mpr (ledger.nodup_ticketsOf id)
  have isStored (ticketId : Uuid) (ticket : Ticket)
      (inside : (ticketId, ticket) ∈ (inputs 1).order (ledger.ticketsOf id)) :
      ledger.tickets.get ticketId = some ticket :=
    (Ledger.mem_ticketsOf.mp (listed.mem_iff.mp inside)).1
  have onTiers (ticketId : Uuid) (ticket : Ticket)
      (inside : (ticketId, ticket) ∈ (inputs 1).order (ledger.ticketsOf id)) :
      ledger.tiers.get ticket.tierId ≠ none :=
    referential ticketId ticket (isStored ticketId ticket inside)
  -- the query lists the tickets in an order of its own, each once
  rcases restoreLoop_run service ((inputs 1).order (ledger.ticketsOf id)) _ ledger _
    (ledger.marked id payment) nodup isStored onTiers with
    ⟨short, run⟩ | ⟨inputs', after, restored, run⟩
  · obtain ⟨tierId, tier, present, few⟩ := short
    refine run ▸ .refused .integrity fun id' payment' parsed' stored' => ?_
    cases parsed.symm.trans parsed'
    cases stored.symm.trans stored'
    refine .integrity present ?_
    rwa [← Ledger.onTier_ticketsOf, onTier, ← listed.countP_eq]
  · obtain ⟨made, logged⟩ := returns (refundEntry contentType id payment reason actor)
      (inputs' 0).audit after.audit
    have log : after.exec service (inputs' 0)
        (.logAction (refundEntry contentType id payment reason actor))
          = .ok ((), { after with audit := made.2 }) := by
      simp only [Ledger.exec, logged]
    rw [run]
    simp only [call_bind]
    rw [run_ok _ log]
    exact .refunded parsed stored (restored.refunded succeeded noCheckIn listed)

/-- **Specification of `request_refund`.** -/
theorem requestRefund_run
    (returns : ∀ call input trail, ∃ made, service call input trail = .ok made)
    (referential : ledger.Referential) (contentType : ℕ) (paymentId reason : String)
    (actor : Option Uuid) (inputs : ℕ → Input) :
    RefundRun paymentId ledger
      ((requestRefund contentType paymentId reason actor).run (store service) none inputs none
        ledger) := by
  unfold requestRefund atomic
  rw [run_begin]
  cases parsed : Uuid.parse paymentId with
  | none => exact .refused _ (by simp [parsed])
  | some id =>
      have select : ledger.exec service (inputs 0) (.selectPaymentForUpdate id)
        = .ok (ledger.payments.get id, ledger) := rfl
      simp only [send, Program.send, call_bind, done_bind]
      rw [run_ok _ select]
      cases stored : ledger.payments.get id with
      | none =>
          refine .refused _ fun id' payment' parsed' stored' => ?_
          cases parsed.symm.trans parsed'
          exact absurd (stored.symm.trans stored') nofun
      | some payment =>
          have same {id' : Uuid} {payment' : Payment} (parsed' : Uuid.parse paymentId = some id')
              (stored' : ledger.payments.get id' = some payment') :
              id' = id ∧ payment' = payment := by
            cases parsed.symm.trans parsed'
            cases stored.symm.trans stored'
            exact ⟨rfl, rfl⟩
          simp only
          by_cases succeeded : payment.status = .succeeded
          · have count : ledger.exec service (inputs 1) (.countCheckedIn id)
              = .ok (ledger.tickets.total (Ledger.checkedIn id), ledger) := rfl
            rw [if_neg (not_not_intro succeeded), call_bind, run_ok _ count]
            by_cases used : ledger.tickets.total (Ledger.checkedIn id) > 0
            · rw [if_pos used]
              refine .refused _ fun id' payment' parsed' stored' => ?_
              obtain ⟨rfl, rfl⟩ := same parsed' stored'
              obtain ⟨ticketId, ticket, present, ofPayment, isUsed⟩ := Ledger.exists_checkedIn used
              exact .postCheckin present ofPayment isUsed
            · rw [if_neg used]
              exact refundPayment_run returns referential contentType reason actor _ parsed stored
                succeeded (Nat.eq_zero_of_not_pos used)
          · rw [if_pos succeeded]
            refine .refused _ fun id' payment' parsed' stored' => ?_
            obtain ⟨rfl, rfl⟩ := same parsed' stored'
            exact .notSucceeded succeeded

end Refund

/-! ## Sequences of refunds -/

/-- The arguments of a refund. -/
structure RefundRequest where
  paymentId : String
  reason : String
  actor : Option Uuid := none

section Sequences

variable (service : AuditService) (contentType : ℕ)

/-- The outcome of a complete refund, and the ledger after it. -/
def RefundRequest.run (request : RefundRequest) (inputs : ℕ → Input) (ledger : Ledger) :
    Outcome RefundError RefundResult × Ledger :=
  (requestRefund contentType request.paymentId request.reason request.actor).run (store service)
    none inputs none ledger

/-- The payments that a sequence of complete refunds has refunded, one for each
call that returned, and the ledger after it. -/
def serialRefunds : List (RefundRequest × (ℕ → Input)) → Ledger → List Uuid × Ledger
  | [], ledger => ([], ledger)
  | (request, inputs) :: rest, ledger =>
      let result := request.run service contentType inputs ledger
      let (refunded, last) := serialRefunds rest result.2
      match result.1 with
      | .returned _ => ((Uuid.parse request.paymentId).toList ++ refunded, last)
      | _ => (refunded, last)

end Sequences

/-- A refund moves no ticket to another payment or tier. -/
theorem Refunded.ticketsOn {id : Uuid} {payment : Payment} {before after : Ledger}
    (done : Refunded id payment before after) (other tierId : Uuid) :
    after.ticketsOn other tierId = before.ticketsOn other tierId := by
  refine Table.total_eq_of_get fun ticketId => ?_
  rw [done.tickets]
  cases before.tickets.get ticketId with
  | none => rfl
  | some ticket =>
      by_cases chosen : ticket.payment = some id <;> simp [chosen]

theorem Refunded.referential {id : Uuid} {payment : Payment} {before after : Ledger}
    (done : Refunded id payment before after) (referential : before.Referential) :
    after.Referential := by
  intro ticketId ticket stored
  rw [done.tickets] at stored
  obtain ⟨old, present, changed⟩ := Option.map_eq_some_iff.mp stored
  have sameTier : ticket.tierId = old.tierId := by
    rw [← changed]
    split <;> rfl
  obtain ⟨tier, there⟩ := Option.ne_none_iff_exists'.mp (referential ticketId old present)
  obtain ⟨sold, -, written⟩ := done.tiers old.tierId tier there
  rw [sameTier, written]
  exact Option.some_ne_none _

/-- What a sequence of refunds does: it refunds payments that had succeeded, none
of them twice, and takes one place off `quantity_sold` for each of their tickets. -/
structure RefundsOnce (refunded : List Uuid) (before after : Ledger) : Prop where
  nodup : refunded.Nodup
  succeeded : ∀ id ∈ refunded, ∃ payment, before.payments.get id = some payment ∧
    payment.status = .succeeded
  tiers : ∀ tierId tier, before.tiers.get tierId = some tier → ∃ sold,
    sold + (refunded.map fun id => before.ticketsOn id tierId).sum = tier.quantitySold ∧
      after.tiers.get tierId = some { tier with quantitySold := sold }

/-- One more refund in front. -/
theorem RefundsOnce.cons {id : Uuid} {payment : Payment} {refunded : List Uuid}
    {before middle after : Ledger} (stored : before.payments.get id = some payment)
    (done : Refunded id payment before middle) (once : RefundsOnce refunded middle after) :
    RefundsOnce (id :: refunded) before after where
  nodup := by
    refine List.nodup_cons.mpr ⟨fun again => ?_, once.nodup⟩
    -- the payment is no longer SUCCEEDED
    obtain ⟨payment', present, succeeded⟩ := once.succeeded id again
    rw [done.payments, Table.get_set_self] at present
    cases present
    cases succeeded
  succeeded other found := by
    rcases List.mem_cons.mp found with rfl | later
    · exact ⟨payment, stored, done.succeeded⟩
    · obtain ⟨payment', present, succeeded⟩ := once.succeeded other later
      by_cases same : other = id
      · subst same
        exact ⟨payment, stored, done.succeeded⟩
      · rw [done.payments, Table.get_set_of_ne _ _ same] at present
        exact ⟨payment', present, succeeded⟩
  tiers tierId tier present := by
    obtain ⟨sold, counted, written⟩ := done.tiers tierId tier present
    obtain ⟨sold', counted', written'⟩ := once.tiers tierId _ written
    simp only [done.ticketsOn] at counted'
    refine ⟨sold', ?_, written'⟩
    rw [List.map_cons, List.sum_cons]
    omega

/-- **Any sequence of refunds** refunds each payment at most once. -/
theorem serialRefunds_once {service : AuditService}
    (returns : ∀ call input trail, ∃ made, service call input trail = .ok made) (contentType : ℕ)
    (requests : List (RefundRequest × (ℕ → Input))) {ledger : Ledger}
    (referential : ledger.Referential) :
    RefundsOnce (serialRefunds service contentType requests ledger).1 ledger
      (serialRefunds service contentType requests ledger).2 := by
  induction requests generalizing ledger with
  | nil => exact ⟨List.nodup_nil, nofun, fun tierId tier present => ⟨_, rfl, present⟩⟩
  | cons head rest ih =>
      obtain ⟨request, inputs⟩ := head
      have spec := requestRefund_run returns referential contentType request.paymentId
        request.reason request.actor inputs
      simp only [serialRefunds, RefundRequest.run]
      generalize (requestRefund contentType request.paymentId request.reason request.actor).run
        (store service) none inputs none ledger = result at spec
      cases spec with
      | refused error reason => exact ih referential
      | refunded parsed stored done =>
          rw [parsed]
          exact (ih (done.referential referential)).cons stored done

/-- **Refunds are exact, and all or nothing.**  When `log_action` returns, a refund
run alone either succeeds and does to the payment, its tickets and their tiers
exactly what it should, or raises for one of three reasons and changes nothing; and
no sequence of refunds restores the stock of a payment twice. -/
theorem refund_exact (service : AuditService)
    (returns : ∀ call input trail, ∃ made, service call input trail = .ok made) (contentType : ℕ)
    {ledger : Ledger} (referential : ledger.Referential) :
    (∀ (request : RefundRequest) (inputs : ℕ → Input) (id : Uuid) (payment : Payment),
      Uuid.parse request.paymentId = some id → ledger.payments.get id = some payment →
        let result := request.run service contentType inputs ledger
        (∃ value, result.1 = .returned value ∧ Refunded id payment ledger result.2) ∨
          ∃ error, result = (.raised error, ledger) ∧ Refusal id payment ledger error) ∧
    ∀ requests : List (RefundRequest × (ℕ → Input)),
      let result := serialRefunds service contentType requests ledger
      RefundsOnce result.1 ledger result.2 := by
  refine ⟨fun request inputs id payment parsed stored => ?_,
    fun requests => serialRefunds_once returns contentType requests referential⟩
  have spec := requestRefund_run returns referential contentType request.paymentId
    request.reason request.actor inputs
  simp only [RefundRequest.run]
  generalize (requestRefund contentType request.paymentId request.reason request.actor).run
    (store service) none inputs none ledger = result at spec
  cases spec with
  | refused error reason => exact .inr ⟨error, rfl, reason id payment parsed stored⟩
  | refunded parsed' stored' done =>
      cases parsed.symm.trans parsed'
      cases stored.symm.trans stored'
      exact .inl ⟨_, rfl, done⟩

/-! ### A sample -/

namespace Sample

/-- Fixed identifiers. -/
def id (n : ℕ) : Uuid := .ofNat n

/-- `log_action` without the guard that refuses its entry. -/
def appending : AuditService := fun call input trail =>
  .ok (call.entry input.uuid,
    trail ++ [{ call.entry input.uuid with id := input.uuid, createdAt := input.now }])

theorem appending_returns (call : LogAction) (input : Ticketing.Input) (trail : AuditTrail) :
    ∃ made, appending call input trail = .ok made := ⟨_, rfl⟩

/-- One payment with two tickets on one tier and one on another, and a ticket of
another payment. -/
def ledger : Ledger where
  payments := (Table.empty.set (id 30) { amount := 450000, status := .succeeded }).set (id 31)
    { amount := 150000, status := .succeeded }
  tickets := (((Table.empty.set (id 20) ⟨some (id 30), id 1, .issued⟩).set (id 21)
    ⟨some (id 30), id 1, .issued⟩).set (id 22) ⟨some (id 30), id 2, .issued⟩).set (id 23)
    ⟨some (id 31), id 1, .issued⟩
  tiers := (Table.empty.set (id 1) { event := id 0, quantityTotal := 10, quantitySold := 5 }).set
    (id 2) { event := id 0, quantityTotal := 10, quantitySold := 1 }
  audit := []

theorem ledger_referential : ledger.Referential := by
  intro ticketId ticket stored
  simp only [ledger, Table.get_set, Table.get_empty] at stored
  split at stored
  · cases stored
    decide +kernel
  · split at stored
    · cases stored
      decide +kernel
    · split at stored
      · cases stored
        decide +kernel
      · split at stored
        · cases stored
          decide +kernel
        · cases stored

/-- The refund of the first payment, asked for twice. -/
def requests : List (RefundRequest × (ℕ → Input)) :=
  let request : RefundRequest := { paymentId := (id 30).str, reason := "Event cancelled" }
  [(request, fun n => .plain n (id 8)), (request, fun n => .plain n (id 9))]

end Sample

theorem refund_exact_sample :
    (serialRefunds Sample.appending 7 Sample.requests Sample.ledger).1 = [Sample.id 30] ∧
      ∃ sold, sold + 2 = 5 ∧
        (serialRefunds Sample.appending 7 Sample.requests Sample.ledger).2.tiers.get (Sample.id 1)
          = some { event := Sample.id 0, quantityTotal := 10, quantitySold := sold } := by
  have refunded : (serialRefunds Sample.appending 7 Sample.requests Sample.ledger).1
      = [Sample.id 30] := by
    decide +kernel
  refine ⟨refunded, ?_⟩
  have once := (refund_exact Sample.appending Sample.appending_returns 7
    Sample.ledger_referential).2 Sample.requests
  obtain ⟨sold, counted, written⟩ := once.tiers (Sample.id 1)
    { event := Sample.id 0, quantityTotal := 10, quantitySold := 5 } (by decide +kernel)
  rw [refunded] at counted
  have two : Sample.ledger.ticketsOn (Sample.id 30) (Sample.id 1) = 2 := by decide +kernel
  rw [List.map_singleton, List.sum_singleton, two] at counted
  exact ⟨sold, counted, written⟩

end Ticketing.Payments
