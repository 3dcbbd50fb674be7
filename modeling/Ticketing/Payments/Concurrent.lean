import Ticketing.Payments.Shared
import Ticketing.Payments.Serial

/-!
# Concurrent refunds

Any number of refunds, of any payments, statement by statement and in any order.

## Main Definitions

* `RefundCommit` — what a commit of a refund can publish
* `refundedIn` — the payments whose refunds have been committed
* `RefundInvariant` — the stock agrees with the refunds committed so far

## Main Results

* `requestRefund_safe` — a refund publishes one payment and its tickets' stock
* `concurrent_refunds_exact` — runs in which every UPDATE is fresh lose no stock
* `stock_lost` — a run in which one is not

## Design Notes

The lock on the payment makes refunds of one payment take turns.  The counters of
the tiers are read without a lock, so that they are current when they are written
has to be asked of the run.
-/

namespace Ticketing.Payments

open Transactional VersionedTable

/-! ## What a refund publishes -/

/-- The payment whose status a statement saves. -/
def Stmt.savesPayment : Stmt → Option Uuid
  | .savePaymentStatus id _ => some id
  | _ => none

/-- The payments whose status has been saved. -/
def savedPayments (events : List (Event signature)) : List Uuid :=
  events.filterMap (·.stmt.savesPayment)

/-- The client has taken `number` places off `quantity_sold` of each tier. -/
structure Owes (number : Uuid → ℕ) (tiers : Uuid → Option (LockedRow TicketTier)) : Prop where
  untouched : ∀ id, number id = 0 → tiers id = none
  restored : ∀ id, number id ≠ 0 → ∃ tier sold,
    tiers id = some ⟨some tier, some { tier with quantitySold := sold }⟩ ∧
      sold + number id = tier.quantitySold

theorem Owes.nothing : Owes (fun _ => 0) fun _ => none := ⟨fun _ _ => rfl, fun _ => absurd rfl⟩

/-- One more ticket: the UPDATE has found the value it was computed from. -/
theorem Owes.update {number : Uuid → ℕ} {tiers : Uuid → Option (LockedRow TicketTier)} {id : Uuid}
    {tier : TicketTier} {locked : LockedRow TicketTier} {quantitySold : ℤ}
    (owes : Owes number tiers) (sees : Sees tiers id locked) (current : locked.current = some tier)
    (nonneg : 0 ≤ quantitySold) (fresh : (tier.quantitySold : ℤ) = quantitySold + 1) :
    Owes (Function.update number id (number id + 1)) (Function.update tiers id
      (some ⟨locked.committed, some { tier with quantitySold := quantitySold.toNat }⟩)) where
  untouched other zero := by
    by_cases same : other = id
    · subst same
      rw [Function.update_self] at zero
      omega
    · rw [Function.update_of_ne same] at zero ⊢
      exact owes.untouched other zero
  restored other some := by
    by_cases same : other = id
    · subst same
      simp only [Function.update_self] at some ⊢
      by_cases first : number other = 0
      · obtain rfl := sees.committed (owes.untouched other first) current
        exact ⟨tier, quantitySold.toNat, rfl, by omega⟩
      · obtain ⟨before, sold, owned, counted⟩ := owes.restored other first
        obtain rfl := sees.eq owned
        cases current
        refine ⟨before, quantitySold.toNat, rfl, ?_⟩
        simp only at fresh
        omega
    · rw [Function.update_of_ne same] at some
      rw [Function.update_of_ne same, Function.update_of_ne same]
      exact owes.restored other some

/-- What a commit of a refund publishes: one payment that had succeeded, and one
place for each of its tickets. -/
inductive RefundCommit (counts : Uuid → Uuid → ℕ) (events : List (Event signature)) : Own → Prop
  | refunded {id : Uuid} {payment : Payment} {own : Own} (succeeded : payment.status = .succeeded)
      (payments : own.payments
        = single id ⟨some payment, some { payment with status := .refunded }⟩)
      (saved : savedPayments events = [id]) (owes : Owes (counts id) own.tiers) :
      RefundCommit counts events own

/-- The guarantees of a refund. -/
def contract (counts : Uuid → Uuid → ℕ) : Contract signature Own where
  Local := Moves counts
  Pre _ _ _ := True
  Post _ events own := RefundCommit counts events own
  Unfinished _ := True

section Safe

variable {counts : Uuid → Uuid → ℕ} {α : Type}

/-- The loop takes one place for each ticket of its list. -/
theorem restoreLoop_safe {tickets : List (Uuid × Ticket)} {next : Unit → Refunding α}
    {history events : List (Event signature)} {own : Own} {number : Uuid → ℕ}
    (owes : Owes number own.tiers)
    (rest : ∀ events' own', savedPayments events' = savedPayments events →
      own'.payments = own.payments → Owes (fun id => number id + onTier tickets id) own'.tiers →
        (next ()).Safe .nothing (contract counts) history (some events') own') :
    (restoreLoop tickets >>= next).Safe .nothing (contract counts) history (some events) own := by
  induction tickets generalizing number events own with
  | nil => exact rest events own rfl rfl owes
  | cons head tickets ih =>
      obtain ⟨ticketId, ticket⟩ := head
      simp only [restoreLoop, send, Program.send, Program.call_bind, Program.done_bind]
      refine ⟨trivial, trivial, ?_⟩
      rintro (answer : Option TicketTier) own' rfl
      cases answer with
      | none => trivial
      | some copy =>
          simp only [Program.call_bind]
          refine ⟨trivial, trivial, ?_⟩
          rintro updated own' ⟨tier, locked, sees, current, nonneg, fresh, rfl⟩
          refine ⟨trivial, trivial, ?_⟩
          rintro saved own' ⟨rows, rfl⟩
          -- one place more is owed to the tier of this ticket
          refine ih (owes.update sees current nonneg fresh) fun events' own' sameSaved samePayments
            owed => ?_
          refine rest events' own' (sameSaved.trans ?_) samePayments ?_
          · simp [savedPayments, Stmt.savesPayment]
          · have sums : (fun id =>
                Function.update number ticket.tierId (number ticket.tierId + 1) id
                  + onTier tickets id)
                = fun id => number id + onTier ((ticketId, ticket) :: tickets) id := by
              funext id
              by_cases same : id = ticket.tierId
              · subst same
                rw [Function.update_self, onTier_cons_self]
                omega
              · rw [Function.update_of_ne same, onTier_cons_of_ne ticketId tickets same]
            exact sums ▸ owed

/-- **A refund publishes one payment and its tickets' stock.** -/
theorem requestRefund_safe (contentType : ℕ) (paymentId reason : String) (actor : Option Uuid) :
    (requestRefund contentType paymentId reason actor).Safe .nothing (contract counts) [] none
      .nothing := by
  unfold requestRefund Program.atomic
  refine ⟨trivial, ?_⟩
  cases Uuid.parse paymentId with
  | none => trivial
  | some id =>
      simp only [send, Program.send, Program.call_bind, Program.done_bind]
      refine ⟨trivial, trivial, ?_⟩
      rintro answer own (⟨rfl, rfl⟩ | ⟨payment, locked, rfl, sees, current, rfl⟩)
      · trivial
      · obtain rfl := sees.committed rfl current
        by_cases succeeded : payment.status = .succeeded
        · simp only [succeeded, ne_eq, not_true_eq_false, if_false, Program.call_bind]
          refine ⟨trivial, trivial, ?_⟩
          rintro (count : ℕ) own rfl
          beta_reduce
          by_cases used : count > 0
          · rw [if_pos used]
            trivial
          · rw [if_neg used]
            simp only [refundPayment, send, Program.send, Program.call_bind, Program.done_bind]
            refine ⟨trivial, trivial, ?_⟩
            rintro saved own ⟨row, locked, sees, current, rfl⟩
            obtain rfl := sees.eq (Function.update_self ..)
            cases current
            refine ⟨trivial, trivial, ?_⟩
            rintro (tickets : List (Uuid × Ticket)) own ⟨rfl, counted⟩
            beta_reduce
            rw [Program.bind_assoc]
            refine restoreLoop_safe Owes.nothing fun events own' sameSaved samePayments owes => ?_
            simp only [Program.call_bind]
            refine ⟨trivial, trivial, ?_⟩
            rintro logged own rfl
            have payments : own.payments
                = single id ⟨some payment, some { payment with status := .refunded }⟩ :=
              samePayments.trans (by simp [Own.nothing])
            refine ⟨trivial, .refunded succeeded payments ?_ ?_, trivial⟩
            · simpa [savedPayments, Stmt.savesPayment] using sameSaved
            · simpa [counted] using owes
        · simp only [succeeded, ne_eq, not_false_eq_true, if_true]
          trivial

end Safe

/-! ## What a commit does to the committed rows -/

section Commit

variable {ι : Type} [DecidableEq ι] {counts : Uuid → Uuid → ℕ} {agent : ι}
variable {shared : SharedLedger ι} {events : List (Event signature)}

/-- What a refund does to the committed rows: one payment that had succeeded is
REFUNDED, and every tier gets a place back for each of its tickets. -/
structure RefundChange (counts : Uuid → Uuid → ℕ) (id : Uuid) (payment : Payment)
    (before after : Ledger) : Prop where
  stored : before.payments.get id = some payment
  succeeded : payment.status = .succeeded
  payments : after.payments = before.payments.set id { payment with status := .refunded }
  tiers : ∀ tierId tier, before.tiers.get tierId = some tier → ∃ sold,
    sold + counts id tierId = tier.quantitySold ∧
      after.tiers.get tierId = some { tier with quantitySold := sold }

theorem RefundCommit.change (commit : RefundCommit counts events (shared.own agent)) :
    ∃ id payment, savedPayments events = [id] ∧
      RefundChange counts id payment shared.ledger (shared.commit agent).ledger := by
  generalize owns : shared.own agent = own at commit
  cases commit with
  | @refunded id payment _ succeeded payments saved owes =>
      subst owns
      have stored : shared.ledger.payments.get id = some payment :=
        get_committed_of_own ((congrFun payments id).trans (single_self ..))
      refine ⟨id, payment, saved, stored, succeeded, committed_commit_of_single payments,
        fun tierId tier present => ?_⟩
      have after := get_committed_commit agent shared.tiers tierId
      -- a tier without tickets of the payment has not been touched
      by_cases none : counts id tierId = 0
      · refine ⟨tier.quantitySold, by omega, ?_⟩
        rw [show VersionedTable.own agent shared.tiers tierId = Option.none from
          owes.untouched tierId none] at after
        exact after.trans present
      · obtain ⟨before, sold, owned, counted⟩ := owes.restored tierId none
        obtain rfl : before = tier :=
          Option.some.inj ((get_committed_of_own owned).symm.trans present)
        rw [show VersionedTable.own agent shared.tiers tierId = _ from owned] at after
        exact ⟨sold, counted, after⟩

end Commit

/-! ## The stock agrees with the refunds -/

/-- The payments whose refunds have been committed. -/
def refundedIn {ι : Type} (log : List (ι × Event signature)) : List Uuid :=
  savedPayments (log.map Prod.snd)

/-- The payments of `refunded` have been refunded once, and nothing else has
happened to the payments and the tiers. -/
structure RefundInvariant (start : Ledger) (refunded : List Uuid) (ledger : Ledger) : Prop where
  once : RefundsOnce refunded start ledger
  payments : ∀ id, ledger.payments.get id = if id ∈ refunded then
    (start.payments.get id).map fun payment => { payment with status := .refunded }
    else start.payments.get id

theorem RefundInvariant.start (ledger : Ledger) : RefundInvariant ledger [] ledger where
  once := ⟨List.nodup_nil, nofun, fun tierId tier present => ⟨_, rfl, present⟩⟩
  payments id := by simp

/-- **One commit of a refund** keeps the stock in agreement. -/
theorem RefundInvariant.change {start ledger ledger' : Ledger} {refunded : List Uuid} {id : Uuid}
    {payment : Payment} (invariant : RefundInvariant start refunded ledger)
    (change : RefundChange start.ticketsOn id payment ledger ledger') :
    RefundInvariant start (refunded ++ [id]) ledger' := by
  have before := invariant.payments id
  rw [change.stored] at before
  -- a payment that has been refunded is no longer SUCCEEDED
  have isNew : id ∉ refunded := by
    intro again
    rw [if_pos again] at before
    obtain ⟨old, -, same⟩ := Option.map_eq_some_iff.mp before.symm
    have succeeded := change.succeeded
    rw [← same] at succeeded
    cases succeeded
  rw [if_neg isNew] at before
  refine ⟨⟨?_, fun other found => ?_, fun tierId tier present => ?_⟩, fun other => ?_⟩
  · rw [List.nodup_append_comm]
    exact List.nodup_cons.mpr ⟨isNew, invariant.once.nodup⟩
  · rcases List.mem_append.mp found with earlier | last
    · exact invariant.once.succeeded other earlier
    · rw [List.mem_singleton.mp last]
      exact ⟨payment, before.symm, change.succeeded⟩
  · obtain ⟨sold, counted, current⟩ := invariant.once.tiers tierId tier present
    obtain ⟨sold', counted', written⟩ := change.tiers tierId _ current
    refine ⟨sold', ?_, written⟩
    rw [List.map_append, List.sum_append, List.map_singleton, List.sum_singleton]
    simp only at counted'
    omega
  · rw [change.payments, Table.get_set]
    by_cases same : other = id
    · subst same
      simp [← before]
    · rw [if_neg same, invariant.payments other]
      simp [same]

/-! ## Runs -/

section Runs

variable {ι : Type} [DecidableEq ι] {service : AuditService} {start : Ledger}
variable {system system' : System signature ι (SharedLedger ι) RefundError RefundResult}
variable {action : Action ι Input RefundError}

/-- No version of a ticket has been moved. -/
def Unmoved (start : Ledger)
    (system : System signature ι (SharedLedger ι) RefundError RefundResult) : Prop :=
  system.world.tickets.Keeps Ticket.place fun id => (start.tickets.get id).map Ticket.place

/-- **One action moves no ticket.** -/
theorem Unmoved.step (unmoved : Unmoved start system)
    (step : Step (engine service ι) system action system') : Unmoved start system' := by
  cases step with
  | fault error located running cause => exact unmoved
  | rollback located => exact unmoved.rollback action.agent
  | begin located => exact unmoved
  | commit located unharmed => exact unmoved.commit action.agent
  | auto located unharmed result =>
      exact ((SharedLedger.touches_of_exec result).keeps unmoved).commit action.agent
  | stmt located unharmed result => exact (SharedLedger.touches_of_exec result).keeps unmoved

/-- Everybody counts the tickets that were there at the start. -/
theorem Unmoved.ticketsOn (unmoved : Unmoved start system) (agent : ι) (payment tierId : Uuid) :
    (system.world.view agent).ticketsOn payment tierId = start.ticketsOn payment tierId := by
  refine Table.total_eq_of_get fun id => ?_
  have seen := unmoved.read agent id
  simp only [SharedLedger.view, get_view]
  cases stored : start.tickets.get id with
  | none =>
      rw [stored, Option.map_none] at seen
      rw [Option.map_eq_none_iff.mp seen]
  | some ticket =>
      rw [stored] at seen
      obtain ⟨version, visible, place⟩ := Option.map_eq_some_iff.mp seen
      obtain ⟨samePayment, sameTier⟩ := Prod.mk.injEq .. ▸ place
      simp [visible, samePayment, sameTier]

/-- **Concurrent refunds lose no stock, when every UPDATE is fresh.**  In every
state that any number of refunds reach, in any interleaving and with exceptions
anywhere, no payment has been refunded twice, and `quantity_sold` of every tier is
its initial value less the number of tickets of the refunded payments on it, if
every UPDATE of the run has found the value it was computed from. -/
theorem concurrent_refunds_exact (service : AuditService) (contentType : ℕ) (start : Ledger)
    (requests : ι → RefundRequest)
    (reached : Reaches (engine service ι) Fresh
      (System.start (.ofLedger start) fun agent => requestRefund contentType
        (requests agent).paymentId (requests agent).reason (requests agent).actor) system) :
    RefundInvariant start (refundedIn system.log) system.world.ledger := by
  have unmoved : Unmoved start (System.start (.ofLedger start) fun agent : ι =>
      requestRefund contentType (requests agent).paymentId (requests agent).reason
        (requests agent).actor) := keeps_ofTable Ticket.place start.tickets
  -- that no ticket moves is needed of every state, to count the tickets of a payment
  have strengthened := reached.strengthen (Unmoved start) unmoved
    fun unmoved _ stepped => unmoved.step (System.step_sound stepped)
  have stays {system : System signature ι (SharedLedger ι) RefundError RefundResult}
      {action : Action ι Input RefundError} (meets : Fresh system action ∧ Unmoved start system) :
      LocalAt (isolation service ι) (contract start.ticketsOn) system action := by
    intro stmt answer world unharmed next result
    refine moves_of_exec result (fun id quantitySold isUpdate => ?_)
      (meets.2.ticketsOn action.agent)
    subst isUpdate
    exact meets.1 unharmed id quantitySold next
  refine (strengthened.invariant_of_safe
    (fun system => RefundInvariant start (refundedIn system.log) system.world.ledger)
    (.start (fun agent => SharedLedger.own_ofLedger agent start) fun agent =>
      requestRefund_safe contentType _ _ _) stays ?_ ?_).2
  · rw [show (System.start (SharedLedger.ofLedger start) _).world.ledger = start from
      SharedLedger.ledger_ofLedger start]
    exact .start start
  · intro before after action safe invariant meets step
    rcases step.publishes safe (stays meets) with
      ⟨sameLedger, sameLog⟩ | ⟨events, shared, commit, sameLedger, -, worldEq, logEq⟩
    · rw [sameLog, show after.world.ledger = before.world.ledger from sameLedger]
      exact invariant
    · obtain ⟨id, payment, saved, change⟩ := RefundCommit.change commit
      have logged : refundedIn after.log = refundedIn before.log ++ [id] := by
        rw [logEq, ← saved]
        simp [refundedIn, savedPayments, List.filterMap_append]
      have unchanged : before.world.ledger = shared.ledger := sameLedger.symm
      rw [unchanged] at invariant
      rw [logged, worldEq]
      exact invariant.change change

end Runs

/-! ### Two refunds on one tier -/

namespace Sample

/-- Two payments, each with one of the two tickets sold of a tier. -/
def pair : Ledger where
  payments := (Table.empty.set (id 30) { amount := 150000, status := .succeeded }).set (id 31)
    { amount := 150000, status := .succeeded }
  tickets := (Table.empty.set (id 20) ⟨some (id 30), id 1, .issued⟩).set (id 21)
    ⟨some (id 31), id 1, .issued⟩
  tiers := Table.empty.set (id 1) { event := id 0, quantityTotal := 10, quantitySold := 2 }
  audit := []

/-- Each client refunds one of them. -/
def pairRequest : Fin 2 → RefundRequest
  | 0 => { paymentId := (id 30).str, reason := "Event cancelled" }
  | 1 => { paymentId := (id 31).str, reason := "Event cancelled" }

/-- Both about to start. -/
def pairStart : System signature (Fin 2) (SharedLedger (Fin 2)) RefundError RefundResult :=
  System.start (.ofLedger pair) fun agent => requestRefund 7 (pairRequest agent).paymentId
    (pairRequest agent).reason (pairRequest agent).actor

/-- The next action of `agent`. -/
def turn (agent : Fin 2) : Action (Fin 2) Input RefundError := ⟨agent, .plain 0 (id 8), none⟩

/-- An UPDATE finds the value it was computed from. -/
def fresh (system : System signature (Fin 2) (SharedLedger (Fin 2)) RefundError RefundResult)
    (action : Action (Fin 2) Input RefundError) : Bool :=
  match (system.thread action.agent).program.nextStmt with
  | some (.updateQuantitySold id quantitySold) =>
      (system.world.tiers.read action.agent id).map (fun tier => (tier.quantitySold : ℤ))
        = some (quantitySold + 1)
  | _ => true

theorem fresh_sound
    {system : System signature (Fin 2) (SharedLedger (Fin 2)) RefundError RefundResult}
    {action : Action (Fin 2) Input RefundError} (passes : fresh system action = true) :
    Fresh system action := by
  intro _ id quantitySold next
  rw [fresh, next] at passes
  exact of_decide_eq_true passes

/-- What the log and the tier show, and who has returned. -/
def seen (system : System signature (Fin 2) (SharedLedger (Fin 2)) RefundError RefundResult) :
    List Uuid × Option TicketTier × Bool :=
  (refundedIn system.log, system.world.ledger.tiers.get (id 1),
    decide (∀ agent, (system.thread agent).program.result.isSome))

end Sample

theorem concurrent_refunds_exact_sample :
    ∃ system : System signature (Fin 2) (SharedLedger (Fin 2)) RefundError RefundResult,
      Sample.seen system = ([Sample.id 30, Sample.id 31],
          some { event := Sample.id 0, quantityTotal := 10, quantitySold := 0 }, true) ∧
        ∃ sold, sold + 2 = 2 ∧ system.world.ledger.tiers.get (Sample.id 1)
          = some { event := Sample.id 0, quantityTotal := 10, quantitySold := sold } := by
  have executed : (Sample.pairStart.runWhile (engine Sample.appending (Fin 2)) Sample.fresh
      (List.replicate 5 (Sample.turn 0) ++ List.replicate 5 (Sample.turn 1) ++
        List.replicate 5 (Sample.turn 0) ++ List.replicate 5 (Sample.turn 1))).map Sample.seen
      = some ([Sample.id 30, Sample.id 31],
          some { event := Sample.id 0, quantityTotal := 10, quantitySold := 0 }, true) := by
    decide +kernel
  obtain ⟨system, ran, seen⟩ := Option.map_eq_some_iff.mp executed
  have accounted := concurrent_refunds_exact Sample.appending 7 Sample.pair Sample.pairRequest
    (reaches_of_runWhile (fun _ _ => Sample.fresh_sound) ran)
  refine ⟨system, seen, ?_⟩
  obtain ⟨sold, counted, written⟩ := accounted.once.tiers (Sample.id 1)
    { event := Sample.id 0, quantityTotal := 10, quantitySold := 2 } (by decide +kernel)
  rw [(Prod.mk.inj seen).1] at counted
  have two : ([Sample.id 30, Sample.id 31].map fun id =>
      Sample.pair.ticketsOn id (Sample.id 1)).sum = 2 := by
    decide +kernel
  exact ⟨sold, two ▸ counted, written⟩

/-- **Stock lost.**  Both refunds read the counter before either writes it; both
return, and one of the two places is not given back. -/
theorem stock_lost :
    ∃ system, Reaches (engine Sample.appending (Fin 2)) Unrestricted Sample.pairStart system ∧
      Sample.seen system = ([Sample.id 30, Sample.id 31],
        some { event := Sample.id 0, quantityTotal := 10, quantitySold := 1 }, true) ∧
      ¬ RefundsOnce (refundedIn system.log) Sample.pair system.world.ledger := by
  have executed : (Sample.pairStart.run (engine Sample.appending (Fin 2))
      (List.replicate 6 (Sample.turn 0) ++ List.replicate 6 (Sample.turn 1) ++
        List.replicate 4 (Sample.turn 0) ++ List.replicate 4 (Sample.turn 1))).map Sample.seen
      = some ([Sample.id 30, Sample.id 31],
          some { event := Sample.id 0, quantityTotal := 10, quantitySold := 1 }, true) := by
    decide +kernel
  obtain ⟨system, ran, seen⟩ := Option.map_eq_some_iff.mp executed
  refine ⟨system, reaches_of_run ran, seen, fun once => ?_⟩
  have refunded := (Prod.mk.inj seen).1
  have tier := (Prod.mk.inj (Prod.mk.inj seen).2).1
  obtain ⟨sold, counted, written⟩ := once.tiers (Sample.id 1)
    { event := Sample.id 0, quantityTotal := 10, quantitySold := 2 } (by decide +kernel)
  have two : ([Sample.id 30, Sample.id 31].map fun id =>
      Sample.pair.ticketsOn id (Sample.id 1)).sum = 2 := by
    decide +kernel
  rw [refunded, two] at counted
  rw [tier] at written
  have oneSold : 1 = sold := congrArg TicketTier.quantitySold (Option.some.inj written)
  have stillSold : sold + 2 = 2 := counted
  omega

end Ticketing.Payments
