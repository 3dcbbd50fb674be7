import Ticketing.Payments.Concurrent
import Ticketing.Checkout.LockOrder
import Ticketing.Transactional.Serializable
import Ticketing.Transactional.SingleTransaction

/-!
# Refunding one payment many times at once

`request_refund` locks the payment before it looks at anything.  Refunds of one payment
therefore run one after another, whatever the interleaving of their statements, and only
the first of them that comes to its end finds the payment SUCCEEDED.

## Main Definitions

* `paymentLock` — the row lock of one payment, as a common lock

## Main Results

* `requestRefund_guards` — `request_refund` takes the lock first
* `requestRefund_canEnd` — what one refund comes to alone, cut off or not
* `one_refund` — of any number of refunds of one payment at most one goes through

## Design Notes

Refunds of two payments do not share a lock, and what they write to the tier of their
tickets can be lost; refunds of one payment do not need the condition on that.
-/

namespace Ticketing.Payments

open Transactional Program VersionedTable

/-! ## The lock -/

section PaymentLock

variable {ι : Type} [DecidableEq ι] {service : AuditService} {agent other : ι} {input : Input}
variable {shared shared' : SharedLedger ι} {value : Ledger}

/-- The client has no lock, and no audit entry that is not committed. -/
structure Idle (shared : SharedLedger ι) (agent : ι) : Prop where
  own : SharedLedger.own agent shared = .nothing
  pending : shared.pending agent = []

/-- Nobody has any lock, and the ledger is `value`. -/
structure Settled (shared : SharedLedger ι) (value : Ledger) : Prop where
  nobody : ∀ agent, Idle shared agent
  ledger : shared.ledger = value

/-- Nobody but `agent` has any lock, and what is committed is `saved`. -/
structure Alone (agent : ι) (saved : Ledger) (shared : SharedLedger ι) : Prop where
  others : ∀ other, other ≠ agent → Idle shared other
  ledger : shared.ledger = saved

/-- `agent` has locked the row of the payment. -/
def HoldsPayment (id : Uuid) (agent : ι) (shared : SharedLedger ι) : Prop :=
  ∃ payment written, (SharedLedger.own agent shared).payments id = some ⟨some payment, written⟩

/-- The payment does not exist. -/
def NoPayment : (stmt : Stmt) → stmt.Res → Prop
  | .selectPaymentForUpdate _, answer => answer = none
  | _, _ => False

/-- A client with locks at most reads what is committed. -/
theorem view_of_nothing {K V : Type} {table : VersionedTable K ι V}
    (nothing : own agent table = fun _ => none) : view agent table = table.committed := by
  refine view_of_unwritten fun key locked owned => ?_
  rw [nothing] at owned
  cases owned

theorem Idle.view (idle : Idle shared agent) : shared.view agent = shared.ledger := by
  have payments := view_of_nothing (congrArg Own.payments idle.own)
  have tickets := view_of_nothing (congrArg Own.tickets idle.own)
  have tiers := view_of_nothing (congrArg Own.tiers idle.own)
  simp only [SharedLedger.view, SharedLedger.ledger, payments, tickets, tiers, idle.pending,
    List.append_nil]

theorem Idle.rollback (idle : Idle shared agent) : shared.rollback agent = shared := by
  have payments := rollback_of_not_own (congrArg Own.payments idle.own)
  have tickets := rollback_of_not_own (congrArg Own.tickets idle.own)
  have tiers := rollback_of_not_own (congrArg Own.tiers idle.own)
  have pending : Function.update shared.pending agent [] = shared.pending := by
    rw [← idle.pending, Function.update_eq_self]
  simp only [SharedLedger.rollback, payments, tickets, tiers, pending]

/-- What a client commits is what it has read. -/
theorem SharedLedger.ledger_commit (agent : ι) (shared : SharedLedger ι) :
    (shared.commit agent).ledger = shared.view agent := by
  simp only [ledger, commit, view, committed_commit]

/-- A statement that fails fails in its client's view too. -/
theorem SharedLedger.exec_error {stmt : Stmt} {error : RefundError}
    (result : shared.exec service agent input stmt = some (.error error)) :
    (shared.view agent).exec service input stmt = .error error := by
  cases stmt with
  | selectPaymentForUpdate id => simp [exec] at result
  | countCheckedIn payment => cases result
  | selectTickets payment => cases result
  | selectTier id => cases result
  | savePaymentStatus id status =>
      simp only [exec] at result
      simp only [Ledger.exec, view, get_view]
      cases visible : shared.payments.read agent id with
      | none => simpa [visible] using result
      | some payment => simp [visible] at result
  | saveTicketStatus id status =>
      simp only [exec] at result
      simp only [Ledger.exec, view, get_view]
      cases visible : shared.tickets.read agent id with
      | none => simpa [visible] using result
      | some ticket => simp [visible] at result
  | updateQuantitySold id quantitySold =>
      simp only [exec] at result
      simp only [Ledger.exec, view, get_view]
      cases visible : shared.tiers.read agent id with
      | none => simp [visible] at result
      | some tier =>
          rw [visible] at result
          simp only [Option.map_eq_some_iff] at result
          obtain ⟨tiers, granted, outcome⟩ := result
          by_cases negative : quantitySold < 0
          · simpa [negative] using outcome
          · simp [negative] at outcome
  | logAction call =>
      simp only [exec] at result
      simp only [Ledger.exec, view]
      cases logged : service call input.audit (shared.audit ++ shared.pending agent) with
      | ok made => simp [logged] at result
      | error error => simpa [logged] using result

/-- The entries of the others are their own business. -/
theorem Idle.exec {stmt : Stmt} {answer : stmt.Res} (idle : Idle shared other)
    (different : other ≠ agent)
    (result : shared.exec service agent input stmt = some (.ok (answer, shared'))) :
    Idle shared' other := by
  refine ⟨((SharedLedger.touches_of_exec result).own_of_ne different).trans idle.own, ?_⟩
  have pending := idle.pending
  cases executed_of_exec result with
  | logAction logged => exact (Function.update_of_ne different ..).trans pending
  | _ => exact pending

/-- A client keeps the lock of a payment as long as it executes statements. -/
theorem HoldsPayment.exec {id : Uuid} (holds : HoldsPayment id agent shared) {stmt : Stmt}
    {answer : stmt.Res}
    (result : shared.exec service agent input stmt = some (.ok (answer, shared'))) :
    HoldsPayment id agent shared' := by
  obtain ⟨payment, written, locked⟩ := holds
  cases SharedLedger.touches_of_exec result with
  | audit pending => exact ⟨payment, written, locked⟩
  | ticket visible placed granted => exact ⟨payment, written, locked⟩
  | tier granted => exact ⟨payment, written, locked⟩
  | @payment touched version payments granted =>
      unfold HoldsPayment
      simp only [SharedLedger.own, own_put_self granted]
      by_cases same : id = touched
      · subst same
        rw [Function.update_self, show shared.payments.committed.get id = some payment from
          get_committed_of_own locked]
        exact ⟨payment, version, rfl⟩
      · rw [Function.update_of_ne same]
        exact ⟨payment, written, locked⟩

/-- Nobody else gets the lock. -/
theorem HoldsPayment.waits {id : Uuid} (holds : HoldsPayment id agent shared)
    (different : other ≠ agent) :
    shared.exec service other input (.selectPaymentForUpdate id) = none := by
  obtain ⟨payment, written, locked⟩ := holds
  have waiting : shared.payments.lockWhere other id (fun _ => true) = none :=
    lockWhere_eq_none locked different
  change Option.map _ _ = none
  rw [waiting]
  rfl

/-- Asking for the lock while nobody has one gives the lock, unless there is no such payment. -/
theorem Settled.takes {id : Uuid} {found : Option Payment} (settled : Settled shared value)
    (result : shared.exec service agent input (.selectPaymentForUpdate id)
      = some (.ok (found, shared'))) :
    HoldsPayment id agent shared' ∨ shared' = shared ∧ found = none := by
  cases executed_of_exec result with
  | selectPaymentForUpdate locking =>
      rcases lockWhere_eq_some locking with
        ⟨rfl, rfl⟩ | ⟨payment, locked, rfl, -, current, shows, granted⟩
      · exact .inr ⟨rfl, rfl⟩
      · have unlocked : own agent shared.payments id = none :=
          congrFun (congrArg Own.payments (settled.nobody agent).own) id
        obtain rfl := (Sees.of_shows shows).committed unlocked current
        refine .inl ⟨payment, none, ?_⟩
        simp only [SharedLedger.own, own_put_self granted, ← shows.1, Function.update_self]

/-- The row lock of a payment lets one client work at a time, when `log_action` only ever
adds entries. -/
def paymentLock (service : AuditService)
    (appends : ∀ call input trail made, service call input trail = .ok made → trail <+: made.2)
    (ι : Type) [DecidableEq ι] (id : Uuid) : CommonLock (engine service ι) (store service) where
  view := SharedLedger.view
  exec_ok result := SharedLedger.exec_view appends result
  exec_error result := SharedLedger.exec_error result
  Settled := Settled
  Working := Alone
  Holds := HoldsPayment id
  Takes stmt := stmt = .selectPaymentForUpdate id
  Misses := NoPayment
  rollback_self _ := rfl
  view_of_settled agent settled := (settled.nobody agent).view.trans settled.ledger
  working _ settled := ⟨fun other _ => settled.nobody other, settled.ledger⟩
  working_exec alone result :=
    ⟨fun other different => (alone.others other different).exec different result,
      (SharedLedger.touches_of_exec result).ledger_eq.trans alone.ledger⟩
  holds_exec holds result := holds.exec result
  settled_commit := by
    intro agent saved shared alone
    refine ⟨fun other => ?_, SharedLedger.ledger_commit agent shared⟩
    by_cases same : other = agent
    · subst same
      exact ⟨(isolation service ι).own_commit_self other shared, Function.update_self ..⟩
    · have idle := alone.others other same
      exact ⟨((isolation service ι).own_commit_of_ne shared same).trans idle.own,
        (Function.update_of_ne same ..).trans idle.pending⟩
  settled_rollback := by
    intro agent saved shared alone
    refine ⟨fun other => ?_,
      ((isolation service ι).shared_rollback agent shared).trans alone.ledger⟩
    by_cases same : other = agent
    · subst same
      exact ⟨(isolation service ι).own_rollback_self other shared, Function.update_self ..⟩
    · have idle := alone.others other same
      exact ⟨((isolation service ι).own_rollback_of_ne shared same).trans idle.own,
        (Function.update_of_ne same ..).trans idle.pending⟩
  rollback_settled agent settled := (settled.nobody agent).rollback
  rollback_of_ne alone different := (alone.others _ different).rollback
  takes := by
    rintro agent value input stmt answer shared shared' rfl settled result
    exact @Settled.takes ι _ service agent input shared shared' value id answer settled result
  waits := by
    rintro agent other input stmt shared rfl holds different
    exact @HoldsPayment.waits ι _ service agent other input shared id holds different

end PaymentLock

/-! ## One refund -/

theorem restoreLoop_closes (tickets : List (Uuid × Ticket)) {next : Unit → Refunding RefundResult}
    (closes : (next ()).Closes) : (restoreLoop tickets >>= next).Closes := by
  induction tickets with
  | nil => exact closes
  | cons head rest ih =>
      intro found
      cases found with
      | none => trivial
      | some tier =>
          intro updated saved
          exact ih

/-- **`request_refund` takes the lock of its payment first.** -/
theorem requestRefund_guards {ι : Type} [DecidableEq ι] {service : AuditService}
    (appends : ∀ call input trail made, service call input trail = .ok made → trail <+: made.2)
    {id : Uuid} {paymentId : String} (named : Uuid.parse paymentId = some id) (contentType : ℕ)
    (reason : String) (actor : Option Uuid) :
    (paymentLock service appends ι id).Guards
      (requestRefund contentType paymentId reason actor) := by
  unfold requestRefund Program.atomic
  rw [named]
  refine ⟨_, _, rfl, rfl, fun found => ?_, ?_⟩
  · cases found with
    | none => trivial
    | some payment =>
        change Program.Closes ((if payment.status ≠ .succeeded then _ else _ : Refunding _) >>= _)
        split
        · trivial
        · intro (count : ℕ)
          change Program.Closes ((if count > 0 then _ else _ : Refunding _) >>= _)
          split
          · trivial
          · intro saved tickets
            change Program.Closes ((restoreLoop tickets >>= _) >>= _)
            rw [Program.bind_assoc]
            refine restoreLoop_closes tickets ?_
            intro logged
            exact ⟨_, rfl⟩
  · rintro found rfl
    exact ⟨_, rfl⟩

theorem restoreLoop_plain (tickets : List (Uuid × Ticket)) : (restoreLoop tickets).Plain := by
  induction tickets with
  | nil => exact .done ()
  | cons head rest ih =>
      refine .call fun found => ?_
      cases found with
      | none => exact .raise _
      | some tier => exact .call fun _ => .call fun _ => ih

/-- `request_refund` is one transaction. -/
theorem requestRefund_singleTransaction (contentType : ℕ) (paymentId reason : String)
    (actor : Option Uuid) :
    SingleTransaction (fun _ => False) false
      (requestRefund contentType paymentId reason actor) := by
  refine Plain.atomic ?_
  cases Uuid.parse paymentId with
  | none => exact .raise _
  | some id =>
      refine .call fun found => ?_
      cases found with
      | none => exact .raise _
      | some payment =>
          change Plain (if payment.status ≠ .succeeded then _ else _ : Refunding _)
          split
          · exact .raise _
          · refine .call fun (count : ℕ) => ?_
            change Plain (if count > 0 then _ else _ : Refunding _)
            split
            · exact .raise _
            · exact .call fun _ => .call fun tickets =>
                (restoreLoop_plain tickets).bind fun _ => .call fun _ => .done _

/-- A rollback restores the whole ledger. -/
theorem ledger_durable (service : AuditService) :
    Durable (store service) (fun ledger => ledger) fun _ => False where
  rollback _ _ := rfl
  quiet still := still.elim

section Serial

variable {service : AuditService} {contentType : ℕ} {id : Uuid} {cut : Prop}
variable {start value value' : Ledger}

/-- **What one refund comes to alone**, cut off or not: it returns and has refunded the
payment, or it changes nothing. -/
theorem requestRefund_canEnd
    (returns : ∀ call input trail, ∃ made, service call input trail = .ok made)
    (referential : value.Referential) {paymentId reason : String} {actor : Option Uuid}
    (named : Uuid.parse paymentId = some id) {outcome : Outcome RefundError RefundResult}
    (ends : (requestRefund contentType paymentId reason actor).CanEnd (store service) cut none value
      (outcome, value')) :
    (∃ payment, value.payments.get id = some payment ∧ Refunded id payment value value' ∧
        outcome
          = .returned ⟨"refunded", paymentId, payment.amountText, payment.currency⟩) ∨
      (∀ result, outcome ≠ .returned result) ∧ value' = value := by
  obtain ⟨fault, inputs, -, ran⟩ := ends
  by_cases goesThrough : ∃ result, outcome = .returned result
  · obtain ⟨result, rfl⟩ := goesThrough
    have uncut := Program.run_eq_of_not_interrupted (store service)
      (requestRefund contentType paymentId reason actor) fault inputs none value (by
        rw [ran]
        rintro ⟨⟩)
    have spec := requestRefund_run returns referential contentType paymentId reason actor inputs
    rw [← uncut, ran] at spec
    generalize same : ((.returned result, value') : Outcome RefundError RefundResult × Ledger)
      = pair at spec
    cases spec with
    | refused error reason => cases same
    | refunded parsed stored done =>
        cases named.symm.trans parsed
        cases same
        exact .inl ⟨_, stored, done, rfl⟩
  · refine .inr ⟨fun result same => goesThrough ⟨result, same⟩, ?_⟩
    rcases (requestRefund_singleTransaction contentType paymentId reason actor).run_kept
      (ledger_durable service) fault inputs value with ⟨result, returned⟩ | kept
    · rw [ran] at returned
      exact absurd ⟨result, returned⟩ goesThrough
    · rw [ran] at kept
      exact kept

variable {ι : Type} {hit : ι → RefundError → Prop}

/-- The refund that went through, and what it left. -/
structure Winner (requests : ι → RefundRequest) (id : Uuid) (start value : Ledger)
    (ended : List (ι × Outcome RefundError RefundResult)) (winner : ι) (payment : Payment) :
    Prop where
  stored : start.payments.get id = some payment
  refunded : Refunded id payment start value
  returned : (winner, .returned ⟨"refunded", (requests winner).paymentId, payment.amountText,
    payment.currency⟩) ∈ ended
  only : ∀ agent result, (agent, .returned result) ∈ ended → agent = winner ∧
    result = ⟨"refunded", (requests winner).paymentId, payment.amountText, payment.currency⟩

/-- **A serial run of refunds of one payment**: one of them goes through, or none. -/
theorem serialRun_refunds
    (returns : ∀ call input trail, ∃ made, service call input trail = .ok made)
    (referential : start.Referential) {requests : ι → RefundRequest}
    (onePayment : ∀ agent, Uuid.parse (requests agent).paymentId = some id)
    {ended : List (ι × Outcome RefundError RefundResult)}
    (serial : SerialRun (store service) (fun agent => requestRefund contentType
      (requests agent).paymentId (requests agent).reason (requests agent).actor) hit start ended
      value) :
    (value = start ∧ ∀ agent result, (agent, Outcome.returned result) ∉ ended) ∨
      ∃ winner payment, Winner requests id start value ended winner payment := by
  induction serial with
  | nil => exact .inl ⟨rfl, fun agent result => List.not_mem_nil⟩
  | @call ended value value' outcome before agent ends ih =>
      rcases ih with ⟨rfl, none⟩ | ⟨winner, payment, won⟩
      · rcases requestRefund_canEnd returns referential (onePayment agent) ends with
          ⟨payment, stored, refunded, rfl⟩ | ⟨refused, rfl⟩
        · refine .inr ⟨agent, payment, stored, refunded, List.mem_append_right _ (.head _), ?_⟩
          intro other result found
          rcases List.mem_append.mp found with earlier | last
          · exact absurd earlier (none other result)
          · obtain ⟨rfl, same⟩ := Prod.mk.inj (List.mem_singleton.mp last)
            exact ⟨rfl, Outcome.returned.inj same⟩
        · refine .inl ⟨rfl, fun other result found => ?_⟩
          rcases List.mem_append.mp found with earlier | last
          · exact none other result earlier
          · exact refused result (congrArg Prod.snd (List.mem_singleton.mp last)).symm
      · have kept := won.refunded.referential referential
        rcases requestRefund_canEnd returns kept (onePayment agent) ends with
          ⟨again, stored, refunded, -⟩ | ⟨refused, rfl⟩
        · -- the payment is no longer SUCCEEDED
          rw [won.refunded.payments, Table.get_set_self] at stored
          have succeeded := refunded.succeeded
          rw [← Option.some.inj stored] at succeeded
          cases succeeded
        · refine .inr ⟨winner, payment, won.stored, won.refunded,
            List.mem_append_left _ won.returned, fun other result found => ?_⟩
          rcases List.mem_append.mp found with earlier | last
          · exact won.only other result earlier
          · exact absurd (congrArg Prod.snd (List.mem_singleton.mp last)).symm (refused result)

end Serial

/-! ## Refunds at once -/

/-- **A payment is refunded once.**  Of any number of refunds of one payment, in any
interleaving and with exceptions anywhere, at most one returns.  Until then nothing has
changed; from then on the payment, its tickets and their tiers are what this one refund
makes of them, and every other call raises. -/
theorem one_refund {ι : Type} [DecidableEq ι] (service : AuditService)
    (appends : ∀ call input trail made, service call input trail = .ok made → trail <+: made.2)
    (returns : ∀ call input trail, ∃ made, service call input trail = .ok made) (contentType : ℕ)
    (id : Uuid) {start : Ledger} (referential : start.Referential) (requests : ι → RefundRequest)
    (onePayment : ∀ agent, Uuid.parse (requests agent).paymentId = some id)
    {system : System signature ι (SharedLedger ι) RefundError RefundResult}
    (reached : Reaches (engine service ι) Unrestricted
      (System.start (.ofLedger start) fun agent => requestRefund contentType
        (requests agent).paymentId (requests agent).reason (requests agent).actor) system) :
    (system.world.ledger = start ∧ ∀ agent result, (system.thread agent).program ≠ .done result) ∨
      ∃ winner payment, start.payments.get id = some payment ∧
        Refunded id payment start system.world.ledger ∧
        ∀ agent result, (system.thread agent).program = .done result ↔ agent = winner ∧
          result = ⟨"refunded", (requests winner).paymentId, payment.amountText,
            payment.currency⟩ := by
  have guards (agent : ι) : (paymentLock service appends ι id).Guards
      (requestRefund contentType (requests agent).paymentId (requests agent).reason
        (requests agent).actor) := requestRefund_guards appends (onePayment agent) _ _ _
  have settled : (paymentLock service appends ι id).Settled (.ofLedger start) start :=
    ⟨fun agent => ⟨SharedLedger.own_ofLedger agent start, rfl⟩, SharedLedger.ledger_ofLedger start⟩
  have anyRun : Reaches (engine service ι) (fun _ action => ∀ error, action.fault = some error →
      True) _ system := reached.mono fun _ _ _ _ _ => trivial
  obtain ⟨ended, value, inside, serializes, -⟩ :=
    @CommonLock.serializes _ _ _ _ _ _ _ _ _ _ (paymentLock service appends ι id) _
      (fun _ _ => True) _ _ _ guards _ settled anyRun .refl
  have ledger : system.world.ledger = value := by
    have stage := serializes.stage
    cases inside with
    | none => exact stage.ledger
    | some agent => exact stage.working.ledger
  -- whoever has returned is in the serial run, with what it returned
  have returned (agent : ι) (result : RefundResult) :
      (system.thread agent).program = .done result ↔ (agent, .returned result) ∈ ended := by
    constructor
    · intro isDone
      obtain ⟨⟨other, outcome⟩, found, same⟩ := List.mem_map.mp
        (serializes.complete (guards agent) (.inl ⟨result, isDone⟩))
      obtain rfl : other = agent := same
      have shows := serializes.shown _ _ found
      rw [isDone] at shows
      cases shows with
      | returned value => exact found
    · intro found
      have shows := serializes.shown _ _ found
      generalize (system.thread agent).program = program at shows
      cases shows with
      | returned value => rfl
  rw [ledger]
  rcases serialRun_refunds returns referential onePayment serializes.serial with
    ⟨same, none⟩ | ⟨winner, payment, won⟩
  · exact .inl ⟨same, fun agent result isDone =>
      none agent result ((returned agent result).mp isDone)⟩
  · refine .inr ⟨winner, payment, won.stored, won.refunded, fun agent result => ?_⟩
    rw [returned]
    refine ⟨won.only agent result, ?_⟩
    rintro ⟨rfl, rfl⟩
    exact won.returned

namespace Sample

/-- One payment is refunded twice at once, in two spellings. -/
def twice : Bool → RefundRequest
  | false => { paymentId := (id 30).str, reason := "Event cancelled" }
  | true => { paymentId := (id 30).str.toUpper, reason := "Event cancelled" }

/-- The first refund gets the lock and is killed in its loop; the second one waits, and
goes through after the rollback. -/
def killed : List (Action Bool Input RefundError) :=
  let turn (agent : Bool) : Action Bool Input RefundError := ⟨agent, .plain 0 (id 8), none⟩
  List.replicate 6 (turn false) ++ [turn true] ++
    [⟨false, .plain 0 (id 8), some .connection⟩] ++ [turn false] ++ List.replicate 15 (turn true)

theorem appending_appends (call : LogAction) (input : Ticketing.Input) (trail : AuditTrail)
    (made : AuditLog × AuditTrail) (logged : appending call input trail = .ok made) :
    trail <+: made.2 := by
  cases logged
  exact List.prefix_append ..

end Sample

theorem one_refund_sample :
    ∃ system : System signature Bool (SharedLedger Bool) RefundError RefundResult,
      (system.thread true).program.result.isSome ∧
        ∃ sold, sold + 2 = 5 ∧ system.world.ledger.tiers.get (Sample.id 1)
          = some { event := Sample.id 0, quantityTotal := 10, quantitySold := sold } := by
  have executed : ((System.start (.ofLedger Sample.ledger) fun agent => requestRefund 7
      (Sample.twice agent).paymentId (Sample.twice agent).reason (Sample.twice agent).actor).run
        (engine Sample.appending Bool) Sample.killed).map
          (fun system => (system.thread true).program.result.isSome) = some true := by
    decide +kernel
  obtain ⟨system, ran, seen⟩ := Option.map_eq_some_iff.mp executed
  refine ⟨system, seen, ?_⟩
  have onePayment (agent : Bool) :
      Uuid.parse (Sample.twice agent).paymentId = some (Sample.id 30) := by
    cases agent <;> decide +kernel
  rcases one_refund Sample.appending Sample.appending_appends Sample.appending_returns 7
    (Sample.id 30) Sample.ledger_referential Sample.twice onePayment (reaches_of_run ran) with
    ⟨-, nobody⟩ | ⟨winner, payment, -, refunded, -⟩
  · cases left : (system.thread true).program with
    | done result => exact absurd left (nobody true result)
    | _ => rw [left] at seen; cases seen
  · obtain ⟨sold, counted, written⟩ := refunded.tiers (Sample.id 1)
      { event := Sample.id 0, quantityTotal := 10, quantitySold := 5 } (by decide +kernel)
    have two : Sample.ledger.ticketsOn (Sample.id 30) (Sample.id 1) = 2 := by decide +kernel
    rw [two] at counted
    exact ⟨sold, counted, written⟩

end Ticketing.Payments
