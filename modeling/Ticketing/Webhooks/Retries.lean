import Ticketing.Webhooks.Handlers

/-!
# Failed deliveries and retries

Deliveries of one payment, one after the other, each of them cut off by an
exception at any point or by none.

## Main Definitions

* `Attempt` — one delivery with the point at which it is cut off
* `Attempt.Report`, `reports` — what happened to each delivery of a sequence
* `Settles` — what a sequence of deliveries within the lifetime of a key promises

## Main Results

* `deliveries_settle` — every sequence keeps the promise
* `marked_never_issued` — a delivery that raises after its mark leaves a payment
  marked for which no ticket is ever issued

## Design Notes

The promise is read off the reports alone: the key before and after a delivery,
and how the delivery ended.
-/

namespace Ticketing.Webhooks

open Transactional

/-- One delivery, cut off in front of its statement number `fault` if it is. -/
structure Attempt where
  delivery : Delivery
  fault : Option ℕ
  inputs : ℕ → Input

/-- What happened to one delivery. -/
structure Report where
  attempt : Attempt
  before : Stores
  outcome : Outcome WebhookError Value
  after : Stores

namespace Report

variable (report : Report) (paymentId : String)

/-- The delivery has returned. -/
def Returned : Prop := ∃ value, report.outcome = .returned value

/-- The delivery has returned with the status `ticket_issued`. -/
def Issued : Prop :=
  ∃ value, report.outcome = .returned value ∧ status value = some "ticket_issued"

/-- The key was unmarked before the delivery and is marked after it. -/
def Marked : Prop :=
  report.before.entry paymentId = none ∧ (report.after.entry paymentId).isSome

end Report

section Reports

variable (service : AuditService) (python : PythonText)

/-- Run one delivery. -/
def Attempt.report (attempt : Attempt) (stores : Stores) : Report :=
  let ended := (attempt.delivery.program python).run (store service) attempt.fault attempt.inputs
    none stores
  ⟨attempt, stores, ended.1, ended.2⟩

/-- Run a sequence of deliveries. -/
def reports : List Attempt → Stores → List Report
  | [], _ => []
  | attempt :: rest, stores =>
      let report := attempt.report service python stores
      report :: reports rest report.after

end Reports

/-- What a sequence of deliveries of one payment promises within the lifetime of
its key. -/
structure Settles (python : PythonText) (paymentId : String) (history : List Report) : Prop where
  /-- A delivery that raises in front of its mark has done nothing. -/
  early : ∀ report ∈ history, report.before.entry paymentId = none →
    ((∃ n, report.attempt.fault = some n ∧ n ≤ 2) ∨
      ∃ error, report.attempt.delivery.payment python = .error error) →
    ¬ report.Returned ∧ report.after = report.before
  /-- As long as the key is unmarked, a delivery is processed as new. -/
  retried : ∀ report ∈ history, report.before.entry paymentId = none →
    report.attempt.fault = none → ∀ ticket,
    report.attempt.delivery.payment python = .ok ticket →
    report.Marked paymentId ∧ (report.outcome = .returned ticket.result ∧ report.Issued ∨
      ∃ error, report.outcome = .raised (.audit error))
  /-- Whatever raises after the mark (`log_action`, an exception in front of it, one in front
  of the commit), the key is marked with the result, for its whole lifetime. -/
  marked : ∀ report ∈ history, report.before.entry paymentId = none →
    (∀ n, report.attempt.fault = some n → 2 < n) → ∀ ticket,
    report.attempt.delivery.payment python = .ok ticket →
    report.Marked paymentId ∧ report.after.entry paymentId
      = some (ticket.result, (report.attempt.inputs 1).now + idemTtl * second)
  /-- A marked key stays as it is, and every later delivery finds it and does nothing. -/
  late : ∀ earlier report later, history = earlier ++ report :: later →
    (report.after.entry paymentId).isSome → ∀ other ∈ later,
      other.after.entry paymentId = report.after.entry paymentId ∧ other.after = other.before ∧
        ∀ value, other.outcome = .returned value → value = alreadyProcessed
  /-- No two deliveries issue the ticket. -/
  once : history.Pairwise fun first second => ¬ (first.Issued ∧ second.Issued)
  /-- One does when some delivery returns and none has raised after its mark. -/
  issued : (∃ report ∈ history, report.Returned) →
    (∀ report ∈ history, report.Marked paymentId → report.Returned) →
      ∃ report ∈ history, report.Issued

/-! ## One delivery -/

section Delivery

variable {service : AuditService} {python : PythonText} {paymentId : String}
variable {attempt : Attempt} {stores : Stores}

/-- The key is alive when a delivery checks it. -/
def Attempt.Alive (attempt : Attempt) (expiry : Time) : Prop :=
  ∀ n, (attempt.inputs n).now < expiry

/-- A delivery finds a marked key marked and changes nothing. -/
theorem report_marked (named : attempt.delivery.paymentId python = some paymentId)
    {value : Value} {expiry : Time} (marked : stores.entry paymentId = some (value, expiry))
    (alive : attempt.Alive expiry) :
    (attempt.report service python stores).after = stores ∧
      ((attempt.report service python stores).outcome = .returned alreadyProcessed ∨
        (attempt.report service python stores).outcome = .interrupted) := by
  have found : stores.cached (attempt.inputs 0).now (idemKey paymentId) = some value := by
    rw [Stores.cached_idemKey, marked, Option.map_some]
    intro value' expiry' found
    rw [marked] at found
    cases found
    exact alive 0
  simp only [Attempt.report, Delivery.program_eq python named]
  -- the begin, the check and the commit are all there is to a refused delivery
  match attempt.fault with
  | some 0 => exact ⟨rfl, .inr rfl⟩
  | some 1 => exact ⟨rfl, .inr rfl⟩
  | some 2 => simp [Program.run, store, Stores.exec, found, answered]
  | some (n + 3) => simp [Program.run, store, Stores.exec, found, answered]
  | none => simp [Program.run, store, Stores.exec, found, answered]

/-- What the check finds of an unmarked key. -/
theorem cached_unmarked (now : Time) (unmarked : stores.entry paymentId = none) :
    stores.cached now (idemKey paymentId) = none := by
  rw [Stores.cached_idemKey, unmarked, Option.map_none]
  intro value expiry found
  rw [unmarked] at found
  cases found

/-- An exception in front of the mark leaves everything as it was. -/
theorem report_early (named : attempt.delivery.paymentId python = some paymentId)
    (unmarked : stores.entry paymentId = none)
    (early : (∃ n, attempt.fault = some n ∧ n ≤ 2) ∨
      ∃ error, attempt.delivery.payment python = .error error) :
    ¬ (attempt.report service python stores).Returned ∧
      (attempt.report service python stores).after = stores := by
  have found := cached_unmarked (attempt.inputs 0).now unmarked
  simp only [Report.Returned, Attempt.report, Delivery.program_eq python named]
  rcases early with ⟨n, fault, early⟩ | ⟨error, fails⟩
  · rw [fault]
    rcases n with _ | _ | _ | n
    · simp [Program.run, store]
    · simp [Program.run, store]
    · cases attempt.delivery.payment python with
      | error error => simp [Program.run, store, Stores.exec, found, answered]
      | ok ticket => simp [Program.run, store, Stores.exec, found, answered]
    · omega
  · rw [fails]
    rcases attempt.fault with _ | _ | _ | n <;>
      simp [Program.run, store, Stores.exec, found, answered]

/-- A delivery that gets past its mark leaves the cache marked, whatever raises
after it. -/
theorem report_late (named : attempt.delivery.paymentId python = some paymentId)
    (unmarked : stores.entry paymentId = none) {ticket : Payment}
    (computed : attempt.delivery.payment python = .ok ticket)
    (late : ∀ n, attempt.fault = some n → 2 < n) :
    (attempt.report service python stores).after.cache = (stores.setCached
        (attempt.inputs 1).now (idemKey paymentId) ticket.result idemTtl).cache ∧
      ((attempt.report service python stores).outcome = .returned ticket.result ∨
        (∃ error, (attempt.report service python stores).outcome = .raised (.audit error)) ∨
        (attempt.fault ≠ none ∧
          (attempt.report service python stores).outcome = .interrupted)) := by
  have found := cached_unmarked (attempt.inputs 0).now unmarked
  simp only [Attempt.report, Delivery.program_eq python named, computed]
  cases logged : service ticket.call (attempt.inputs 2) stores.audit with
  | error error =>
      rcases fault : attempt.fault with _ | _ | _ | _ | _ | n
      · simp [Program.run, store, Stores.exec, found, answered, Stores.setCached, logged]
      · exact absurd (late _ fault) (by decide)
      · exact absurd (late _ fault) (by decide)
      · exact absurd (late _ fault) (by decide)
      · simp [Program.run, store, Stores.exec, found, answered]
      · simp [Program.run, store, Stores.exec, found, answered, Stores.setCached, logged]
  | ok made =>
      rcases fault : attempt.fault with _ | _ | _ | _ | _ | _ | n
      · simp [Program.run, store, Stores.exec, found, answered, Stores.setCached, logged]
      · exact absurd (late _ fault) (by decide)
      · exact absurd (late _ fault) (by decide)
      · exact absurd (late _ fault) (by decide)
      · simp [Program.run, store, Stores.exec, found, answered]
      · simp [Program.run, store, Stores.exec, found, answered, Stores.setCached, logged]
      · simp [Program.run, store, Stores.exec, found, answered, Stores.setCached, logged]

end Delivery

/-! ## Sequences -/

section Sequences

variable {service : AuditService} {python : PythonText} {paymentId : String}

/-- A delivery that finds the key `entry` in the cache, and leaves everything as it is. -/
structure Report.Refused (report : Report) (paymentId : String) (entry : Value × Time) : Prop where
  before : report.before.entry paymentId = some entry
  unchanged : report.after = report.before
  already : ∀ value, report.outcome = .returned value → value = alreadyProcessed

theorem Report.Refused.after {report : Report} {entry : Value × Time}
    (refused : report.Refused paymentId entry) : report.after.entry paymentId = some entry :=
  refused.unchanged ▸ refused.before

/-- A refused delivery issues nothing. -/
theorem Report.Refused.not_issued {report : Report} {entry : Value × Time}
    (refused : report.Refused paymentId entry) : ¬ report.Issued := by
  rintro ⟨value, returned, issued⟩
  rw [refused.already value returned] at issued
  exact absurd issued (by decide)

/-- **After the mark.**  Every delivery of a sequence is refused as long as the
key lives. -/
theorem reports_refused {attempts : List Attempt} {stores : Stores} {value : Value} {expiry : Time}
    (named : ∀ attempt ∈ attempts, attempt.delivery.paymentId python = some paymentId)
    (alive : ∀ attempt ∈ attempts, attempt.Alive expiry)
    (marked : stores.entry paymentId = some (value, expiry)) :
    ∀ report ∈ reports service python attempts stores,
      report.Refused paymentId (value, expiry) := by
  induction attempts with
  | nil => nofun
  | cons attempt rest ih =>
      obtain ⟨unchanged, outcome⟩ := @report_marked service _ _ _ _ (named _ List.mem_cons_self)
        _ _ marked (alive _ List.mem_cons_self)
      intro report found
      rw [reports, unchanged] at found
      rcases List.mem_cons.mp found with rfl | later
      · refine ⟨marked, unchanged, fun value' returned => ?_⟩
        rcases outcome with already | interrupted
        · rw [already] at returned
          cases returned
          rfl
        · rw [interrupted] at returned
          cases returned
      · exact ih (fun other known => named other (List.mem_cons_of_mem _ known))
          (fun other known => alive other (List.mem_cons_of_mem _ known)) report later

namespace Settles

theorem nil : Settles python paymentId [] where
  early := nofun
  retried := nofun
  marked := nofun
  late earlier report later split := by simp at split
  once := .nil
  issued := by rintro ⟨_, known, -⟩; cases known

/-- A delivery that has done nothing leaves the promise to the rest. -/
theorem cons_early {head : Report} {rest : List Report} (settles : Settles python paymentId rest)
    (unmarked : head.before.entry paymentId = none) (failed : ¬ head.Returned)
    (unchanged : head.after = head.before)
    (stopped : (∀ n, head.attempt.fault = some n → 2 < n) → ∀ ticket,
      head.attempt.delivery.payment python ≠ .ok ticket) :
    Settles python paymentId (head :: rest) where
  early report known unmarked' early := by
    rcases List.mem_cons.mp known with rfl | known
    · exact ⟨failed, unchanged⟩
    · exact settles.early report known unmarked' early
  retried report known unmarked' unharmed ticket computed := by
    rcases List.mem_cons.mp known with rfl | known
    · exact absurd computed (stopped (by simp [unharmed]) ticket)
    · exact settles.retried report known unmarked' unharmed ticket computed
  marked report known unmarked' past ticket computed := by
    rcases List.mem_cons.mp known with rfl | known
    · exact absurd computed (stopped past ticket)
    · exact settles.marked report known unmarked' past ticket computed
  late earlier report later split marked := by
    cases earlier with
    | nil =>
        cases split
        rw [unchanged, unmarked] at marked
        cases marked
    | cons first earlier =>
        rw [List.cons_append, List.cons.injEq] at split
        exact settles.late earlier report later split.2 marked
  once := List.pairwise_cons.mpr ⟨fun _ _ ⟨issued, _⟩ =>
    failed (issued.imp fun _ => And.left), settles.once⟩
  issued := by
    rintro ⟨report, known, returned⟩ kept
    rcases List.mem_cons.mp known with rfl | known
    · exact absurd returned failed
    · obtain ⟨found, known, issued⟩ := settles.issued ⟨report, known, returned⟩
        fun other later => kept other (List.mem_cons_of_mem _ later)
      exact ⟨found, List.mem_cons_of_mem _ known, issued⟩

/-- A delivery that has marked the key settles the payment. -/
theorem cons_late {head : Report} {rest : List Report} {entry : Value × Time} {ticket : Payment}
    (written : entry = (ticket.result, (head.attempt.inputs 1).now + idemTtl * second))
    (unmarked : head.before.entry paymentId = none)
    (marked : head.after.entry paymentId = some entry)
    (computed : head.attempt.delivery.payment python = .ok ticket)
    (late : ∀ n, head.attempt.fault = some n → 2 < n)
    (outcome : head.outcome = .returned ticket.result ∨
      (∃ error, head.outcome = .raised (.audit error)) ∨
      (head.attempt.fault ≠ none ∧ head.outcome = .interrupted))
    (refused : ∀ report ∈ rest, report.Refused paymentId entry) :
    Settles python paymentId (head :: rest) where
  early report known unmarked' early := by
    rcases List.mem_cons.mp known with rfl | known
    · rcases early with ⟨n, fault, small⟩ | ⟨error, fails⟩
      · exact absurd (late n fault) (by omega)
      · rw [computed] at fails
        cases fails
    · rw [(refused report known).before] at unmarked'
      cases unmarked'
  retried report known unmarked' unharmed ticket' computed' := by
    rcases List.mem_cons.mp known with rfl | known
    · rw [computed] at computed'
      cases computed'
      -- a complete delivery either returns its result or dies in the audit log
      refine ⟨⟨unmarked, by rw [marked]; rfl⟩, ?_⟩
      rcases outcome with returned | raised | ⟨harmed, -⟩
      · exact .inl ⟨returned, _, returned, Delivery.status_payment python computed⟩
      · exact .inr raised
      · exact absurd unharmed harmed
    · rw [(refused report known).before] at unmarked'
      cases unmarked'
  marked report known unmarked' _ ticket' computed' := by
    rcases List.mem_cons.mp known with rfl | known
    · rw [computed] at computed'
      cases computed'
      exact ⟨⟨unmarked, by rw [marked]; rfl⟩, marked.trans (congrArg some written)⟩
    · rw [(refused report known).before] at unmarked'
      cases unmarked'
  late earlier report later split _ other known := by
    have afterHead : report.after.entry paymentId = some entry ∧ other ∈ rest := by
      cases earlier with
      | nil =>
          cases split
          exact ⟨marked, known⟩
      | cons first earlier =>
          rw [List.cons_append, List.cons.injEq] at split
          obtain ⟨-, rfl⟩ := split
          exact ⟨(refused report (by simp)).after, by simp [known]⟩
    exact ⟨(refused other afterHead.2).after.trans afterHead.1.symm,
      (refused other afterHead.2).unchanged, (refused other afterHead.2).already⟩
  once := by
    refine List.pairwise_cons.mpr ⟨fun other known ⟨_, issued⟩ =>
      (refused other known).not_issued issued, ?_⟩
    exact List.pairwise_of_forall_mem_list fun first isFirst second _ ⟨issued, _⟩ =>
      (refused first isFirst).not_issued issued
  issued _ kept := by
    obtain ⟨value, returned⟩ := kept head List.mem_cons_self ⟨unmarked, by rw [marked]; rfl⟩
    refine ⟨head, List.mem_cons_self, value, returned, ?_⟩
    rcases outcome with ticketed | ⟨error, raised⟩ | ⟨-, interrupted⟩
    · rw [ticketed] at returned
      cases returned
      exact Delivery.status_payment python computed
    · rw [raised] at returned
      cases returned
    · rw [interrupted] at returned
      cases returned

end Settles

/-- **Failed deliveries and retries.**  For every audit service, every sequence of
deliveries of one payment, cut off anywhere, that starts with the key unmarked
and takes less than the lifetime of a key: what raises in front of the mark
leaves the payment new for the next delivery, what raises after it leaves the
payment marked, and at most one delivery issues the ticket. -/
theorem deliveries_settle (service : AuditService) (python : PythonText) {paymentId : String}
    (start : Time) (attempts : List Attempt) (stores : Stores)
    (named : ∀ attempt ∈ attempts, attempt.delivery.paymentId python = some paymentId)
    (began : ∀ attempt ∈ attempts, ∀ n, start ≤ (attempt.inputs n).now)
    (lasting : ∀ attempt ∈ attempts, attempt.Alive (start + idemTtl * second))
    (unmarked : stores.entry paymentId = none) :
    Settles python paymentId (reports service python attempts stores) := by
  induction attempts generalizing stores with
  | nil => exact .nil
  | cons attempt rest ih =>
      have here := named attempt List.mem_cons_self
      have namedRest : ∀ other ∈ rest, other.delivery.paymentId python = some paymentId :=
        fun other known => named other (List.mem_cons_of_mem _ known)
      have settles (stores' : Stores) (unmarked' : stores'.entry paymentId = none) :=
        ih stores' namedRest (fun other known => began other (List.mem_cons_of_mem _ known))
          (fun other known => lasting other (List.mem_cons_of_mem _ known)) unmarked'
      -- does the delivery get past its mark?
      by_cases early : (∃ n, attempt.fault = some n ∧ n ≤ 2) ∨
          ∃ error, attempt.delivery.payment python = .error error
      · obtain ⟨failed, unchanged⟩ := @report_early service _ _ _ _ here unmarked early
        refine .cons_early (settles _ ?_) unmarked failed unchanged fun past ticket => ?_
        · rw [unchanged]
          exact unmarked
        · rcases early with ⟨n, fault, small⟩ | ⟨error, fails⟩
          · exact absurd (past n fault) (by omega)
          · intro computed
            rw [show attempt.delivery.payment python = .ok ticket from computed] at fails
            cases fails
      · rw [not_or, not_exists, not_exists] at early
        obtain ⟨noFault, noError⟩ := early
        cases computed : attempt.delivery.payment python with
        | error error => exact absurd computed (noError error)
        | ok ticket =>
            have late : ∀ n, attempt.fault = some n → 2 < n := fun n fault => by
              by_contra small
              exact noFault n ⟨fault, by omega⟩
            obtain ⟨cache, outcome⟩ := @report_late service _ _ _ _ here unmarked _ computed late
            have marked := (congrFun cache (idemKey paymentId)).trans (Stores.entry_setCached ..)
            refine .cons_late rfl unmarked marked computed late outcome
              (reports_refused namedRest (fun other known n => ?_) marked)
            have alive := lasting other (List.mem_cons_of_mem _ known) n
            exact lt_of_lt_of_le alive
              (add_le_add_left (began attempt List.mem_cons_self 1) (idemTtl * second))

end Sequences

/-! ### A marked payment without a ticket -/

namespace Sample

/-- An attempt at a delivery, everything at time 0. -/
def attempt (delivery : Delivery) (fault : Option ℕ) : Attempt :=
  ⟨delivery, fault, fun _ => .plain 0 (.ofNat 8)⟩

/-- How the deliveries of a sequence end, by their statuses. -/
def outcomes (service : AuditService) (attempts : List Attempt) :
    List (Outcome WebhookError (Option String)) :=
  (reports service python attempts stores).map fun report => report.outcome.map status

end Sample

theorem deliveries_settle_sample :
    Settles Sample.python "mpesa:ws_CO_123" (reports Sample.appending Sample.python
      [Sample.attempt Sample.checkout (some 2), Sample.attempt Sample.checkout (some 4),
        Sample.attempt Sample.checkout none]
      Sample.stores) := by
  refine deliveries_settle Sample.appending Sample.python 0 _ Sample.stores ?_ ?_ ?_ rfl
  · simp [Sample.attempt, Sample.checkout, Delivery.paymentId]
  · simp [Sample.attempt, Input.plain]
  · simp [Sample.attempt, Input.plain, Attempt.Alive, idemTtl, second]

/-- **Marked, never issued.**  A delivery that is cut off between its mark and its
commit leaves the key marked, and the retry returns `already_processed`: some
delivery has returned, and none has issued the ticket.  With the code's own
`log_action` no exception from outside is needed. -/
theorem marked_never_issued :
    ((Sample.attempt Sample.checkout (some 4)).report Sample.appending Sample.python
        Sample.stores).Marked "mpesa:ws_CO_123" ∧
    Sample.outcomes Sample.appending
        [Sample.attempt Sample.checkout (some 4), Sample.attempt Sample.checkout none]
      = [.interrupted, .returned (some "already_processed")] ∧
    Sample.outcomes logAction
        [Sample.attempt Sample.checkout none, Sample.attempt Sample.checkout none]
      = [.raised (.audit .immutable), .returned (some "already_processed")] := by
  refine ⟨⟨rfl, ?_⟩, ?_⟩
  · decide +kernel
  · decide +kernel

end Ticketing.Webhooks
