import Ticketing.Checkout.Store
import Ticketing.Python

/-!
# The audit trail

`audit/models.py` and `audit/services.py`: model instances, the table, and runs
of calls on them.

## Main Definitions

* `AuditLog` — an instance, with or without a primary key
* `AuditLog.save`, `AuditLog.delete`, `logAction`
* `AuditOp`, `AuditOp.run` — calls of `log_action`, and `save` and `delete` on
  stored entries
* `AppendOnly` — the trail is exactly the sequence of `log_action` calls

## Main Results

* `logAction_raises` — every call of `log_action` raises
* `appendOnly_iff` — which runs are append-only

## Design Notes

Django evaluates the default of a primary key when an instance is constructed,
so an entry has its key before its first `save`.
-/

namespace Ticketing

/-- An instance of `AuditLog`. -/
structure AuditLog where
  pk : Option Uuid
  actor : Option Uuid
  action : String
  contentType : Option ℕ
  objectId : Option Uuid
  metadata : Value
  ipAddress : Option String

/-- A row of `audit_log`. -/
structure AuditRow where
  id : Uuid
  actor : Option Uuid
  action : String
  contentType : Option ℕ
  objectId : Option Uuid
  metadata : Value
  ipAddress : Option String
  createdAt : Time

/-- The table, oldest row first. -/
abbrev AuditTrail := List AuditRow

/-- The exceptions of the audit trail. -/
inductive AuditError
  /-- `ValueError('AuditLog entries are immutable and cannot be updated.')`. -/
  | immutable
  /-- `ValueError('AuditLog entries cannot be deleted.')`. -/
  | undeletable
  /-- `IntegrityError`: the key is taken. -/
  | integrity
  /-- `AuditLog.DoesNotExist`. -/
  | doesNotExist
  deriving DecidableEq

/-- The texts of the two `ValueError`s. -/
def AuditError.message : AuditError → Option String
  | .immutable => some "AuditLog entries are immutable and cannot be updated."
  | .undeletable => some "AuditLog entries cannot be deleted."
  | _ => none

/-- The instance that loading a row gives. -/
def AuditRow.load (row : AuditRow) : AuditLog :=
  { row with pk := some row.id }

namespace AuditLog

/-- `models.Model.save` of an instance without a key: a new key, and an INSERT. -/
def insert (self : AuditLog) (input : Input) (trail : AuditTrail) :
    Except AuditError (AuditLog × AuditTrail) :=
  if trail.any (·.id = input.uuid) then .error .integrity
  else .ok ({ self with pk := some input.uuid },
    trail ++ [{ self with id := input.uuid, createdAt := input.now }])

/-- `AuditLog.save`: the guard takes every instance with a key for a stored one. -/
def save (self : AuditLog) (input : Input) (trail : AuditTrail) :
    Except AuditError (AuditLog × AuditTrail) :=
  if self.pk.isSome then .error .immutable else self.insert input trail

/-- `AuditLog.delete`. -/
def delete (_ : AuditLog) (_ : AuditTrail) : Except AuditError AuditTrail :=
  .error .undeletable

end AuditLog

/-- The arguments of `log_action`.  An entity is given by the id of its content
type and its primary key. -/
structure LogAction where
  action : String
  actor : Option Uuid := none
  entity : Option (ℕ × Uuid) := none
  metadata : Option Value := none
  ipAddress : Option String := none

/-- `metadata or {}`. -/
def LogAction.metadataOrEmpty (call : LogAction) : Value :=
  match call.metadata with
  | some metadata => if metadata.truthy then metadata else .dict []
  | none => .dict []

/-- The instance `log_action` constructs; `uuid` is the default of its key. -/
def LogAction.entry (call : LogAction) (uuid : Uuid) : AuditLog where
  pk := some uuid
  actor := call.actor
  action := call.action
  contentType := call.entity.map Prod.fst
  objectId := call.entity.map Prod.snd
  metadata := call.metadataOrEmpty
  ipAddress := call.ipAddress

/-- `log_action`. -/
def logAction (call : LogAction) (input : Input) (trail : AuditTrail) :
    Except AuditError (AuditLog × AuditTrail) :=
  (call.entry input.uuid).save input trail

/-- **`log_action` always raises**: the entry it constructs has a key already. -/
theorem logAction_raises (call : LogAction) (input : Input) (trail : AuditTrail) :
    logAction call input trail = .error .immutable := rfl

/-! ## Runs -/

/-- A call on the audit trail. -/
inductive AuditOp
  | logAction (call : LogAction)
  /-- Load the row at `position`, change its fields, and call `save`. -/
  | save (position : ℕ) (change : AuditLog → AuditLog)
  /-- Load the row at `position` and call `delete`. -/
  | delete (position : ℕ)

namespace AuditOp

/-- What a call returns or raises, and the table after it.  A changed instance
keeps the key it was loaded with. -/
def run (input : Input) (trail : AuditTrail) : AuditOp → Except AuditError Unit × AuditTrail
  | logAction call =>
      match Ticketing.logAction call input trail with
      | .ok (_, trail') => (.ok (), trail')
      | .error error => (.error error, trail)
  | save position change =>
      match trail[position]? with
      | none => (.error .doesNotExist, trail)
      | some row =>
          match ({ change row.load with pk := row.load.pk } : AuditLog).save input trail with
          | .ok (_, trail') => (.ok (), trail')
          | .error error => (.error error, trail)
  | delete position =>
      match trail[position]? with
      | none => (.error .doesNotExist, trail)
      | some row =>
          match row.load.delete trail with
          | .ok trail' => (.ok (), trail')
          | .error error => (.error error, trail)

/-- The table after a sequence of calls. -/
def runAll : List (AuditOp × Input) → AuditTrail → AuditTrail
  | [], trail => trail
  | (op, input) :: rest, trail => runAll rest (op.run input trail).2

/-- A row records a call of `log_action`. -/
def Records (row : AuditRow) (call : LogAction) : Prop :=
  row.action = call.action ∧ row.actor = call.actor ∧
    row.contentType = call.entity.map Prod.fst ∧ row.objectId = call.entity.map Prod.snd ∧
    row.metadata = call.metadataOrEmpty ∧ row.ipAddress = call.ipAddress

/-- What the audit trail promises of one call: `log_action` returns and appends
one row with its fields; `save` and `delete` of a stored entry raise `ValueError`
and change nothing. -/
def Keeps (input : Input) (trail : AuditTrail) : AuditOp → Prop
  | op@(logAction call) => ∃ row, Records row call ∧ op.run input trail = (.ok (), trail ++ [row])
  -- a position that is not there has no entry to protect
  | op@(save position _) => position < trail.length →
      op.run input trail = (.error .immutable, trail)
  | op@(delete position) => position < trail.length →
      op.run input trail = (.error .undeletable, trail)

/-- The call of `log_action` that an operation is. -/
def call? : AuditOp → Option LogAction
  | logAction call => some call
  | _ => none

end AuditOp

/-- The audit trail is append-only and complete over a run: every call keeps its
promise in the table it finds, and the table is at last the old one followed by
one row for each call of `log_action`, in their order. -/
structure AppendOnly (ops : List (AuditOp × Input)) (trail : AuditTrail) : Prop where
  keeps : ∀ before op input after, ops = before ++ (op, input) :: after →
    op.Keeps input (AuditOp.runAll before trail)
  complete : ∃ rows, AuditOp.runAll ops trail = trail ++ rows ∧
    List.Forall₂ AuditOp.Records rows (ops.filterMap fun op => op.1.call?)

namespace AuditOp

/-- A stored entry always raises `ValueError` from `save`. -/
theorem save_stored (row : AuditRow) (change : AuditLog → AuditLog) (input : Input)
    (trail : AuditTrail) :
    ({ change row.load with pk := row.load.pk } : AuditLog).save input trail
      = .error .immutable := rfl

/-- A call that is not `log_action` never changes the table. -/
theorem run_of_no_call {op : AuditOp} (quiet : op.call? = none) (input : Input)
    (trail : AuditTrail) : (op.run input trail).2 = trail := by
  cases op with
  | logAction call => cases quiet
  | save position change =>
      simp only [run]
      split
      · rfl
      · rw [save_stored]
  | delete position =>
      simp only [run]
      split <;> rfl

/-- `save` and `delete` keep their promise. -/
theorem keeps_of_no_call {op : AuditOp} (quiet : op.call? = none) (input : Input)
    (trail : AuditTrail) : op.Keeps input trail := by
  cases op with
  | logAction call => cases quiet
  | save position change =>
      intro stored
      simp only [run, List.getElem?_eq_getElem stored, save_stored]
  | delete position =>
      intro stored
      simp only [run, List.getElem?_eq_getElem stored, AuditLog.delete]

/-- `log_action` never keeps its promise. -/
theorem not_keeps_logAction (call : LogAction) (input : Input) (trail : AuditTrail) :
    ¬ (AuditOp.logAction call).Keeps input trail := by
  rintro ⟨row, -, result⟩
  simp only [run, logAction_raises, Prod.mk.injEq] at result
  cases result.1

theorem runAll_of_no_call {ops : List (AuditOp × Input)}
    (quiet : ∀ op ∈ ops, op.1.call? = none) (trail : AuditTrail) : runAll ops trail = trail := by
  induction ops with
  | nil => rfl
  | cons head rest ih =>
      obtain ⟨op, input⟩ := head
      rw [runAll, run_of_no_call (quiet _ List.mem_cons_self)]
      exact ih fun other later => quiet other (List.mem_cons_of_mem _ later)

end AuditOp

/-- **When the audit trail is append-only and complete.**  For every table and
every sequence of calls: exactly when `log_action` is not among them. -/
theorem appendOnly_iff (ops : List (AuditOp × Input)) (trail : AuditTrail) :
    AppendOnly ops trail ↔ ∀ op ∈ ops, op.1.call? = none := by
  constructor
  · rintro ⟨keeps, -⟩ ⟨op, input⟩ found
    obtain ⟨before, after, split⟩ := List.append_of_mem found
    have kept := keeps before op input after split
    cases op with
    | logAction call => exact absurd kept (AuditOp.not_keeps_logAction call input _)
    | save position change => rfl
    | delete position => rfl
  · intro quiet
    refine ⟨fun before op input after split => ?_, [], ?_, ?_⟩
    · refine AuditOp.keeps_of_no_call (quiet (op, input) ?_) input _
      rw [split]
      simp
    · simpa using AuditOp.runAll_of_no_call quiet trail
    · have none_called : ops.filterMap (fun op => op.1.call?) = [] :=
        List.filterMap_eq_nil_iff.mpr quiet
      rw [none_called]
      exact .nil

/-- **The first entry is refused.**  `log_action('ticket.issued')` on an empty table
raises the `ValueError` of an update, and the table stays empty. -/
theorem first_entry_refused :
    let op := AuditOp.logAction { action := "ticket.issued" }
    let input := Input.plain 0 (.ofNat 8)
    op.run input [] = (.error .immutable, []) ∧ ¬ AppendOnly [(op, input)] [] := by
  refine ⟨rfl, fun kept => ?_⟩
  have quiet := kept.keeps [] _ _ [] rfl
  exact AuditOp.not_keeps_logAction _ _ _ quiet

end Ticketing
