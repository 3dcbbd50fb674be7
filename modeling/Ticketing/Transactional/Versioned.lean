import Ticketing.Transactional.Table

/-!
# Rows under READ COMMITTED

A table as several clients share it: every row has its committed version and,
while a transaction holds the row's lock, the owner and the version it has
written but not committed.  Plain reads take no lock and see the committed
version (or the reader's own write); `SELECT FOR UPDATE`, `UPDATE` and `INSERT`
need the row's lock and keep it until the transaction ends.

## Main Definitions

* `Row` — committed version, lock and uncommitted version of one row
* `VersionedTable` — a table of such rows
* `VersionedTable.own` — the rows one client has locked, as it sees them
* `VersionedTable.view` — the table as one client reads it
* `put`, `lockWhere` — the locking statements
* `commit`, `rollback` — the end of a client's transaction
* `VersionedTable.Keeps` — a part of the rows that no version changes

## Design Notes

An uncommitted version can only be stored inside a lock, so a dirty row without
an owner cannot be built.  `own` is the private resource of a client: every
statement of another client leaves it alone (the `_of_ne` lemmas), and what a
commit does to the committed table depends on nothing else.
-/

namespace Transactional

universe u v w

variable {K : Type u} {ι : Type v} {V : Type w}

/-- A locked row as the owner of the lock sees it. -/
structure LockedRow (V : Type w) where
  /-- The version of the last commit; `none` while a row is being inserted. -/
  committed : Option V
  /-- What the owner has written; `none` while it has only taken the lock. -/
  written : Option V

/-- The version the owner of the lock reads. -/
def LockedRow.current (row : LockedRow V) : Option V := row.written.or row.committed

@[simp] theorem LockedRow.current_unwritten (committed : Option V) :
    (LockedRow.mk committed none).current = committed := rfl

@[simp] theorem LockedRow.current_written (committed : Option V) (version : V) :
    (LockedRow.mk committed (some version)).current = some version := rfl

/-- One row: the committed version and, while it is locked, the owner of the
lock with its uncommitted version. -/
structure Row (ι : Type v) (V : Type w) where
  committed : Option V
  lock : Option (ι × Option V)

namespace Row

variable [DecidableEq ι]

/-- The row as `agent` sees it if `agent` owns its lock. -/
def lockedBy (agent : ι) (row : Row ι V) : Option (LockedRow V) :=
  row.lock.bind fun entry =>
    if entry.1 = agent then some ⟨row.committed, entry.2⟩ else none

/-- Another client owns the lock. -/
def blocks (agent : ι) (row : Row ι V) : Bool :=
  match row.lock with
  | some (owner, _) => decide (owner ≠ agent)
  | none => false

/-- The version `agent` reads. -/
def view (agent : ι) (row : Row ι V) : Option V :=
  match row.lockedBy agent with
  | some locked => locked.current
  | none => row.committed

/-- The row after `agent` commits. -/
def commit (agent : ι) (row : Row ι V) : Row ι V :=
  match row.lockedBy agent with
  | some locked => ⟨locked.current, none⟩
  | none => row

/-- The row after `agent` rolls back. -/
def rollback (agent : ι) (row : Row ι V) : Row ι V :=
  match row.lockedBy agent with
  | some _ => ⟨row.committed, none⟩
  | none => row

@[simp] theorem lockedBy_unlocked (agent : ι) (committed : Option V) :
    (Row.mk committed none).lockedBy agent = none := rfl

@[simp] theorem lockedBy_self (agent : ι) (committed written : Option V) :
    (Row.mk committed (some (agent, written))).lockedBy agent = some ⟨committed, written⟩ := by
  simp [lockedBy]

theorem lockedBy_of_ne {agent owner : ι} (committed written : Option V)
    (different : owner ≠ agent) :
    (Row.mk committed (some (owner, written))).lockedBy agent = none := by
  simp [lockedBy, different]

theorem lockedBy_of_not_blocks {agent other : ι} {row : Row ι V} (free : row.blocks agent = false)
    (different : other ≠ agent) : row.lockedBy other = none := by
  obtain ⟨committed, lock⟩ := row
  cases lock with
  | none => rfl
  | some entry =>
      have owner : entry.1 = agent := by simpa [blocks] using free
      exact lockedBy_of_ne committed entry.2 (owner ▸ different.symm)

theorem committed_of_lockedBy {agent : ι} {row : Row ι V} {locked : LockedRow V}
    (owned : row.lockedBy agent = some locked) : row.committed = locked.committed := by
  obtain ⟨committed, lock⟩ := row
  cases lock with
  | none => cases owned
  | some entry =>
      by_cases owner : entry.1 = agent
      · simp only [lockedBy, Option.bind_some, owner, if_true, Option.some.injEq] at owned
        rw [← owned]
      · simp [lockedBy, owner] at owned

theorem commit_lockedBy_self (agent : ι) (row : Row ι V) :
    (row.commit agent).lockedBy agent = none := by
  unfold commit
  cases owned : row.lockedBy agent with
  | none => exact owned
  | some locked => rfl

theorem rollback_lockedBy_self (agent : ι) (row : Row ι V) :
    (row.rollback agent).lockedBy agent = none := by
  unfold rollback
  cases owned : row.lockedBy agent with
  | none => exact owned
  | some locked => rfl

theorem lockedBy_unique {agent other : ι} {row : Row ι V} {locked : LockedRow V}
    (owned : row.lockedBy agent = some locked) (different : other ≠ agent) :
    row.lockedBy other = none := by
  obtain ⟨committed, lock⟩ := row
  cases lock with
  | none => rfl
  | some entry =>
      by_cases owner : entry.1 = agent
      · exact lockedBy_of_ne committed entry.2 (owner ▸ different.symm)
      · simp [lockedBy, owner] at owned

theorem commit_lockedBy_of_ne {agent other : ι} (row : Row ι V) (different : other ≠ agent) :
    (row.commit agent).lockedBy other = row.lockedBy other := by
  unfold commit
  cases owned : row.lockedBy agent with
  | none => rfl
  | some locked => exact (lockedBy_unique owned different).symm

theorem rollback_lockedBy_of_ne {agent other : ι} (row : Row ι V) (different : other ≠ agent) :
    (row.rollback agent).lockedBy other = row.lockedBy other := by
  unfold rollback
  cases owned : row.lockedBy agent with
  | none => rfl
  | some locked => exact (lockedBy_unique owned different).symm

theorem rollback_committed (agent : ι) (row : Row ι V) :
    (row.rollback agent).committed = row.committed := by
  unfold rollback
  cases row.lockedBy agent <;> rfl

end Row

/-- A table as several clients share it. -/
abbrev VersionedTable (K : Type u) (ι : Type v) (V : Type w) := Table K (Row ι V)

namespace VersionedTable

/-- A table nobody is working on. -/
def ofTable (table : Table K V) : VersionedTable K ι V := table.map fun row => ⟨some row, none⟩

/-- The committed rows. -/
def committed (table : VersionedTable K ι V) : Table K V := table.filterMap Row.committed

theorem get_committed (table : VersionedTable K ι V) (key : K) :
    table.committed.get key = (table.get key).bind Row.committed := rfl

@[simp] theorem committed_ofTable (table : Table K V) :
    (ofTable table : VersionedTable K ι V).committed = table := by
  ext1 key
  rw [get_committed, ofTable, Table.get_map]
  cases table.get key <;> rfl

section Ownership

variable [DecidableEq ι]

/-- The rows `agent` has locked, as it sees them. -/
def own (agent : ι) (table : VersionedTable K ι V) : K → Option (LockedRow V) :=
  fun key => (table.get key).bind (Row.lockedBy agent)

/-- What `agent` reads under `key`. -/
def read (agent : ι) (table : VersionedTable K ι V) (key : K) : Option V :=
  (table.get key).bind (Row.view agent)

@[simp] theorem own_ofTable (agent : ι) (table : Table K V) :
    own agent (ofTable table : VersionedTable K ι V) = fun _ => none := by
  funext key
  rw [own, ofTable, Table.get_map]
  cases table.get key <;> rfl

/-- What an owner sees as committed is what the table has committed. -/
theorem get_committed_of_own {agent : ι} {table : VersionedTable K ι V} {key : K}
    {locked : LockedRow V} (owned : own agent table key = some locked) :
    table.committed.get key = locked.committed := by
  rw [get_committed]
  unfold own at owned
  cases present : table.get key with
  | none => simp [present] at owned
  | some row =>
      rw [present] at owned
      exact Row.committed_of_lockedBy owned

/-- A client reads its own version of a row it has locked. -/
theorem read_of_own {agent : ι} {table : VersionedTable K ι V} {key : K}
    {locked : LockedRow V} (owned : own agent table key = some locked) :
    read agent table key = locked.current := by
  unfold own at owned
  cases present : table.get key with
  | none => simp [present] at owned
  | some row =>
      rw [present] at owned
      have lockedEq : row.lockedBy agent = some locked := owned
      simp [read, present, Row.view, lockedEq]

/-- A client reads the committed version of a row it has not locked. -/
theorem read_of_not_own {agent : ι} {table : VersionedTable K ι V} {key : K}
    (notOwned : own agent table key = none) : read agent table key = table.committed.get key := by
  unfold own at notOwned
  rw [get_committed]
  cases present : table.get key with
  | none => simp [read, present]
  | some row =>
      rw [present] at notOwned
      have lockedEq : row.lockedBy agent = none := notOwned
      simp [read, present, Row.view, lockedEq]

/-- The table as `agent` reads it. -/
def view (agent : ι) (table : VersionedTable K ι V) : Table K V :=
  table.filterMap (Row.view agent)

@[simp] theorem get_view (agent : ι) (table : VersionedTable K ι V) (key : K) :
    (view agent table).get key = read agent table key := rfl

/-- A client that has written nothing reads the committed rows. -/
theorem view_of_unwritten {agent : ι} {table : VersionedTable K ι V}
    (unwritten : ∀ key locked, own agent table key = some locked → locked.written = none) :
    view agent table = table.committed := by
  ext1 key
  rw [get_view]
  cases owned : own agent table key with
  | none => exact read_of_not_own owned
  | some locked =>
      rw [read_of_own owned, get_committed_of_own owned]
      simp [LockedRow.current, unwritten key locked owned]

/-! ## Ending a transaction -/

/-- `agent` commits: its versions become the committed ones, its locks go. -/
def commit (agent : ι) (table : VersionedTable K ι V) : VersionedTable K ι V :=
  table.map (Row.commit agent)

/-- `agent` rolls back: its versions and its locks go. -/
def rollback (agent : ι) (table : VersionedTable K ι V) : VersionedTable K ι V :=
  table.map (Row.rollback agent)

@[simp] theorem own_commit_self (agent : ι) (table : VersionedTable K ι V) :
    own agent (commit agent table) = fun _ => none := by
  funext key
  rw [own, commit, Table.get_map]
  cases table.get key with
  | none => rfl
  | some row => exact Row.commit_lockedBy_self agent row

@[simp] theorem own_rollback_self (agent : ι) (table : VersionedTable K ι V) :
    own agent (rollback agent table) = fun _ => none := by
  funext key
  rw [own, rollback, Table.get_map]
  cases table.get key with
  | none => rfl
  | some row => exact Row.rollback_lockedBy_self agent row

theorem own_commit_of_ne {agent other : ι} (table : VersionedTable K ι V)
    (different : other ≠ agent) : own other (commit agent table) = own other table := by
  funext key
  rw [own, own, commit, Table.get_map]
  cases table.get key with
  | none => rfl
  | some row => exact Row.commit_lockedBy_of_ne row different

theorem own_rollback_of_ne {agent other : ι} (table : VersionedTable K ι V)
    (different : other ≠ agent) : own other (rollback agent table) = own other table := by
  funext key
  rw [own, own, rollback, Table.get_map]
  cases table.get key with
  | none => rfl
  | some row => exact Row.rollback_lockedBy_of_ne row different

section NotOwned

variable {agent : ι} {table : VersionedTable K ι V} (notOwned : own agent table = fun _ => none)
include notOwned

theorem lockedBy_of_not_own {key : K} {row : Row ι V} (present : table.get key = some row) :
    row.lockedBy agent = none := by
  have unlocked := congrFun notOwned key
  unfold own at unlocked
  rwa [present, Option.bind_some] at unlocked

/-- A client without locks has nothing to commit. -/
theorem commit_of_not_own : commit agent table = table := by
  ext1 key
  rw [commit, Table.get_map]
  cases present : table.get key with
  | none => rfl
  | some row =>
      simp only [Option.map_some, Row.commit, lockedBy_of_not_own notOwned present]

/-- A client without locks has nothing to roll back. -/
theorem rollback_of_not_own : rollback agent table = table := by
  ext1 key
  rw [rollback, Table.get_map]
  cases present : table.get key with
  | none => rfl
  | some row =>
      simp only [Option.map_some, Row.rollback, lockedBy_of_not_own notOwned present]

end NotOwned

/-- A rollback leaves the committed rows alone. -/
@[simp] theorem committed_rollback (agent : ι) (table : VersionedTable K ι V) :
    (rollback agent table).committed = table.committed := by
  ext1 key
  rw [get_committed, get_committed, rollback, Table.get_map]
  cases table.get key with
  | none => rfl
  | some row => exact Row.rollback_committed agent row

/-- A commit publishes exactly what the client has written. -/
theorem get_committed_commit (agent : ι) (table : VersionedTable K ι V) (key : K) :
    (commit agent table).committed.get key =
      match own agent table key with
      | some locked => locked.current
      | none => table.committed.get key := by
  rw [get_committed, get_committed, commit, Table.get_map, own]
  cases table.get key with
  | none => rfl
  | some row =>
      simp only [Option.map_some, Option.bind_some, Row.commit]
      cases row.lockedBy agent <;> rfl

/-- **What a client commits is what it has read.** -/
theorem committed_commit (agent : ι) (table : VersionedTable K ι V) :
    (commit agent table).committed = view agent table := by
  ext1 key
  rw [get_committed_commit, get_view]
  cases owned : own agent table key with
  | none => exact (read_of_not_own owned).symm
  | some locked => exact (read_of_own owned).symm

/-- A commit without writes leaves the committed rows alone. -/
theorem committed_commit_of_unwritten {agent : ι} {table : VersionedTable K ι V}
    (unwritten : ∀ key locked, own agent table key = some locked → locked.written = none) :
    (commit agent table).committed = table.committed := by
  ext1 key
  rw [get_committed_commit]
  cases owned : own agent table key with
  | none => rfl
  | some locked =>
      rw [get_committed_of_own owned]
      simp [LockedRow.current, unwritten key locked owned]

section Single

variable [DecidableEq K]

/-- Exactly one locked row. -/
def single (key : K) (locked : LockedRow V) : K → Option (LockedRow V) :=
  Function.update (fun _ => none) key (some locked)

@[simp] theorem single_self (key : K) (locked : LockedRow V) :
    single key locked key = some locked := by
  simp [single]

theorem single_of_ne {key other : K} (locked : LockedRow V) (different : other ≠ key) :
    single key locked other = none := by
  simp [single, different]

theorem eq_of_single {key other : K} {locked found : LockedRow V}
    (owned : single key locked other = some found) : other = key ∧ found = locked := by
  by_cases same : other = key
  · subst same
    exact ⟨rfl, by simpa using owned.symm⟩
  · simp [single_of_ne locked same] at owned

@[simp] theorem update_none (key : K) (locked : LockedRow V) :
    Function.update (fun _ => none) key (some locked) = single key locked := rfl

@[simp] theorem update_single (key : K) (first second : LockedRow V) :
    Function.update (single key first) key (some second) = single key second :=
  Function.update_idem ..

/-- Committing one written row stores it. -/
theorem committed_commit_of_single {agent : ι} {table : VersionedTable K ι V} {key : K}
    {before : Option V} {version : V}
    (owned : own agent table = single key ⟨before, some version⟩) :
    (commit agent table).committed = table.committed.set key version := by
  ext1 other
  rw [get_committed_commit, owned, Table.get_set]
  by_cases same : other = key
  · subst same
    simp
  · rw [single_of_ne _ same, if_neg same]

end Single

/-! ## Statements that lock -/

section Locking

variable [DecidableEq K]

/-- Take the lock of `key` for `agent`, or keep it, with `written` as the
uncommitted version; `none` when another client owns it. -/
def put (table : VersionedTable K ι V) (agent : ι) (key : K) (written : Option V) :
    Option (VersionedTable K ι V) :=
  match table.get key with
  | none => some (table.set key ⟨none, some (agent, written)⟩)
  | some row =>
      if row.blocks agent then none
      else some (table.set key ⟨row.committed, some (agent, written)⟩)

/-- Every successful `put` stores the committed version it found. -/
theorem put_eq_some {table table' : VersionedTable K ι V} {agent : ι} {key : K}
    {written : Option V} (granted : table.put agent key written = some table') :
    table' = table.set key ⟨table.committed.get key, some (agent, written)⟩ ∧
      ∀ other, other ≠ agent → own other table key = none := by
  rw [get_committed]
  unfold put at granted
  cases present : table.get key with
  | none =>
      rw [present] at granted
      refine ⟨(Option.some.inj granted).symm, fun other _ => ?_⟩
      simp [own, present]
  | some row =>
      rw [present] at granted
      cases free : row.blocks agent with
      | true => simp [free] at granted
      | false =>
          simp only [free, Bool.false_eq_true, if_false, Option.some.injEq] at granted
          refine ⟨granted.symm, fun other different => ?_⟩
          simpa [own, present] using Row.lockedBy_of_not_blocks free different

/-- A row that nobody else owns can be locked. -/
theorem put_ne_none {table : VersionedTable K ι V} {agent : ι} {key : K}
    (free : ∀ other, other ≠ agent → own other table key = none) (written : Option V) :
    table.put agent key written ≠ none := by
  unfold put
  cases present : table.get key with
  | none => exact Option.some_ne_none _
  | some row =>
      obtain ⟨committed, lock⟩ := row
      cases lock with
      | none => exact Option.some_ne_none _
      | some entry =>
          obtain ⟨owner, version⟩ := entry
          by_cases mine : owner = agent
          · simp [Row.blocks, mine]
          · have owned := free owner mine
            simp [own, present] at owned

theorem committed_put {table table' : VersionedTable K ι V} {agent : ι} {key : K}
    {written : Option V} (granted : table.put agent key written = some table') :
    table'.committed = table.committed := by
  obtain ⟨rfl, -⟩ := put_eq_some granted
  ext1 other
  rw [get_committed, Table.get_set]
  split
  · subst other
    rfl
  · rfl

theorem own_put_self {table table' : VersionedTable K ι V} {agent : ι} {key : K}
    {written : Option V} (granted : table.put agent key written = some table') :
    own agent table' =
      Function.update (own agent table) key (some ⟨table.committed.get key, written⟩) := by
  obtain ⟨rfl, -⟩ := put_eq_some granted
  funext other
  rw [own, Table.get_set]
  by_cases same : other = key
  · subst same
    simp
  · rw [if_neg same, Function.update_of_ne same]
    rfl

theorem own_put_of_ne {table table' : VersionedTable K ι V} {agent other : ι} {key : K}
    {written : Option V} (granted : table.put agent key written = some table')
    (different : other ≠ agent) : own other table' = own other table := by
  obtain ⟨rfl, notOwned⟩ := put_eq_some granted
  funext found
  rw [own, Table.get_set]
  by_cases same : found = key
  · subst same
    rw [if_pos rfl, notOwned other different]
    exact Row.lockedBy_of_ne _ _ different.symm
  · rw [if_neg same]
    rfl

/-- `SELECT ... WHERE pk = key AND keep FOR UPDATE`: the row the client sees, if
it satisfies the filter, with its lock.  A client that has to wait looks again
at the version it finds afterwards, so waiting is the absence of a step. -/
def lockWhere (table : VersionedTable K ι V) (agent : ι) (key : K) (keep : V → Bool) :
    Option (Option V × VersionedTable K ι V) :=
  match (table.read agent key).filter keep with
  | none => some (none, table)
  | some row =>
      (table.put agent key ((own agent table key).bind LockedRow.written)).map fun table' =>
        (some row, table')

/-- The lock a client gets on `key` shows it `locked`: the row it had locked
already, or the committed version of a row it had not. -/
def Shows (table : VersionedTable K ι V) (agent : ι) (key : K) (locked : LockedRow V) : Prop :=
  locked.committed = table.committed.get key ∧
    (own agent table key = some locked ∨ own agent table key = none ∧ locked.written = none)

omit [DecidableEq K] in
theorem Shows.read_eq {table : VersionedTable K ι V} {agent : ι} {key : K} {locked : LockedRow V}
    (shows : table.Shows agent key locked) : table.read agent key = locked.current := by
  rcases shows.2 with held | ⟨notOwned, unwritten⟩
  · exact read_of_own held
  · rw [read_of_not_own notOwned, ← shows.1, LockedRow.current, unwritten]
    rfl

omit [DecidableEq K] in
/-- What a client reads is what the lock on the row shows it. -/
theorem exists_shows (table : VersionedTable K ι V) (agent : ι) (key : K) :
    ∃ locked, table.Shows agent key locked ∧ table.read agent key = locked.current ∧
      locked.written = (own agent table key).bind LockedRow.written := by
  cases owned : own agent table key with
  | some locked =>
      refine ⟨locked, ⟨(get_committed_of_own owned).symm, .inl owned⟩, read_of_own owned, rfl⟩
  | none =>
      refine ⟨⟨table.committed.get key, none⟩, ⟨rfl, .inr ⟨owned, rfl⟩⟩, ?_, rfl⟩
      rw [read_of_not_own owned]
      rfl

theorem lockWhere_ne_none {table : VersionedTable K ι V} {agent : ι} {key : K}
    (free : ∀ other, other ≠ agent → own other table key = none) (keep : V → Bool) :
    table.lockWhere agent key keep ≠ none := by
  unfold lockWhere
  split
  · exact Option.some_ne_none _
  · simpa only [ne_eq, Option.map_eq_none_iff] using put_ne_none free _

theorem lockWhere_eq_some {table table' : VersionedTable K ι V} {agent : ι} {key : K}
    {keep : V → Bool} {answer : Option V}
    (result : table.lockWhere agent key keep = some (answer, table')) :
    (answer = none ∧ table' = table) ∨
      ∃ row locked, answer = some row ∧ keep row = true ∧ locked.current = some row ∧
        table.Shows agent key locked ∧ table.put agent key locked.written = some table' := by
  obtain ⟨locked, shows, readEq, writtenEq⟩ := exists_shows table agent key
  unfold lockWhere at result
  cases found : (table.read agent key).filter keep with
  | none =>
      rw [found] at result
      simp only [Option.some.injEq, Prod.mk.injEq] at result
      exact .inl ⟨result.1.symm, result.2.symm⟩
  | some row =>
      rw [found] at result
      obtain ⟨visible, kept⟩ := Option.filter_eq_some_iff.mp found
      simp only [Option.map_eq_some_iff, Prod.mk.injEq] at result
      obtain ⟨next, granted, rfl, rfl⟩ := result
      exact .inr ⟨row, locked, rfl, kept, readEq ▸ visible, shows, writtenEq ▸ granted⟩

/-- Writing a row changes nothing else a client reads. -/
theorem view_put_written {table table' : VersionedTable K ι V} {agent : ι} {key : K} {version : V}
    (granted : table.put agent key (some version) = some table') :
    view agent table' = (view agent table).set key version := by
  ext1 other
  rw [get_view, Table.get_set, get_view]
  have owned := congrFun (own_put_self granted) other
  by_cases same : other = key
  · subst same
    rw [Function.update_self] at owned
    rw [if_pos rfl, read_of_own owned]
    rfl
  · rw [Function.update_of_ne same] at owned
    rw [if_neg same]
    cases found : own agent table other with
    | some locked => rw [read_of_own found, read_of_own (owned.trans found)]
    | none =>
        rw [read_of_not_own found, read_of_not_own (owned.trans found), committed_put granted]

/-- Taking a lock changes nothing a client reads. -/
theorem view_put_unwritten {table table' : VersionedTable K ι V} {agent : ι} {key : K}
    {locked : LockedRow V} (shows : table.Shows agent key locked)
    (granted : table.put agent key locked.written = some table') :
    view agent table' = view agent table := by
  ext1 other
  rw [get_view, get_view]
  have owned := congrFun (own_put_self granted) other
  rw [← shows.1] at owned
  by_cases same : other = key
  · subst same
    rw [Function.update_self] at owned
    rw [read_of_own owned, shows.read_eq]
  · rw [Function.update_of_ne same] at owned
    cases found : own agent table other with
    | some locked' => rw [read_of_own found, read_of_own (owned.trans found)]
    | none =>
        rw [read_of_not_own found, read_of_not_own (owned.trans found), committed_put granted]

/-- What `SELECT FOR UPDATE` answers is what a plain query would answer, and
it changes nothing its client reads. -/
theorem view_lockWhere {table table' : VersionedTable K ι V} {agent : ι} {key : K}
    {keep : V → Bool} {answer : Option V}
    (result : table.lockWhere agent key keep = some (answer, table')) :
    answer = (table.read agent key).filter keep ∧ view agent table' = view agent table := by
  rcases lockWhere_eq_some result with
    ⟨rfl, rfl⟩ | ⟨row, locked, rfl, kept, visible, shows, granted⟩
  · refine ⟨?_, rfl⟩
    unfold lockWhere at result
    cases found : (read agent table' key).filter keep with
    | none => rfl
    | some row => simp [found] at result
  · refine ⟨?_, view_put_unwritten shows granted⟩
    rw [shows.read_eq, visible]
    exact (Option.filter_some_pos kept).symm

end Locking

/-! ## What no transaction changes -/

section Keeps

variable {W : Type} {f : V → W} {shape : K → Option W} {table table' : VersionedTable K ι V}

/-- Every version of every row is, as far as `f` sees it, what `shape` gives for its key. -/
structure Keeps (f : V → W) (shape : K → Option W) (table : VersionedTable K ι V) : Prop where
  committed : ∀ key, (table.committed.get key).map f = shape key
  written : ∀ agent key locked version, own agent table key = some locked →
    locked.written = some version → some (f version) = shape key

theorem keeps_ofTable (f : V → W) (table : Table K V) :
    Keeps f (fun key => (table.get key).map f) (ofTable table : VersionedTable K ι V) where
  committed key := by rw [committed_ofTable]
  written agent key locked version owned := by
    rw [own_ofTable] at owned
    cases owned

/-- Whoever reads sees the shape. -/
theorem Keeps.read (keeps : Keeps f shape table) (agent : ι) (key : K) :
    (table.read agent key).map f = shape key := by
  cases owned : own agent table key with
  | none =>
      rw [read_of_not_own owned]
      exact keeps.committed key
  | some locked =>
      rw [read_of_own owned, LockedRow.current]
      cases unwritten : locked.written with
      | some version => exact keeps.written agent key locked version owned unwritten
      | none =>
          rw [Option.none_or, ← get_committed_of_own owned]
          exact keeps.committed key

/-- A write that keeps the shape. -/
theorem Keeps.put [DecidableEq K] (keeps : Keeps f shape table) {agent : ι} {key : K}
    {written : Option V} (fits : ∀ version, written = some version → some (f version) = shape key)
    (granted : table.put agent key written = some table') : Keeps f shape table' where
  committed other := by
    rw [committed_put granted]
    exact keeps.committed other
  written agent' other locked version owned isWritten := by
    by_cases sameAgent : agent' = agent
    · subst sameAgent
      rw [own_put_self granted] at owned
      by_cases sameKey : other = key
      · subst sameKey
        rw [Function.update_self] at owned
        cases owned
        exact fits version isWritten
      · rw [Function.update_of_ne sameKey] at owned
        exact keeps.written agent' other locked version owned isWritten
    · rw [own_put_of_ne granted sameAgent] at owned
      exact keeps.written agent' other locked version owned isWritten

theorem Keeps.commit (keeps : Keeps f shape table) (agent : ι) :
    Keeps f shape (commit agent table) where
  committed key := by
    rw [get_committed_commit]
    have seen := keeps.read agent key
    cases owned : own agent table key with
    | none => exact keeps.committed key
    | some locked => rwa [read_of_own owned] at seen
  written agent' key locked version owned isWritten := by
    by_cases same : agent' = agent
    · subst same
      rw [own_commit_self] at owned
      cases owned
    · rw [own_commit_of_ne table same] at owned
      exact keeps.written agent' key locked version owned isWritten

theorem Keeps.rollback (keeps : Keeps f shape table) (agent : ι) :
    Keeps f shape (rollback agent table) where
  committed key := by
    rw [committed_rollback]
    exact keeps.committed key
  written agent' key locked version owned isWritten := by
    by_cases same : agent' = agent
    · subst same
      rw [own_rollback_self] at owned
      cases owned
    · rw [own_rollback_of_ne table same] at owned
      exact keeps.written agent' key locked version owned isWritten

end Keeps

end Ownership

end VersionedTable

end Transactional
