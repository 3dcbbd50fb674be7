import Mathlib

/-!
# Programs of statements

A piece of application code is seen through the statements it sends to its
stores.  A `Program` is the tree of these statements: a node is one statement
together with what the code does for each answer, so local computation needs no
node of its own and a point between two statements is again a program.

## Main Definitions

* `Signature` — the statements a program can send, and their answers
* `Program` — statement trees with transaction brackets and exceptions
* `Program.atomic` — a body run inside a transaction
* `Store` — what the stores do with a statement when one client is connected
* `Program.run` — a run of one program alone, with an optional interruption

## Design Notes

The same tree is read three ways: run alone (`Program.run` without a fault), cut
off by an exception in front of any of its statements (`Program.run` with one),
and interleaved with other programs (`Transactional.Interleaving`).  Nothing
about the code is stated twice.

Everything a statement takes from its surroundings besides the stores (the
clock, a fresh identifier, the order in which a query lists its rows) is the
statement's *input*; a run is given one input for each of its statements.
-/

namespace Transactional

/-! ## Computations that can fail -/

/-- A computation returns when each of its parts does. -/
theorem bind_eq_ok {ε α β : Type} {first : Except ε α} {next : α → Except ε β} {result : β} :
    (first >>= next) = .ok result ↔ ∃ value, first = .ok value ∧ next value = .ok result := by
  cases first with
  | error error => exact ⟨nofun, nofun⟩
  | ok value => exact ⟨fun returned => ⟨value, rfl, returned⟩, fun ⟨_, rfl, returned⟩ => returned⟩

/-- Renaming its exception makes no computation return. -/
theorem mapError_eq_ok {ε ε' α : Type} {change : ε → ε'} {result : Except ε α} {value : α} :
    result.mapError change = .ok value ↔ result = .ok value := by
  cases result with
  | error error => exact ⟨nofun, nofun⟩
  | ok other => exact ⟨fun same => by cases same; rfl, fun same => by cases same; rfl⟩

theorem map_eq_ok {ε α β : Type} {f : α → β} {result : Except ε α} {value : β} :
    result.map f = .ok value ↔ ∃ before, result = .ok before ∧ f before = value := by
  cases result with
  | error error => exact ⟨nofun, nofun⟩
  | ok other => simp [Except.map]

/-! ## Statements and programs -/

/-- The statements a program can send, and the type of the answer to each. -/
structure Signature where
  Stmt : Type
  Res : Stmt → Type

/-- A program over the statements of `S`, ending in a value or an exception. -/
inductive Program (S : Signature) (ε α : Type) : Type
  /-- The program has returned `value`. -/
  | done (value : α)
  /-- The program leaves with an exception; an open transaction is rolled back. -/
  | raise (error : ε)
  /-- Open a transaction. -/
  | begin (rest : Program S ε α)
  /-- Commit the open transaction. -/
  | commit (rest : Program S ε α)
  /-- Send one statement and go on with its answer. -/
  | call (stmt : S.Stmt) (next : S.Res stmt → Program S ε α)

/-- A statement that has been executed, with its answer. -/
structure Event (S : Signature) where
  stmt : S.Stmt
  answer : S.Res stmt

namespace Program

variable {S : Signature} {ε α β : Type}

/-- Sequential composition. -/
def bind : Program S ε α → (α → Program S ε β) → Program S ε β
  | done value, next => next value
  | raise error, _ => raise error
  | begin rest, next => begin (rest.bind next)
  | commit rest, next => commit (rest.bind next)
  | call stmt answer, next => call stmt fun result => (answer result).bind next

instance instMonadProgram : Monad (Program S ε) where
  pure := done
  bind := bind

@[simp] theorem pure_eq (value : α) : (pure value : Program S ε α) = done value := rfl

@[simp] theorem done_bind (value : α) (next : α → Program S ε β) :
    (done value >>= next) = next value := rfl

@[simp] theorem raise_bind (error : ε) (next : α → Program S ε β) :
    ((raise error : Program S ε α) >>= next) = raise error := rfl

@[simp] theorem begin_bind (rest : Program S ε α) (next : α → Program S ε β) :
    (begin rest >>= next) = begin (rest >>= next) := rfl

@[simp] theorem commit_bind (rest : Program S ε α) (next : α → Program S ε β) :
    (commit rest >>= next) = commit (rest >>= next) := rfl

@[simp] theorem call_bind (stmt : S.Stmt) (answer : S.Res stmt → Program S ε α)
    (next : α → Program S ε β) :
    (call stmt answer >>= next) = call stmt fun result => answer result >>= next := rfl

theorem bind_assoc {γ : Type} (program : Program S ε α) (first : α → Program S ε β)
    (second : β → Program S ε γ) :
    ((program >>= first) >>= second) = program >>= fun value => first value >>= second := by
  induction program with
  | done value => rfl
  | raise error => rfl
  | begin rest ih => exact congrArg begin ih
  | commit rest ih => exact congrArg commit ih
  | call stmt answer ih => exact congrArg (call stmt) (funext fun result => ih result)

/-- The same program without its value. -/
def discard (program : Program S ε α) : Program S ε Unit := program >>= fun _ => done ()

/-- Send one statement and return its answer. -/
def send (stmt : S.Stmt) : Program S ε (S.Res stmt) := call stmt done

/-- Run `body` inside a transaction: commit when it returns, roll back when it
raises. -/
def atomic (body : Program S ε α) : Program S ε α :=
  begin (body >>= fun value => commit (done value))

/-- The statement the program sends next, if it is about to send one. -/
def nextStmt : Program S ε α → Option S.Stmt
  | call stmt _ => some stmt
  | _ => none

/-- The value the program has returned. -/
def result : Program S ε α → Option α
  | done value => some value
  | _ => none

@[simp] theorem nextStmt_call (stmt : S.Stmt) (next : S.Res stmt → Program S ε α) :
    (call stmt next).nextStmt = some stmt := rfl

end Program

/-! ## One client alone -/

/-- What the stores do with one statement when a single client is connected.
`rollback saved world` is what is left of `world` when the transaction that was
opened in `saved` is undone. -/
structure Store (S : Signature) (I W ε : Type) where
  exec : I → (stmt : S.Stmt) → W → Except ε (S.Res stmt × W)
  rollback : W → W → W

/-- How a run ends: with a value, with an exception of the program or of a
statement, or with an exception from outside that cut it off. -/
inductive Outcome (ε α : Type)
  | returned (value : α)
  | raised (error : ε)
  | interrupted
  deriving DecidableEq

/-- The same end of a run with another value. -/
def Outcome.map {ε α β : Type} (change : α → β) : Outcome ε α → Outcome ε β
  | .returned value => .returned (change value)
  | .raised error => .raised error
  | .interrupted => .interrupted

namespace Store

variable {S : Signature} {I W ε : Type}

/-- What an exception leaves behind: an open transaction is undone. -/
def abort (store : Store S I W ε) : Option W → W → W
  | some saved, world => store.rollback saved world
  | none, world => world

@[simp] theorem abort_none (store : Store S I W ε) (world : W) :
    store.abort none world = world := rfl

@[simp] theorem abort_some (store : Store S I W ε) (saved world : W) :
    store.abort (some saved) world = store.rollback saved world := rfl

end Store

namespace Program

variable {S : Signature} {I W ε α : Type}

/-- Run a program alone.  With `fault = some n` an exception from outside cuts
the run off in front of its statement number `n` (transaction brackets count);
`saved` is the world in which the open transaction began. -/
def run (store : Store S I W ε) :
    Program S ε α → Option ℕ → (ℕ → I) → Option W → W → Outcome ε α × W
  | done value, _, _, _, world => (.returned value, world)
  | raise error, _, _, saved, world => (.raised error, store.abort saved world)
  | begin rest, fault, inputs, saved, world =>
      if fault = some 0 then (.interrupted, store.abort saved world)
      else rest.run store (fault.map Nat.pred) inputs (some world) world
  | commit rest, fault, inputs, saved, world =>
      if fault = some 0 then (.interrupted, store.abort saved world)
      else rest.run store (fault.map Nat.pred) inputs none world
  | call stmt next, fault, inputs, saved, world =>
      if fault = some 0 then (.interrupted, store.abort saved world)
      else
        match store.exec (inputs 0) stmt world with
        | .error error => (.raised error, store.abort saved world)
        | .ok (answer, world') =>
            (next answer).run store (fault.map Nat.pred) (fun n => inputs (n + 1)) saved world'

/-- The statements a program sends when it runs alone, up to the first that fails. -/
def sent (store : Store S I W ε) : Program S ε α → (ℕ → I) → W → List S.Stmt
  | done _, _, _ => []
  | raise _, _, _ => []
  | begin rest, inputs, world => rest.sent store inputs world
  | commit rest, inputs, world => rest.sent store inputs world
  | call stmt next, inputs, world =>
      stmt ::
        match store.exec (inputs 0) stmt world with
        | .error _ => []
        | .ok (answer, world') => (next answer).sent store (fun n => inputs (n + 1)) world'

section Run

variable (store : Store S I W ε) (inputs : ℕ → I) (saved : Option W) (world : W)

@[simp] theorem run_done (value : α) (fault : Option ℕ) :
    (done value : Program S ε α).run store fault inputs saved world
      = (.returned value, world) := rfl

@[simp] theorem run_raise (error : ε) (fault : Option ℕ) :
    (raise error : Program S ε α).run store fault inputs saved world
      = (.raised error, store.abort saved world) := rfl

@[simp] theorem run_begin (rest : Program S ε α) :
    (begin rest).run store none inputs saved world
      = rest.run store none inputs (some world) world := rfl

@[simp] theorem run_commit (rest : Program S ε α) :
    (commit rest).run store none inputs saved world
      = rest.run store none inputs none world := rfl

theorem run_call (stmt : S.Stmt) (next : S.Res stmt → Program S ε α) :
    (call stmt next).run store none inputs saved world =
      match store.exec (inputs 0) stmt world with
      | .error error => (.raised error, store.abort saved world)
      | .ok (answer, world') =>
          (next answer).run store none (fun n => inputs (n + 1)) saved world' := by
  simp only [run, reduceCtorEq, if_false, Option.map_none]

@[simp] theorem run_call_interrupted (stmt : S.Stmt) (next : S.Res stmt → Program S ε α) :
    (call stmt next).run store (some 0) inputs saved world
      = (.interrupted, store.abort saved world) := by
  simp only [run, if_true]

theorem run_call_succ (stmt : S.Stmt) (next : S.Res stmt → Program S ε α) (n : ℕ) :
    (call stmt next).run store (some (n + 1)) inputs saved world =
      match store.exec (inputs 0) stmt world with
      | .error error => (.raised error, store.abort saved world)
      | .ok (answer, world') =>
          (next answer).run store (some n) (fun n => inputs (n + 1)) saved world' := by
  simp only [run, Option.some.injEq, Nat.add_eq_zero_iff, one_ne_zero, and_false, if_false,
    Option.map_some, Nat.pred_succ]

theorem run_begin_succ (rest : Program S ε α) (n : ℕ) :
    (begin rest).run store (some (n + 1)) inputs saved world
      = rest.run store (some n) inputs (some world) world := by
  simp only [run, Option.some.injEq, Nat.add_eq_zero_iff, one_ne_zero, and_false, if_false,
    Option.map_some, Nat.pred_succ]

/-- Dropping the value changes nothing else about a run. -/
theorem run_discard (program : Program S ε α) (fault : Option ℕ) :
    program.discard.run store fault inputs saved world
      = ((program.run store fault inputs saved world).1.map fun _ => (),
          (program.run store fault inputs saved world).2) := by
  unfold discard
  induction program generalizing fault inputs saved world with
  | done value => rfl
  | raise error => rfl
  | begin rest ih =>
      rw [begin_bind, run, run]
      split
      · rfl
      · exact ih ..
  | commit rest ih =>
      rw [commit_bind, run, run]
      split
      · rfl
      · exact ih ..
  | call stmt next ih =>
      rw [call_bind, run, run]
      split
      · rfl
      · split
        · rfl
        · exact ih ..

theorem sent_discard (program : Program S ε α) :
    program.discard.sent store inputs world = program.sent store inputs world := by
  unfold discard
  induction program generalizing inputs world with
  | done value => rfl
  | raise error => rfl
  | begin rest ih => exact ih ..
  | commit rest ih => exact ih ..
  | call stmt next ih =>
      rw [call_bind, sent, sent]
      split
      · rfl
      · exact congrArg _ (ih ..)

end Run

end Program

end Transactional
