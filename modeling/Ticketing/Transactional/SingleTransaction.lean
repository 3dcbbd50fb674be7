import Ticketing.Transactional.Program

/-!
# Programs that do all or nothing

A program writes what has to last inside one transaction and ends with its
commit.  Wherever it stops short of returning, what lasts is as it was before;
and where it returns, it has done what it does when nothing interrupts it.

## Main Definitions

* `Program.SingleTransaction` — the shape of such a program
* `Durable` — the part of the stores that a rollback restores

## Main Results

* `run_eq_of_not_interrupted` — an exception that comes too late changes nothing
* `SingleTransaction.run_kept` — a run that does not return leaves no trace in what lasts
-/

namespace Transactional

variable {S : Signature} {I W D ε α β : Type}

namespace Program

/-! ## Late exceptions -/

/-- **A run that is not cut off** is the run without the exception. -/
theorem run_eq_of_not_interrupted (store : Store S I W ε) (program : Program S ε α)
    (fault : Option ℕ) (inputs : ℕ → I) (saved : Option W) (world : W)
    (finished : (program.run store fault inputs saved world).1 ≠ .interrupted) :
    program.run store fault inputs saved world = program.run store none inputs saved world := by
  induction program generalizing fault inputs saved world with
  | done value => rfl
  | raise error => rfl
  | begin rest ih =>
      rw [run] at finished ⊢
      split at finished
      · exact absurd rfl finished
      · rename_i reached
        rw [if_neg reached, run_begin]
        exact ih _ _ _ _ finished
  | commit rest ih =>
      rw [run] at finished ⊢
      split at finished
      · exact absurd rfl finished
      · rename_i reached
        rw [if_neg reached, run_commit]
        exact ih _ _ _ _ finished
  | call stmt next ih =>
      rw [run] at finished ⊢
      split at finished
      · exact absurd rfl finished
      · rename_i reached
        rw [if_neg reached, run_call]
        cases executed : store.exec (inputs 0) stmt world with
        | error error => rfl
        | ok result =>
            simp only [executed] at finished ⊢
            exact ih _ _ _ _ _ finished

/-! ## The shape -/

/-- At most one transaction, which ends the program; the statements outside of it
are `quiet`.  The flag tells whether the transaction is open. -/
inductive SingleTransaction (quiet : S.Stmt → Prop) : Bool → Program S ε α → Prop
  | done (value : α) : SingleTransaction quiet false (done value)
  | raise (opened : Bool) (error : ε) : SingleTransaction quiet opened (raise error)
  | begin {rest : Program S ε α} (body : SingleTransaction quiet true rest) :
      SingleTransaction quiet false (begin rest)
  | commit (value : α) : SingleTransaction quiet true (commit (done value))
  | before {stmt : S.Stmt} {next : S.Res stmt → Program S ε α} (still : quiet stmt)
      (body : ∀ answer, SingleTransaction quiet false (next answer)) :
      SingleTransaction quiet false (call stmt next)
  | inside {stmt : S.Stmt} {next : S.Res stmt → Program S ε α}
      (body : ∀ answer, SingleTransaction quiet true (next answer)) :
      SingleTransaction quiet true (call stmt next)

namespace SingleTransaction

variable {quiet : S.Stmt → Prop}

/-- Dropping the value changes nothing. -/
theorem discard {opened : Bool} {program : Program S ε α}
    (shape : SingleTransaction quiet opened program) :
    SingleTransaction quiet opened program.discard := by
  unfold Program.discard
  induction shape with
  | done value => exact .done ()
  | raise opened error => exact .raise opened error
  | begin body ih => exact .begin ih
  | commit value => exact .commit ()
  | before still body ih => exact .before still ih
  | inside body ih => exact .inside ih

theorem mono {quiet' : S.Stmt → Prop} {opened : Bool} {program : Program S ε α}
    (shape : SingleTransaction quiet opened program) (weaker : ∀ stmt, quiet stmt → quiet' stmt) :
    SingleTransaction quiet' opened program := by
  induction shape with
  | done value => exact .done value
  | raise opened error => exact .raise opened error
  | begin body ih => exact .begin ih
  | commit value => exact .commit value
  | before still body ih => exact .before (weaker _ still) ih
  | inside body ih => exact .inside ih

end SingleTransaction

/-- A body without brackets, run inside a transaction. -/
inductive Plain : Program S ε α → Prop
  | done (value : α) : Plain (done value)
  | raise (error : ε) : Plain (raise error)
  | call {stmt : S.Stmt} {next : S.Res stmt → Program S ε α}
      (body : ∀ answer, Plain (next answer)) : Plain (call stmt next)

theorem Plain.bind {first : Program S ε α} {next : α → Program S ε β} (plain : first.Plain)
    (rest : ∀ value, (next value).Plain) : (first >>= next).Plain := by
  induction plain with
  | done value => exact rest value
  | raise error => exact .raise error
  | call body ih => exact .call ih

theorem Plain.atomic {quiet : S.Stmt → Prop} {body : Program S ε α} (plain : body.Plain) :
    SingleTransaction quiet false (atomic body) := by
  refine .begin ?_
  induction plain with
  | done value => exact .commit value
  | raise error => exact .raise true error
  | call body ih => exact .inside ih

end Program

/-! ## What lasts -/

/-- `kept` is what lasts of the stores: a rollback brings it back, and `quiet`
statements leave it alone. -/
structure Durable (store : Store S I W ε) (kept : W → D) (quiet : S.Stmt → Prop) : Prop where
  rollback : ∀ saved world, kept (store.rollback saved world) = kept saved
  quiet : ∀ {input : I} {stmt : S.Stmt} {world world' : W} {answer : S.Res stmt}, quiet stmt →
    store.exec input stmt world = .ok (answer, world') → kept world' = kept world

namespace Program

variable {store : Store S I W ε} {kept : W → D} {quiet : S.Stmt → Prop}

/-- Inside the transaction: the run returns, or the rollback brings back what there was. -/
theorem SingleTransaction.run_inside (durable : Durable store kept quiet) {program : Program S ε α}
    (shape : SingleTransaction quiet true program) (fault : Option ℕ) (inputs : ℕ → I)
    (saved world : W) :
    (∃ value, (program.run store fault inputs (some saved) world).1 = .returned value) ∨
      kept (program.run store fault inputs (some saved) world).2 = kept saved := by
  generalize flag : true = opened at shape
  induction shape generalizing fault inputs world with
  | done value => cases flag
  | raise opened error => exact .inr (durable.rollback saved world)
  | begin body => cases flag
  | commit value =>
      rw [run]
      split
      · exact .inr (durable.rollback saved world)
      · exact .inl ⟨value, rfl⟩
  | before still body => cases flag
  | @inside stmt next body ih =>
      rw [run]
      split
      · exact .inr (durable.rollback saved world)
      · cases store.exec (inputs 0) stmt world with
        | error error => exact .inr (durable.rollback saved world)
        | ok result => exact ih result.1 _ _ _ flag

/-- **All or nothing.**  A run, cut off anywhere or not, that does not return
leaves what lasts as it was. -/
theorem SingleTransaction.run_kept (durable : Durable store kept quiet) {program : Program S ε α}
    (shape : SingleTransaction quiet false program) (fault : Option ℕ) (inputs : ℕ → I)
    (world : W) :
    (∃ value, (program.run store fault inputs none world).1 = .returned value) ∨
      kept (program.run store fault inputs none world).2 = kept world := by
  generalize flag : false = opened at shape
  induction shape generalizing fault inputs world with
  | done value => exact .inr rfl
  | raise opened error => exact .inr rfl
  | begin body =>
      rw [run]
      split
      · exact .inr rfl
      · exact body.run_inside durable _ _ _ _
  | commit value => cases flag
  | @before stmt next still body ih =>
      rw [run]
      split
      · exact .inr rfl
      · cases executed : store.exec (inputs 0) stmt world with
        | error error => exact .inr rfl
        | ok result =>
            rw [← durable.quiet still executed]
            exact ih result.1 _ _ _ flag
  | inside body => cases flag

/-- A run that stops somewhere leaves what lasts as it was or as the whole run leaves it. -/
theorem SingleTransaction.run_cases (durable : Durable store kept quiet) {program : Program S ε α}
    (shape : SingleTransaction quiet false program) (fault : Option ℕ) (inputs : ℕ → I)
    (world : W) :
    kept (program.run store fault inputs none world).2 = kept world ∨
      program.run store fault inputs none world = program.run store none inputs none world := by
  rcases shape.run_kept durable fault inputs world with ⟨value, returned⟩ | same
  · refine .inr (run_eq_of_not_interrupted store program fault inputs none world ?_)
    intro interrupted
    cases returned.symm.trans interrupted
  · exact .inl same

end Program

end Transactional
