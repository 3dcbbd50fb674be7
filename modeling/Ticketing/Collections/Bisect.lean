import Mathlib

/-!
# Bisection

Python's `bisect` module: the place of a value in a sorted list, found by halving.

## Main Definitions

* `bisectFrom` — the loop, for any test that sends the search to the right
* `bisectLeft`, `bisectRight` — the two functions of the module
* `probes` — the positions the loop looks at on its way to a cut

## Main Results

* `bisectFrom_eq_iff` — on any list, the loop ends at the cut whose probes agree with it
* `bisect_of_partitioned` — on a list that the test splits in two, it ends where it splits

## Design Notes

The loop halves the interval between `lo` and `hi`, so its length bounds the rounds.
The positions it looks at depend on the list only through the answers of the test;
`probes` fixes the answers in advance, which says what the loop does on a list that
is not sorted at all.
-/

namespace Collections

variable {α : Type}

/-- `while lo < hi`: the middle is tested, and one half is left.  `rounds` is the
length of the interval at least. -/
def bisectFrom (goesRight : α → Bool) (list : List α) : ℕ → ℕ → ℕ → ℕ
  | 0, lo, _ => lo
  | rounds + 1, lo, hi =>
      if lo < hi then
        let mid := (lo + hi) / 2
        if list[mid]?.any goesRight then bisectFrom goesRight list rounds (mid + 1) hi
        else bisectFrom goesRight list rounds lo mid
      else lo

section Order

variable [LT α] [DecidableLT α]

/-- `bisect_left`: in front of the values that are not smaller. -/
def bisectLeft (list : List α) (x : α) : ℕ :=
  bisectFrom (fun value => value < x) list list.length 0 list.length

/-- `bisect_right`: behind the values that are not larger. -/
def bisectRight (list : List α) (x : α) : ℕ :=
  bisectFrom (fun value => !decide (x < value)) list list.length 0 list.length

end Order

/-- The positions that the loop looks at when it ends at `cut`. -/
def probes (cut : ℕ) : ℕ → ℕ → ℕ → List ℕ
  | 0, _, _ => []
  | rounds + 1, lo, hi =>
      if lo < hi then
        let mid := (lo + hi) / 2
        mid :: if mid < cut then probes cut rounds (mid + 1) hi else probes cut rounds lo mid
      else []

/-- **Any list.**  The loop ends at `cut` exactly when the test sends it to the right at
those of its probes that lie in front of `cut`. -/
theorem bisectFrom_eq_iff {goesRight : α → Bool} {list : List α} {cut : ℕ} :
    ∀ {rounds lo hi : ℕ}, hi - lo ≤ rounds → lo ≤ hi →
      (bisectFrom goesRight list rounds lo hi = cut ↔
        lo ≤ cut ∧ cut ≤ hi ∧
          ∀ mid ∈ probes cut rounds lo hi, (list[mid]?.any goesRight = true ↔ mid < cut)) := by
  intro rounds
  induction rounds with
  | zero =>
      intro lo hi enough order
      simp only [bisectFrom, probes, List.not_mem_nil, false_implies, implies_true, and_true]
      omega
  | succ rounds ih =>
      intro lo hi enough order
      unfold bisectFrom probes
      by_cases inside : lo < hi
      · have below : (lo + hi) / 2 < hi := by omega
        have above : lo ≤ (lo + hi) / 2 := by omega
        simp only [if_pos inside, List.forall_mem_cons]
        cases right : list[(lo + hi) / 2]?.any goesRight with
        -- halving goes on behind the probe, so the probe lies in front of the cut
        | true =>
            simp only [if_true, true_iff, ih (by omega : hi - ((lo + hi) / 2 + 1) ≤ rounds) below]
            constructor
            · rintro ⟨left, bound, agree⟩
              rw [if_pos (by omega : (lo + hi) / 2 < cut)]
              exact ⟨by omega, bound, by omega, agree⟩
            · rintro ⟨left, bound, passed, agree⟩
              rw [if_pos passed] at agree
              exact ⟨passed, bound, agree⟩
        | false =>
            simp only [Bool.false_eq_true, if_false, false_iff,
              ih (by omega : (lo + hi) / 2 - lo ≤ rounds) above]
            constructor
            · rintro ⟨left, bound, agree⟩
              rw [if_neg (by omega : ¬ (lo + hi) / 2 < cut)]
              exact ⟨left, by omega, by omega, agree⟩
            · rintro ⟨left, bound, passed, agree⟩
              rw [if_neg passed] at agree
              exact ⟨left, by omega, agree⟩
      · simp only [if_neg inside, List.not_mem_nil, false_implies, implies_true, and_true]
        omega

/-- Whatever the list, the place is inside it or at its end. -/
theorem bisectRight_le [LT α] [DecidableLT α] (list : List α) (x : α) :
    bisectRight list x ≤ list.length :=
  ((bisectFrom_eq_iff (by omega) (Nat.zero_le _)).mp rfl).2.1

/-! ## Lists that a test splits in two -/

/-- What passes the test stands in front of what does not. -/
def Partitioned (test : α → Bool) (list : List α) : Prop :=
  list.Pairwise fun first second => test second = true → test first = true

/-- The elements in front of the split pass, the others do not. -/
theorem Partitioned.any_iff {test : α → Bool} {list : List α} (split : Partitioned test list)
    (position : ℕ) :
    list[position]?.any test = true ↔ position < (list.filter test).length := by
  induction list generalizing position with
  | nil => simp
  | cons first rest ih =>
      obtain ⟨ahead, tail⟩ := List.pairwise_cons.mp split
      cases passes : test first with
      | true =>
          rw [List.filter_cons_of_pos passes]
          cases position with
          | zero => simp [passes]
          | succ position => simpa using ih tail position
      | false =>
          -- behind an element that fails the test nothing passes it
          have none : ∀ later ∈ rest, test later = false := by
            intro later inside
            rw [← Bool.not_eq_true]
            intro passes'
            rw [ahead later inside passes'] at passes
            cases passes
          have empty : (first :: rest).filter test = [] := by
            rw [List.filter_eq_nil_iff]
            simpa [passes] using none
          rw [empty]
          cases position with
          | zero => simp [passes]
          | succ position =>
              cases found : rest[position]? with
              | none => simp [found]
              | some later => simp [found, none later (List.mem_of_getElem? found)]

/-- What passes the test is a prefix of the list. -/
theorem Partitioned.take_eq {test : α → Bool} {list : List α} (split : Partitioned test list) :
    list.take (list.filter test).length = list.filter test := by
  induction list with
  | nil => rfl
  | cons first rest ih =>
      obtain ⟨ahead, tail⟩ := List.pairwise_cons.mp split
      cases passes : test first with
      | true =>
          rw [List.filter_cons_of_pos passes, List.length_cons, List.take_succ_cons, ih tail]
      | false =>
          have none : ∀ later ∈ first :: rest, ¬ test later = true := by
            intro later inside passes'
            rcases List.mem_cons.mp inside with rfl | inside
            · rw [passes] at passes'
              cases passes'
            · rw [ahead later inside passes'] at passes
              cases passes
          rw [List.filter_eq_nil_iff.mpr none]
          rfl

/-- **Sorted lists.**  Where the test splits the list, the loop ends at the split. -/
theorem bisect_of_partitioned {goesRight : α → Bool} {list : List α}
    (split : Partitioned goesRight list) :
    bisectFrom goesRight list list.length 0 list.length = (list.filter goesRight).length := by
  rw [bisectFrom_eq_iff (by omega) (Nat.zero_le _)]
  exact ⟨Nat.zero_le _, List.length_filter_le _ _, fun mid _ => split.any_iff mid⟩

end Collections
