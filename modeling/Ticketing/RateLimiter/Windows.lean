import Mathlib

/-!
# Sliding windows

How many of a growing list of instants a window of fixed length can contain.

## Main Definitions

* `inWindow` — the instants of the half-open window from `start`
* `recent` — the instants a window that ends with `now` still contains
* `WithinLimit` — no window contains more than `limit` instants

## Main Results

* `withinLimit_concat` — one more instant: only the window that ends with it is new
-/

namespace Windows

variable {T : Type} [LinearOrder T] [Add T]

/-- How many of `instants` lie in the half-open window of length `length` from `start`. -/
def inWindow (length start : T) (instants : List T) : ℕ :=
  instants.countP fun instant => start ≤ instant ∧ instant < start + length

/-- How many of `instants` are less than `length` before `now`. -/
def recent (length now : T) (instants : List T) : ℕ :=
  instants.countP fun instant => now < instant + length

/-- No window of the given length contains more than `limit` of the instants. -/
def WithinLimit (limit : ℕ) (length : T) (instants : List T) : Prop :=
  ∀ start, inWindow length start instants ≤ limit

theorem withinLimit_nil (limit : ℕ) (length : T) : WithinLimit limit length [] :=
  fun _ => Nat.zero_le _

/-- Every instant that shares a window with a later `now` is recent at `now`. -/
theorem inWindow_le_recent [AddRightMono T] {length start now : T} (instants : List T)
    (inside : now < start + length) :
    inWindow length start instants ≤ recent length now instants := by
  refine List.countP_mono_left fun instant _ contained => ?_
  rw [decide_eq_true_eq] at contained ⊢
  exact inside.trans_le (add_le_add_left contained.1 length)

/-- What is recent at the last instant lies in one window. -/
theorem exists_inWindow_eq_recent {length now : T} {instants : List T}
    (sorted : (instants ++ [now]).Pairwise (· ≤ ·)) :
    ∃ start, recent length now (instants ++ [now]) ≤ inWindow length start (instants ++ [now]) := by
  cases still : (instants ++ [now]).filter fun instant => now < instant + length with
  | nil =>
      refine ⟨now, ?_⟩
      rw [recent, List.countP_eq_length_filter, still]
      exact Nat.zero_le _
  | cons first rest =>
      -- the window from the first recent instant contains all of them
      have first_recent :
          first ∈ (instants ++ [now]).filter fun instant => now < instant + length :=
        still ▸ List.mem_cons_self
      obtain ⟨-, first_late⟩ := List.mem_filter.mp first_recent
      have ordered := sorted.sublist
        (List.filter_sublist (p := fun instant => now < instant + length))
      rw [still] at ordered
      refine ⟨first, List.countP_mono_left fun instant found late => ?_⟩
      have kept : instant ∈ first :: rest := still ▸ List.mem_filter.mpr ⟨found, late⟩
      have bounded : instant ≤ now := by
        rcases List.mem_append.mp found with earlier | last
        · exact (List.pairwise_append.mp sorted).2.2 _ earlier _ (List.mem_singleton_self _)
        · exact (List.mem_singleton.mp last).le
      have later : first ≤ instant := by
        rcases List.mem_cons.mp kept with rfl | tail
        · exact le_rfl
        · exact List.rel_of_pairwise_cons ordered tail
      simp only [decide_eq_true_eq] at first_late ⊢
      exact ⟨later, bounded.trans_lt first_late⟩

/-- **One more instant.**  A list that grows at its end stays within the limit
exactly when the window that ends with the new instant does. -/
theorem withinLimit_concat [AddRightMono T] {limit : ℕ} {length now : T} {instants : List T}
    (sorted : (instants ++ [now]).Pairwise (· ≤ ·)) :
    WithinLimit limit length (instants ++ [now]) ↔
      WithinLimit limit length instants ∧ recent length now (instants ++ [now]) ≤ limit := by
  constructor
  · intro within
    refine ⟨fun start => ?_, ?_⟩
    · exact (List.Sublist.countP_le (List.sublist_append_left _ _)).trans (within start)
    · obtain ⟨start, covered⟩ : ∃ start, recent length now (instants ++ [now])
          ≤ inWindow length start (instants ++ [now]) := exists_inWindow_eq_recent sorted
      exact covered.trans (within start)
  · rintro ⟨within, bounded⟩ start
    by_cases inside : now < start + length
    · exact (inWindow_le_recent _ inside).trans bounded
    · -- the new instant is not in this window
      have outside :
          inWindow length start (instants ++ [now]) = inWindow length start instants := by
        simp [inWindow, inside]
      exact outside ▸ within start

end Windows
