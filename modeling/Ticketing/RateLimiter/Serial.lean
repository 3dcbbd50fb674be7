import Ticketing.RateLimiter.Limiter
import Ticketing.RateLimiter.Windows

/-!
# The limiter over sliding windows

Requests of one identifier, handled one at a time.

## Main Definitions

* `allowed` — the times of the requests that `is_allowed` lets through
* `Numbered`, `number` — the requests with their counting periods, from their
  times alone
* `Separated` — the first requests of a period come late enough after those of
  the periods before

## Main Results

* `isAllowed_run` — what one call does
* `allowed_eq` — the requests let through are the first ones of each period
* `within_limit_iff` — when every sliding window stays within the limit

## Design Notes

A counting period starts with the first request that comes a window length or
more after the start of the period before: that is when the counter has
disappeared.  Periods and numbers are computed from the request times, without
the limiter.
-/

namespace Ticketing.RateLimiting

open Transactional Windows

/-! ## One call -/

section Call

variable (limiter : RateLimiter) (identifier : String) (now : Time) (counters : Counters)

/-- One complete call at `now`. -/
def call : Outcome LimiterError (Bool × ℤ) × Counters :=
  (limiter.isAllowed identifier).run cacheStore none (fun _ => now) none counters

/-- **A call that finds no counter**: it is let through when the limit is positive,
and starts the counter. -/
theorem call_of_missing (missing : counters.live now (limiter.key identifier) = none) :
    call limiter identifier now counters =
      if 0 ≥ limiter.limit then (.returned (false, 0), counters)
      else (.returned (true, 1),
        counters.store (limiter.key identifier) 1 (now + limiter.window)) := by
  simp only [call, RateLimiter.isAllowed, Program.send, Program.call_bind, Program.done_bind,
    Program.run_call, cacheStore, cacheExec, missing, RateLimiter.afterGet, Option.getD_none]
  split <;> rfl

/-- **A call that finds a positive counter**: it is let through below the limit,
and increments the counter. -/
theorem call_of_counted {count : ℤ} {expiry : Time} (positive : 0 < count)
    (present : counters (limiter.key identifier) = some (count, expiry)) (alive : now < expiry) :
    call limiter identifier now counters =
      if count ≥ limiter.limit then (.returned (false, count), counters)
      else (.returned (true, count + 1),
        counters.store (limiter.key identifier) (count + 1) expiry) := by
  have found : counters.live now (limiter.key identifier) = some count :=
    Cache.live_eq_some.mpr ⟨expiry, present, alive⟩
  simp only [call, RateLimiter.isAllowed, Program.send, Program.call_bind, Program.done_bind,
    Program.run_call, cacheStore, cacheExec, found, RateLimiter.afterGet, Option.getD_some]
  have incremented : cacheExec now (.incr (limiter.key identifier)) counters
      = .ok (count + 1, counters.store (limiter.key identifier) (count + 1) expiry) := by
    simp only [cacheExec, present, if_pos alive]
  split
  · rfl
  · rw [if_neg positive.ne']
    simp only [Program.run_call, incremented]
    rfl

end Call

/-! ## Sequences of calls -/

/-- One more request: the counters, and the times of the requests let through. -/
def serve (limiter : RateLimiter) (identifier : String) (state : Counters × List Time)
    (now : Time) : Counters × List Time :=
  match call limiter identifier now state.1 with
  | (.returned (true, _), counters) => (counters, state.2 ++ [now])
  | (_, counters) => (counters, state.2)

/-- The state after requests at `times`, from an empty cache. -/
def served (limiter : RateLimiter) (identifier : String) (times : List Time) :
    Counters × List Time :=
  times.foldl (serve limiter identifier) (Cache.empty, [])

/-- The times of the requests let through. -/
def allowed (limiter : RateLimiter) (identifier : String) (times : List Time) : List Time :=
  (served limiter identifier times).2

/-! ## Counting periods -/

/-- A request with the period it falls in, and its number there, from 0. -/
structure Numbered where
  time : Time
  period : ℕ
  ordinal : ℕ

/-- The requests so far, with the current period: its number, its start, and the
number of its next request. -/
structure Periods where
  period : ℕ := 0
  start : Option Time := none
  next : ℕ := 0
  requests : List Numbered := []

/-- The next request: it falls in the current period, or starts a new one. -/
def Periods.place (length : Time) (periods : Periods) (now : Time) : Numbered :=
  if periods.start.any fun start => now < start + length then ⟨now, periods.period, periods.next⟩
  else ⟨now, periods.period + 1, 0⟩

/-- The periods with one more request. -/
def Periods.add (length : Time) (periods : Periods) (now : Time) : Periods where
  period := (periods.place length now).period
  start := if periods.start.any fun start => now < start + length then periods.start else some now
  next := (periods.place length now).ordinal + 1
  requests := periods.requests ++ [periods.place length now]

/-- The periods of requests at `times`. -/
def periods (length : Time) (times : List Time) : Periods := times.foldl (Periods.add length) {}

/-- The requests at `times` with their periods and numbers. -/
def number (length : Time) (times : List Time) : List Numbered := (periods length times).requests

/-- How many of the first `limit` requests of the periods before that of `request`
are less than `length` before it. -/
def carried (limit : ℕ) (length : Time) (request : Numbered) (requests : List Numbered) : ℕ :=
  requests.countP fun earlier => earlier.period < request.period ∧ earlier.ordinal < limit ∧
    request.time < earlier.time + length

/-- Each of the first `limit` requests of a period, together with those of its
period before it and those of earlier periods that are less than `length` before
it, makes at most `limit`. -/
def Separated (limit : ℕ) (length : Time) (requests : List Numbered) : Prop :=
  ∀ request ∈ requests, request.ordinal < limit →
    carried limit length request requests + request.ordinal + 1 ≤ limit

instance (limit : ℕ) (length : Time) (requests : List Numbered) :
    Decidable (Separated limit length requests) :=
  inferInstanceAs (Decidable (∀ request ∈ requests, request.ordinal < limit → _))

/-- A request in the current period. -/
theorem Periods.add_same {periods : Periods} {length now start : Time}
    (current : periods.start = some start) (within : now < start + length) :
    periods.place length now = ⟨now, periods.period, periods.next⟩ ∧
      periods.add length now = ⟨periods.period, some start, periods.next + 1,
        periods.requests ++ [⟨now, periods.period, periods.next⟩]⟩ := by
  simp [Periods.add, Periods.place, current, within]

/-- A request that starts a period. -/
theorem Periods.add_new {periods : Periods} {length now : Time}
    (ended : ∀ start, periods.start = some start → ¬ now < start + length) :
    periods.place length now = ⟨now, periods.period + 1, 0⟩ ∧
      periods.add length now = ⟨periods.period + 1, some now, 1,
        periods.requests ++ [⟨now, periods.period + 1, 0⟩]⟩ := by
  have none_current : (periods.start.any fun start => decide (now < start + length)) = false := by
    cases current : periods.start with
    | none => rfl
    | some start => simpa using ended start current
  simp [Periods.add, Periods.place, none_current]

@[simp] theorem Periods.time_place (periods : Periods) (length now : Time) :
    (periods.place length now).time = now := by
  unfold Periods.place
  split <;> rfl

theorem periods_concat (length : Time) (times : List Time) (now : Time) :
    periods length (times ++ [now]) = (periods length times).add length now := by
  simp [periods]

theorem served_concat (limiter : RateLimiter) (identifier : String) (times : List Time)
    (now : Time) : served limiter identifier (times ++ [now])
      = serve limiter identifier (served limiter identifier times) now := by
  simp [served]

/-- What the counter holds after the requests of `periods`, and what is known of
these requests. -/
structure Tracks (limiter : RateLimiter) (identifier : String) (counters : Counters)
    (periods : Periods) : Prop where
  earlier : ∀ request ∈ periods.requests, request.period ≤ periods.period
  started : ∀ request ∈ periods.requests, request.period = periods.period →
    ∀ start, periods.start = some start → start ≤ request.time
  counted : ∀ limit, periods.requests.countP
    (fun request => request.period = periods.period ∧ request.ordinal < limit)
      = min periods.next limit
  /-- The start of the current period is one of the request times. -/
  begun : ∀ start, periods.start = some start → ∃ request ∈ periods.requests, request.time = start
  counter : match periods.start with
    | none => counters (limiter.key identifier) = none
    | some start => 0 < periods.next ∧ (0 < limiter.limit →
        counters (limiter.key identifier)
          = some (min (periods.next : ℤ) limiter.limit, start + limiter.window)) ∧
        (limiter.limit ≤ 0 → counters (limiter.key identifier) = none)

namespace Tracks

variable {limiter : RateLimiter} {identifier : String} {counters : Counters} {periods : Periods}
variable {now : Time}

/-- Before the first request. -/
theorem start (limiter : RateLimiter) (identifier : String) :
    Tracks limiter identifier Cache.empty {} where
  earlier := nofun
  started := nofun
  counted := by simp
  begun := nofun
  counter := rfl

/-- A request in the current period. -/
theorem serve_same (tracks : Tracks limiter identifier counters periods) (admitted : List Time)
    {start : Time} (current : periods.start = some start) (within : now < start + limiter.window) :
    ∃ counters', serve limiter identifier (counters, admitted) now
        = (counters', if periods.next < limiter.limit.toNat then admitted ++ [now] else admitted) ∧
      (0 < limiter.limit → counters' (limiter.key identifier)
        = some (min ((periods.next + 1 : ℕ) : ℤ) limiter.limit, start + limiter.window)) ∧
      (limiter.limit ≤ 0 → counters' (limiter.key identifier) = none) := by
  have counter := tracks.counter
  rw [current] at counter
  obtain ⟨counting, present, absent⟩ := counter
  -- a limit of zero refuses everything, and no counter is ever set
  by_cases positive : 0 < limiter.limit
  · have entry := present positive
    have below : 0 < min (periods.next : ℤ) limiter.limit :=
      lt_min (by exact_mod_cast counting) positive
    have called := call_of_counted limiter identifier now counters below entry within
    by_cases full : min (periods.next : ℤ) limiter.limit ≥ limiter.limit
    · rw [if_pos full] at called
      refine ⟨counters, ?_, fun _ => ?_,
        fun nonpositive => absurd positive (not_lt.mpr nonpositive)⟩
      · rw [serve, called, if_neg (by omega)]
      · rw [entry]
        congr 2
        push_cast
        omega
    · rw [if_neg full] at called
      refine ⟨counters.store (limiter.key identifier) (min (periods.next : ℤ) limiter.limit + 1)
        (start + limiter.window), ?_, fun _ => ?_,
        fun nonpositive => absurd positive (not_lt.mpr nonpositive)⟩
      · rw [serve, called, if_pos (by omega)]
      · rw [Cache.store_self]
        congr 2
        push_cast
        omega
  · have missing : counters.live now (limiter.key identifier) = none := by
      rw [Cache.live, absent (not_lt.mp positive)]
      rfl
    have called := call_of_missing limiter identifier now counters missing
    rw [if_pos (by omega)] at called
    refine ⟨counters, ?_, fun limit => absurd limit positive, absent⟩
    rw [serve, called, if_neg (by omega)]

/-- A request that starts a period. -/
theorem serve_new (tracks : Tracks limiter identifier counters periods) (admitted : List Time)
    (ended : ∀ start, periods.start = some start → ¬ now < start + limiter.window) :
    ∃ counters', serve limiter identifier (counters, admitted) now
        = (counters', if 0 < limiter.limit.toNat then admitted ++ [now] else admitted) ∧
      (0 < limiter.limit → counters' (limiter.key identifier) = some (1, now + limiter.window)) ∧
      (limiter.limit ≤ 0 → counters' (limiter.key identifier) = none) := by
  have missing : counters.live now (limiter.key identifier) = none ∧
      (limiter.limit ≤ 0 → counters (limiter.key identifier) = none) := by
    have counter := tracks.counter
    cases current : periods.start with
    | none =>
        rw [current] at counter
        refine ⟨?_, fun _ => counter⟩
        rw [Cache.live, show counters (limiter.key identifier) = none from counter]
        rfl
    | some start =>
        rw [current] at counter
        obtain ⟨-, present, absent⟩ := counter
        refine ⟨?_, absent⟩
        by_cases positive : 0 < limiter.limit
        · have expired := not_lt.mp (ended start current)
          simp [Cache.live, present positive, expired]
        · rw [Cache.live, absent (not_lt.mp positive)]
          rfl
  have called := call_of_missing limiter identifier now counters missing.1
  by_cases positive : 0 < limiter.limit
  · rw [if_neg (by omega)] at called
    refine ⟨counters.store (limiter.key identifier) 1 (now + limiter.window), ?_,
      fun _ => Cache.store_self .., fun nonpositive => absurd positive (not_lt.mpr nonpositive)⟩
    rw [serve, called, if_pos (by omega)]
  · rw [if_pos (by omega)] at called
    refine ⟨counters, ?_, fun limit => absurd limit positive, missing.2⟩
    rw [serve, called, if_neg (by omega)]

/-- **One request.**  It is let through exactly when it is one of the first of its
period, and the counter keeps track. -/
theorem serve (tracks : Tracks limiter identifier counters periods) (admitted : List Time)
    (past : ∀ request ∈ periods.requests, request.time ≤ now) :
    ∃ counters', RateLimiting.serve limiter identifier (counters, admitted) now
        = (counters', if (periods.place limiter.window now).ordinal < limiter.limit.toNat
            then admitted ++ [now] else admitted) ∧
      Tracks limiter identifier counters' (periods.add limiter.window now) := by
  -- the counter is alive exactly in the current period
  by_cases within : ∃ start, periods.start = some start ∧ now < start + limiter.window
  · obtain ⟨start, current, within⟩ := within
    obtain ⟨placed, added⟩ := Periods.add_same current within
    obtain ⟨counters', served, present, absent⟩ :=
      tracks.serve_same admitted current within
    refine ⟨counters', by rw [served, placed], ?_⟩
    rw [added]
    obtain ⟨first, known, begins⟩ := tracks.begun start current
    refine ⟨fun request found => ?_, fun request found same begun started => ?_,
      fun limit => ?_, fun begun started => ?_, ⟨Nat.succ_pos _, present, absent⟩⟩
    · rcases List.mem_append.mp found with before | last
      · exact tracks.earlier request before
      · obtain rfl := List.mem_singleton.mp last
        exact le_refl periods.period
    · cases started
      rcases List.mem_append.mp found with before | last
      · exact tracks.started request before same start current
      · obtain rfl := List.mem_singleton.mp last
        exact begins ▸ past first known
    · rw [List.countP_append, tracks.counted limit, List.countP_singleton]
      by_cases below : periods.next < limit
      · simp [below]
        omega
      · simp [below]
        omega
    · cases started
      exact ⟨first, List.mem_append_left _ known, begins⟩
  · have ended : ∀ start, periods.start = some start → ¬ now < start + limiter.window :=
      fun start current inside => within ⟨start, current, inside⟩
    obtain ⟨placed, added⟩ := Periods.add_new ended
    obtain ⟨counters', served, present, absent⟩ := tracks.serve_new admitted ended
    refine ⟨counters', by rw [served, placed], ?_⟩
    rw [added]
    refine ⟨fun request found => ?_, fun request found same begun started => ?_,
      fun limit => ?_, fun begun started => ?_, ⟨Nat.one_pos, fun positive => ?_, absent⟩⟩
    · rcases List.mem_append.mp found with before | last
      · exact (tracks.earlier request before).trans (Nat.le_succ _)
      · obtain rfl := List.mem_singleton.mp last
        exact le_refl (periods.period + 1)
    · cases started
      rcases List.mem_append.mp found with before | last
      · have older : request.period ≤ periods.period := tracks.earlier request before
        simp only at same
        omega
      · exact (List.mem_singleton.mp last) ▸ le_rfl
    · have none_before : periods.requests.countP (fun request =>
          decide (request.period = periods.period + 1 ∧ request.ordinal < limit)) = 0 := by
        refine List.countP_eq_zero.mpr fun request found => ?_
        have older := tracks.earlier request found
        simp only [decide_eq_true_eq, not_and]
        omega
      rw [List.countP_append, none_before, List.countP_singleton]
      by_cases below : 0 < limit
      · simp [below]
        omega
      · simp [below]
        omega
    · cases started
      exact ⟨_, List.mem_append_right _ (List.mem_singleton_self _), rfl⟩
    · rw [present positive]
      congr 2
      show (1 : ℤ) = min ((1 : ℕ) : ℤ) limiter.limit
      omega

end Tracks

/-! ## All windows -/

section Limit

variable (limiter : RateLimiter) (identifier : String)

/-- **The requests let through** are the first ones of each counting period. -/
theorem allowed_eq {times : List Time} (sorted : times.Pairwise (· ≤ ·)) :
    Tracks limiter identifier (served limiter identifier times).1 (periods limiter.window times) ∧
      (number limiter.window times).map Numbered.time = times ∧
      allowed limiter identifier times = ((number limiter.window times).filter
        fun request => request.ordinal < limiter.limit.toNat).map Numbered.time := by
  -- the counter is known after every prefix
  induction times using List.reverseRecOn with
  | nil => exact ⟨Tracks.start limiter identifier, rfl, rfl⟩
  | append_singleton times now ih =>
      obtain ⟨sortedBefore, -, earlier⟩ := List.pairwise_append.mp sorted
      obtain ⟨tracks, timesEq, allowedEq⟩ := ih sortedBefore
      have past : ∀ request ∈ (periods limiter.window times).requests, request.time ≤ now := by
        intro request found
        refine earlier _ ?_ now (List.mem_singleton_self now)
        rw [← timesEq]
        exact List.mem_map_of_mem found
      obtain ⟨counters', served', tracks'⟩ := tracks.serve (allowed limiter identifier times) past
      have split : served limiter identifier times
          = ((served limiter identifier times).1, allowed limiter identifier times) := rfl
      rw [← split, ← served_concat] at served'
      rw [number, periods_concat, allowed, served']
      refine ⟨tracks', ?_, ?_⟩
      · rw [Periods.add, List.map_append, List.map_singleton, Periods.time_place]
        exact congrArg (· ++ [now]) timesEq
      · rw [Periods.add, List.filter_append, List.map_append, allowedEq, List.filter_singleton]
        by_cases first : ((periods limiter.window times).place limiter.window now).ordinal
            < limiter.limit.toNat
        · simp [first, number]
        · simp [first, number]

/-- **The window that ends with a request.**  What it contains of the first
requests of each period is what the earlier periods carry into it, the requests
of its own period, and the request itself. -/
theorem recent_eq {limiter : RateLimiter} {identifier : String} {counters : Counters}
    {periods : Periods} (tracks : Tracks limiter identifier counters periods) {limit : ℕ}
    {length now : Time} (positive : 0 < length)
    (first : (periods.place length now).ordinal < limit) :
    recent length now (((periods.requests.filter fun request => request.ordinal < limit).map
        Numbered.time) ++ [now])
      = carried limit length (periods.place length now) periods.requests
        + (periods.place length now).ordinal + 1 := by
  have inside : now < now + length := lt_add_of_pos_right now positive
  have split : recent length now (((periods.requests.filter fun request =>
        request.ordinal < limit).map Numbered.time) ++ [now])
      = periods.requests.countP (fun request =>
          now < request.time + length ∧ request.ordinal < limit) + 1 := by
    simp [recent, List.countP_append, List.countP_map, List.countP_filter, Function.comp_def,
      inside]
  rw [split]
  by_cases within : ∃ start, periods.start = some start ∧ now < start + length
  · obtain ⟨start, current, within⟩ := within
    obtain ⟨placed, -⟩ := Periods.add_same current within
    rw [placed] at first ⊢
    -- the requests of the current period are all recent
    have own : (periods.requests.filter fun request =>
          !decide (request.period < periods.period)).countP
            (fun request => now < request.time + length ∧ request.ordinal < limit)
        = periods.next := by
      have counted := tracks.counted limit
      rw [min_eq_left (le_of_lt (show periods.next < limit from first))] at counted
      rw [← counted, List.countP_filter]
      refine List.countP_congr fun request found => ?_
      have bound := tracks.earlier request found
      simp only [Bool.and_eq_true, Bool.not_eq_true', decide_eq_true_eq, decide_eq_false_iff_not]
      constructor
      · rintro ⟨⟨-, low⟩, late⟩
        exact ⟨by omega, low⟩
      · rintro ⟨same, low⟩
        have late := tracks.started request found same start current
        exact ⟨⟨within.trans_le (add_le_add_left late length), low⟩, by omega⟩
    have others : (periods.requests.filter fun request => request.period < periods.period).countP
          (fun request => now < request.time + length ∧ request.ordinal < limit)
        = carried limit length ⟨now, periods.period, periods.next⟩ periods.requests := by
      rw [List.countP_filter]
      refine List.countP_congr fun request _ => ?_
      simp only [Bool.and_eq_true, decide_eq_true_eq]
      tauto
    rw [List.countP_eq_countP_filter_add periods.requests _ (fun request =>
      decide (request.period < periods.period)), own, others]
  · obtain ⟨placed, -⟩ := Periods.add_new fun start current inside =>
      within ⟨start, current, inside⟩
    rw [placed, carried, Nat.add_zero]
    congr 1
    refine List.countP_congr fun request found => ?_
    have older : request.period < periods.period + 1 :=
      Nat.lt_succ_of_le (tracks.earlier request found)
    simp only [decide_eq_true_eq, older, true_and]
    exact and_comm

/-- A window without length contains nothing. -/
theorem empty_window {periods : Periods} (limit : ℕ) {length now : Time} (flat : length ≤ 0)
    (past : ∀ request ∈ periods.requests, request.time ≤ now)
    (begun : ∀ start, periods.start = some start → ∃ request ∈ periods.requests,
      request.time = start) {admitted : List Time} (before : ∀ time ∈ admitted, time ≤ now) :
    recent length now (admitted ++ [now]) = 0 ∧
      carried limit length (periods.place length now) periods.requests = 0 ∧
      (periods.place length now).ordinal = 0 := by
  have outside {time : Time} (order : time ≤ now) : ¬ now < time + length :=
    not_lt.mpr ((add_le_of_nonpos_right flat).trans order)
  have ended : ∀ start, periods.start = some start → ¬ now < start + length := by
    intro start current
    obtain ⟨request, known, rfl⟩ := begun start current
    exact outside (past request known)
  obtain ⟨placed, -⟩ := Periods.add_new ended
  refine ⟨List.countP_eq_zero.mpr fun time found => ?_, ?_, by rw [placed]⟩
  · have order : time ≤ now := by
      rcases List.mem_append.mp found with earlier | last
      · exact before time earlier
      · exact (List.mem_singleton.mp last).le
    rw [decide_eq_true_eq]
    exact outside order
  · rw [placed]
    refine List.countP_eq_zero.mpr fun request found => ?_
    rw [decide_eq_true_eq]
    exact fun carried => outside (past request found) carried.2.2

/-- A later request does not count for the earlier ones. -/
theorem separated_concat {limit : ℕ} {length : Time} {requests : List Numbered} {last : Numbered}
    (later : ∀ request ∈ requests, request.period ≤ last.period) :
    Separated limit length (requests ++ [last]) ↔ Separated limit length requests ∧
      (last.ordinal < limit →
        carried limit length last requests + last.ordinal + 1 ≤ limit) := by
  have same {request : Numbered} (bound : request.period ≤ last.period) :
      carried limit length request (requests ++ [last])
        = carried limit length request requests := by
    simp only [carried, List.countP_append, List.countP_singleton]
    simp [not_lt.mpr bound]
  constructor
  · intro separated
    refine ⟨fun request found low => ?_, fun low => ?_⟩
    · rw [← same (later request found)]
      exact separated request (List.mem_append_left _ found) low
    · rw [← same le_rfl]
      exact separated last (List.mem_append_right _ (List.mem_singleton_self _)) low
  · rintro ⟨separated, atLast⟩ request found low
    rcases List.mem_append.mp found with before | isLast
    · rw [same (later request before)]
      exact separated request before low
    · obtain rfl := List.mem_singleton.mp isLast
      rw [same le_rfl]
      exact atLast low

/-- **The limit over sliding windows.**  For every limit, every window length and
every sequence of request times, no half-open window of that length contains more
than the limit of requests that were let through, if and only if every one of the
first requests of a period, with those before it in its period and those that
earlier periods carry into its window, makes at most the limit. -/
theorem within_limit_iff {times : List Time} (sorted : times.Pairwise (· ≤ ·)) :
    WithinLimit limiter.limit.toNat limiter.window (allowed limiter identifier times) ↔
      Separated limiter.limit.toNat limiter.window (number limiter.window times) := by
  induction times using List.reverseRecOn with
  | nil => exact iff_of_true (withinLimit_nil _ _) nofun
  | append_singleton times now ih =>
      obtain ⟨sortedBefore, -, earlier⟩ := List.pairwise_append.mp sorted
      obtain ⟨tracks, timesEq, allowedEq⟩ := allowed_eq limiter identifier sortedBefore
      have allowedNow := (allowed_eq limiter identifier sorted).2.2
      have numberNow : number limiter.window (times ++ [now]) = number limiter.window times
          ++ [(periods limiter.window times).place limiter.window now] := by
        rw [number, periods_concat]
        rfl
      have past : ∀ request ∈ (periods limiter.window times).requests, request.time ≤ now := by
        intro request found
        refine earlier _ ?_ now (List.mem_singleton_self now)
        rw [← timesEq]
        exact List.mem_map_of_mem found
      rw [numberNow, separated_concat, ← ih sortedBefore, allowedNow, numberNow,
        List.filter_append, List.map_append, List.filter_singleton, ← allowedEq]
      · by_cases first : ((periods limiter.window times).place limiter.window now).ordinal
            < limiter.limit.toNat
        · have growing : (allowed limiter identifier times ++ [now]).Pairwise (· ≤ ·) := by
            refine sorted.sublist (List.Sublist.append_right ?_ [now])
            rw [allowedEq]
            have kept := (List.filter_sublist (l := number limiter.window times)
              (p := fun request => request.ordinal < limiter.limit.toNat)).map Numbered.time
            rwa [timesEq] at kept
          simp only [first, decide_true, cond_true, List.map_singleton, Periods.time_place,
            true_imp_iff]
          rw [withinLimit_concat growing]
          refine and_congr_right fun _ => ?_
          by_cases positive : 0 < limiter.window
          · rw [allowedEq, number, recent_eq tracks positive first]
          · have known : ∀ time ∈ allowed limiter identifier times, time ≤ now := fun time found =>
              (List.pairwise_append.mp growing).2.2 time found now (List.mem_singleton_self now)
            obtain ⟨window, carriedZero, ordinalZero⟩ :=
              empty_window limiter.limit.toNat (not_lt.mp positive) past tracks.begun known
            rw [window, number, carriedZero, ordinalZero]
            omega
        · simp [first]
      · intro request found
        refine (tracks.earlier request found).trans ?_
        unfold Periods.place
        split
        · exact le_rfl
        · exact Nat.le_succ _

end Limit

/-! ### Requests around a reset -/

namespace Sample

/-- Two requests in a second. -/
def limiter : RateLimiter := ⟨"test", 2, 1⟩

end Sample

theorem within_limit_iff_sample :
    WithinLimit 2 second (allowed Sample.limiter "user-1" [0, 0, 3 * second, 3 * second]) :=
  (within_limit_iff Sample.limiter "user-1" (by decide)).mpr (by decide +kernel)

/-- **Two windows' worth of requests.**  One request starts the counter, one comes
just before it disappears, and two come right after: three of them lie within one
second. -/
theorem window_exceeded :
    let times : List Time := [0, second - 1, second, second]
    times.Pairwise (· ≤ ·) ∧ allowed Sample.limiter "user-1" times = times ∧
      inWindow Sample.limiter.window (second - 1) (allowed Sample.limiter "user-1" times) = 3 := by
  refine ⟨?_, ?_, ?_⟩ <;> decide +kernel

end Ticketing.RateLimiting
