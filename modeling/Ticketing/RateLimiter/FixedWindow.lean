import Ticketing.Transactional.Trail
import Ticketing.RateLimiter.Serial

/-!
# The limiter as a fixed-window counter

Any number of limiters over one cache, each asked about any identifiers, one call at a time.

## Main Definitions

* `LimiterCall`, `serveCall` — a call of one of the limiters, and what it answers
* `Window`, `reference` — a counter with an explicit window, which serves the calls of one
  scope and identifier
* `Mirrors` — a cache entry is a window

## Main Results

* `key_injective` — scopes without a colon keep the cache keys apart
* `serveCall_mirrors` — one call, answered by the reference counter
* `fixed_window` — each identifier of each limiter has a counter of its own

## Design Notes

An entry that has expired stays in the cache, and a window that has closed stays with the
reference counter: neither is found again, since instants only grow.
-/

namespace Ticketing.RateLimiting

open Transactional

/-! ## Calls -/

inductive Method
  | isAllowed
  | remaining
  deriving DecidableEq

/-- A call of one of the limiters `κ`. -/
structure LimiterCall (κ : Type) where
  limiter : κ
  identifier : String
  method : Method
  time : Time

/-- How a call ends. -/
inductive Reply
  | isAllowed (outcome : Outcome LimiterError (Bool × ℤ))
  | remaining (outcome : Outcome LimiterError ℤ)
  deriving DecidableEq

/-- One complete call of `remaining` at `now`. -/
def callRemaining (limiter : RateLimiter) (identifier : String) (now : Time)
    (counters : Counters) : Outcome LimiterError ℤ × Counters :=
  (limiter.remaining identifier).run cacheStore none (fun _ => now) none counters

/-- One call, alone on the cache. -/
def serveCall {κ : Type} (limiters : κ → RateLimiter) (counters : Counters)
    (request : LimiterCall κ) : Reply × Counters :=
  let limiter := limiters request.limiter
  match request.method with
  | .isAllowed =>
      let (outcome, counters) := call limiter request.identifier request.time counters
      (.isAllowed outcome, counters)
  | .remaining =>
      let (outcome, counters) := callRemaining limiter request.identifier request.time counters
      (.remaining outcome, counters)

/-! ## The reference counter -/

/-- A window: when it opened, and how many requests have been allowed in it. -/
structure Window where
  opened : Time
  allowed : ℤ
  deriving DecidableEq

/-- The window that is open at `now`. -/
def openWindow (length now : Time) (window : Option Window) : Option Window :=
  window.filter fun window => now < window.opened + length

/-- One request of the reference counter: the first `limit` requests of a window are allowed
and numbered; the first of them opens it. -/
def allow (limit : ℤ) (length now : Time) (window : Option Window) :
    (Bool × ℤ) × Option Window :=
  match openWindow length now window with
  | none => if 0 < limit then ((true, 1), some ⟨now, 1⟩) else ((false, limit), window)
  | some current =>
      if current.allowed < limit then
        ((true, current.allowed + 1), some ⟨current.opened, current.allowed + 1⟩)
      else ((false, limit), window)

/-- What the reference counter has left at `now`. -/
def left (limit : ℤ) (length now : Time) (window : Option Window) : ℤ :=
  limit - ((openWindow length now window).map Window.allowed).getD 0

/-- The reference counter, which raises nothing. -/
def reference {κ : Type} (limit : ℤ) (length : Time) (window : Option Window)
    (request : LimiterCall κ) : Reply × Option Window :=
  match request.method with
  | .isAllowed =>
      let (answer, window) := allow limit length request.time window
      (.isAllowed (.returned answer), window)
  | .remaining => (.remaining (.returned (left limit length request.time window)), window)

/-! ## Keys -/

/-- The first separator splits a list in one way only. -/
theorem separated_inj {α : Type} {separator : α} {front front' back back' : List α}
    (plain : separator ∉ front) (plain' : separator ∉ front')
    (same : front ++ separator :: back = front' ++ separator :: back') :
    front = front' ∧ back = back' := by
  rcases List.append_eq_append_iff.mp same with ⟨rest, rfl, split⟩ | ⟨rest, rfl, split⟩
  · cases rest with
    | nil => exact ⟨(List.append_nil _).symm, (List.cons.inj split).2⟩
    | cons first rest =>
        obtain ⟨rfl, -⟩ := List.cons.inj split
        exact absurd (List.mem_append_right _ List.mem_cons_self) plain'
  · cases rest with
    | nil => exact ⟨List.append_nil _, (List.cons.inj split).2.symm⟩
    | cons first rest =>
        obtain ⟨rfl, -⟩ := List.cons.inj split
        exact absurd (List.mem_append_right _ List.mem_cons_self) plain

/-- **Scopes without a colon keep the keys apart**, whatever the identifiers contain. -/
theorem key_injective {first second : RateLimiter} {identifier identifier' : String}
    (plain : ':' ∉ first.scope.toList) (plain' : ':' ∉ second.scope.toList)
    (same : first.key identifier = second.key identifier') :
    first.scope = second.scope ∧ identifier = identifier' := by
  have texts := congrArg String.toList same
  simp only [RateLimiter.key, String.toList_append, List.append_assoc] at texts
  have parts : first.scope.toList ++ ':' :: identifier.toList
      = second.scope.toList ++ ':' :: identifier'.toList := List.append_cancel_left texts
  -- the first colon after the prefix ends the scope
  obtain ⟨scopes, identifiers⟩ := separated_inj plain plain' parts
  exact ⟨String.toList_injective scopes, String.toList_injective identifiers⟩

section Mirrors

variable {limiter : RateLimiter} {identifier : String} {counters : Counters}
  {window : Option Window}

/-- The counter of an identifier is a window, with the instant at which it closes; at least
one request and at most the limit have been allowed in it. -/
structure Mirrors (limiter : RateLimiter) (identifier : String) (counters : Counters)
    (window : Option Window) : Prop where
  entry : counters (limiter.key identifier)
    = window.map fun window => (window.allowed, window.opened + limiter.window)
  started : ∀ current, window = some current → 0 < current.allowed
  within : ∀ current, window = some current → current.allowed ≤ limiter.limit

namespace Mirrors

theorem start (limiter : RateLimiter) (identifier : String) :
    Mirrors limiter identifier Cache.empty none where
  entry := rfl
  started := nofun
  within := nofun

/-- A reader finds the open window. -/
theorem live_eq (mirrors : Mirrors limiter identifier counters window) (now : Time) :
    counters.live now (limiter.key identifier)
      = (openWindow limiter.window now window).map Window.allowed := by
  rw [Cache.live, mirrors.entry, openWindow]
  cases window with
  | none => rfl
  | some current =>
      by_cases isOpen : now < current.opened + limiter.window <;> simp [Option.filter, isOpen]

/-- A counter that is written is the window it is written for. -/
theorem store {opened : Time} {allowed : ℤ} (positive : 0 < allowed)
    (bounded : allowed ≤ limiter.limit) (counters : Counters) :
    Mirrors limiter identifier
      (counters.store (limiter.key identifier) allowed (opened + limiter.window))
      (some ⟨opened, allowed⟩) where
  entry := Cache.store_self _ _ _ _
  started := by
    rintro _ ⟨⟩
    exact positive
  within := by
    rintro _ ⟨⟩
    exact bounded

/-- Writing other keys changes nothing. -/
theorem congr {counters' : Counters} (mirrors : Mirrors limiter identifier counters window)
    (same : counters' (limiter.key identifier) = counters (limiter.key identifier)) :
    Mirrors limiter identifier counters' window :=
  ⟨same.trans mirrors.entry, mirrors.started, mirrors.within⟩

/-- **One request**, for a limit that counts as 0 where it is negative. -/
theorem allow (mirrors : Mirrors limiter identifier counters window) (now : Time) :
    (call limiter identifier now counters).1
        = .returned (RateLimiting.allow (max 0 limiter.limit) limiter.window now window).1 ∧
      Mirrors limiter identifier (call limiter identifier now counters).2
        (RateLimiting.allow (max 0 limiter.limit) limiter.window now window).2 := by
  have found := mirrors.live_eq now
  unfold RateLimiting.allow
  cases current : openWindow limiter.window now window with
  | none =>
      rw [current] at found
      rw [call_of_missing limiter identifier now counters found]
      by_cases positive : 0 < limiter.limit
      · simp only [if_neg (not_le.mpr positive), max_eq_right positive.le, if_pos positive]
        exact ⟨trivial, .store one_pos positive counters⟩
      · have zero : max 0 limiter.limit = 0 := max_eq_left (not_lt.mp positive)
        simp only [if_pos (not_lt.mp positive), zero, lt_irrefl, if_false]
        exact ⟨trivial, mirrors⟩
  | some present =>
      obtain ⟨isWindow, isOpen⟩ := Option.filter_eq_some_iff.mp current
      have started := mirrors.started present isWindow
      have within := mirrors.within present isWindow
      have limit : max 0 limiter.limit = limiter.limit :=
        max_eq_right (started.le.trans within)
      have entry := mirrors.entry
      rw [isWindow] at entry
      rw [call_of_counted limiter identifier now counters started entry
        (of_decide_eq_true isOpen), limit]
      by_cases full : present.allowed < limiter.limit
      · simp only [if_neg (not_le.mpr full), if_pos full]
        exact ⟨trivial, .store (Int.lt_add_one_of_le started.le) full counters⟩
      · have isLimit : present.allowed = limiter.limit := le_antisymm within (not_lt.mp full)
        simp only [if_pos (not_lt.mp full), if_neg full]
        exact ⟨by rw [isLimit], mirrors⟩

/-- **One reading of what is left.** -/
theorem remaining (mirrors : Mirrors limiter identifier counters window) (now : Time) :
    callRemaining limiter identifier now counters
      = (.returned (left (max 0 limiter.limit) limiter.window now window), counters) := by
  have found := mirrors.live_eq now
  simp only [callRemaining, RateLimiter.remaining, Program.send, Program.call_bind,
    Program.done_bind, Program.run_call, cacheStore, cacheExec, found, left]
  cases current : openWindow limiter.window now window with
  | none => simp [Option.getD]
  | some present =>
      obtain ⟨isWindow, -⟩ := Option.filter_eq_some_iff.mp current
      have started := mirrors.started present isWindow
      have within := mirrors.within present isWindow
      have limit : max 0 limiter.limit = limiter.limit :=
        max_eq_right (started.le.trans within)
      have leftOver : max 0 (limiter.limit - present.allowed) = limiter.limit - present.allowed :=
        max_eq_right (sub_nonneg.mpr within)
      simp [limit, leftOver]

end Mirrors

/-- A call writes no key but its own. -/
theorem call_of_ne (limiter : RateLimiter) (identifier : String) (now : Time)
    (counters : Counters) {key : String} (different : key ≠ limiter.key identifier) :
    (call limiter identifier now counters).2 key = counters key := by
  simp only [call, RateLimiter.isAllowed, Program.send, Program.call_bind, Program.done_bind,
    Program.run_call, cacheStore, cacheExec, RateLimiter.afterGet]
  split
  · rfl
  · split
    · exact Cache.store_of_ne _ _ _ different
    · simp only [Program.run_call, cacheExec]
      cases counters (limiter.key identifier) with
      | none => rfl
      | some entry =>
          obtain ⟨value, expiry⟩ := entry
          by_cases alive : now < expiry
          · simp only [if_pos alive]
            exact Cache.store_of_ne _ _ _ different
          · simp only [if_neg alive]
            rfl

end Mirrors

/-! ## Sequences of calls -/

section Calls

variable {κ : Type} {limiters : κ → RateLimiter} {k : κ} {identifier : String}
  {counters : Counters} {window : Option Window}

/-- **One call of an identifier** is answered as its reference counter answers it. -/
theorem serveCall_mirrors (mirrors : Mirrors (limiters k) identifier counters window)
    {request : LimiterCall κ} (isLimiter : request.limiter = k)
    (isIdentifier : request.identifier = identifier) :
    let served := reference (max 0 (limiters k).limit) (limiters k).window window request
    (serveCall limiters counters request).1 = served.1 ∧
      Mirrors (limiters k) identifier (serveCall limiters counters request).2 served.2 := by
  obtain ⟨_, _, method, time⟩ := request
  obtain rfl : _ = k := isLimiter
  obtain rfl : _ = identifier := isIdentifier
  cases method with
  | isAllowed =>
      obtain ⟨answer, next⟩ := mirrors.allow time
      exact ⟨congrArg Reply.isAllowed answer, next⟩
  | remaining =>
      have answer := mirrors.remaining time
      simp only [serveCall, reference, answer]
      exact ⟨trivial, mirrors⟩

/-- A call of another identifier, or of a limiter of another scope, changes nothing. -/
theorem serveCall_of_ne (plain : ∀ k, ':' ∉ (limiters k).scope.toList)
    (distinct : Function.Injective fun k => (limiters k).scope)
    (mirrors : Mirrors (limiters k) identifier counters window) {request : LimiterCall κ}
    (other : ¬ (request.limiter = k ∧ request.identifier = identifier)) :
    Mirrors (limiters k) identifier (serveCall limiters counters request).2 window := by
  have different : (limiters k).key identifier
      ≠ (limiters request.limiter).key request.identifier := by
    intro same
    obtain ⟨scopes, identifiers⟩ := key_injective (plain k) (plain request.limiter) same
    exact other ⟨(distinct scopes).symm, identifiers.symm⟩
  refine mirrors.congr ?_
  unfold serveCall
  cases request.method with
  | isAllowed => exact call_of_ne _ _ _ _ different
  | remaining => rfl

variable [DecidableEq κ]

/-- The calls of one identifier at one limiter. -/
def callsOf (k : κ) (identifier : String) (request : LimiterCall κ) : Bool :=
  decide (request.limiter = k ∧ request.identifier = identifier)

/-- **Every identifier of every limiter has a fixed-window counter of its own.**  For any
limiters whose scopes differ and contain no colon, and any sequence of calls, the answers to
the calls of one identifier at one limiter are those of a reference counter that sees these
calls alone; a negative limit counts as 0. -/
theorem fixed_window (limiters : κ → RateLimiter) (plain : ∀ k, ':' ∉ (limiters k).scope.toList)
    (distinct : Function.Injective fun k => (limiters k).scope) (calls : List (LimiterCall κ))
    (k : κ) (identifier : String) :
    answersTo (callsOf k identifier) calls (replay (serveCall limiters) calls Cache.empty).1
      = (replay (reference (max 0 (limiters k).limit) (limiters k).window)
          (calls.filter (callsOf k identifier)) none).1 := by
  refine answersTo_replay (Mirrors (limiters k) identifier)
    (fun counters window request mirrors mine => ?_)
    (fun counters window request mirrors other => ?_) calls (.start _ _)
  · obtain ⟨isLimiter, isIdentifier⟩ := of_decide_eq_true mine
    exact serveCall_mirrors mirrors isLimiter isIdentifier
  · exact serveCall_of_ne plain distinct mirrors (of_decide_eq_false other)

end Calls

namespace Sample

/-- Two limiters of different scopes. -/
def limiters : Bool → RateLimiter
  | false => ⟨"checkout", 1, 60⟩
  | true => ⟨"login", 5, 300⟩

/-- Both are asked about one identifier. -/
def calls : List (LimiterCall Bool) :=
  [⟨false, "ip:1.2.3.4", .isAllowed, 0⟩, ⟨true, "ip:1.2.3.4", .isAllowed, 1⟩,
    ⟨false, "ip:1.2.3.4", .isAllowed, 2⟩]

end Sample

theorem fixed_window_sample :
    answersTo (callsOf false "ip:1.2.3.4") Sample.calls
        (replay (serveCall Sample.limiters) Sample.calls Cache.empty).1
      = [.isAllowed (.returned (true, 1)), .isAllowed (.returned (false, 1))] := by
  refine (fixed_window Sample.limiters ?_ ?_ Sample.calls false "ip:1.2.3.4").trans ?_
  · decide
  · decide
  · decide +kernel

/-- **A negative limit.**  Requests are refused with the count 0, and 0 are left: neither is
the limit. -/
theorem negative_limit :
    let limiter : RateLimiter := ⟨"test", -1, 60⟩
    let calls : List (LimiterCall Unit) :=
      [⟨(), "user-1", .isAllowed, 0⟩, ⟨(), "user-1", .remaining, 0⟩]
    ':' ∉ limiter.scope.toList ∧
      (replay (serveCall fun _ => limiter) calls Cache.empty).1
        = [.isAllowed (.returned (false, 0)), .remaining (.returned 0)] ∧
      (replay (reference limiter.limit limiter.window) calls none).1
        = [.isAllowed (.returned (false, -1)), .remaining (.returned (-1))] := by
  refine ⟨?_, ?_, ?_⟩ <;> decide +kernel

end Ticketing.RateLimiting
