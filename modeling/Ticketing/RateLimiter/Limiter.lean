import Ticketing.Transactional.Program
import Ticketing.Transactional.Cache
import Ticketing.Checkout.Store

/-!
# The rate limiter

`core/rate_limiter.py`, statement by statement, over the cache.

## Main Definitions

* `RateLimiter` — a limiter of one scope
* `isAllowed`, `remaining` — its two methods
* `cacheExec`, `cacheStore` — the cache as one client sees it

## Design Notes

`cache.incr` keeps the TTL of its key and raises `ValueError` for a key that is
not there.
-/

namespace Ticketing.RateLimiting

open Transactional

/-- A counter cache. -/
abbrev Counters := Cache String ℤ Time

inductive Stmt
  /-- `cache.get(key)`. -/
  | get (key : String)
  /-- `cache.set(key, value, ttl)`. -/
  | set (key : String) (value ttl : ℤ)
  /-- `cache.incr(key)`. -/
  | incr (key : String)

@[reducible] def Stmt.Res : Stmt → Type
  | .get _ => Option ℤ
  | .set .. => Unit
  | .incr _ => ℤ

/-- The statements of the limiter. -/
@[reducible] def signature : Signature where
  Stmt := Stmt
  Res := Stmt.Res

/-- The exceptions of the limiter. -/
inductive LimiterError
  /-- `ValueError`: `cache.incr` of a missing key. -/
  | missingKey
  /-- A lost connection, a killed worker. -/
  | connection
  deriving DecidableEq

/-- Limiter programs. -/
abbrev Limiter := Program signature LimiterError

/-- `RateLimiter`. -/
structure RateLimiter where
  scope : String
  limit : ℤ
  windowSeconds : ℤ

namespace RateLimiter

variable (limiter : RateLimiter) (identifier : String)

/-- `_key`. -/
def key : String := "rate:" ++ limiter.scope ++ ":" ++ identifier

/-- The window as a time span. -/
def window : Time := limiter.windowSeconds * second

/-- What `is_allowed` does once its counter has been read. -/
def afterGet (cached : Option ℤ) : Limiter (Bool × ℤ) :=
  let count := cached.getD 0
  if count ≥ limiter.limit then return (false, count)
  -- nothing ties this write to the read above
  else if count = 0 then do
    Program.send (S := signature) (.set (limiter.key identifier) 1 limiter.windowSeconds)
    return (true, 1)
  else do
    let newCount ← Program.send (S := signature) (.incr (limiter.key identifier))
    return (true, newCount)

/-- `is_allowed`. -/
def isAllowed : Limiter (Bool × ℤ) := do
  let cached ← Program.send (S := signature) (.get (limiter.key identifier))
  limiter.afterGet identifier cached

/-- `remaining`. -/
def remaining : Limiter ℤ := do
  let cached ← Program.send (S := signature) (.get (limiter.key identifier))
  return max 0 (limiter.limit - cached.getD 0)

end RateLimiter

/-- `checkout_limiter`. -/
def checkoutLimiter : RateLimiter := ⟨"checkout", 10, 60⟩

/-- `login_limiter`. -/
def loginLimiter : RateLimiter := ⟨"login", 5, 300⟩

/-- One statement at `now`. -/
def cacheExec (now : Time) : (stmt : Stmt) → Counters → Except LimiterError (stmt.Res × Counters)
  | .get key, counters => .ok (counters.live now key, counters)
  | .set key value ttl, counters => .ok ((), counters.store key value (now + ttl * second))
  | .incr key, counters =>
      match counters key with
      | none => .error .missingKey
      | some (value, expiry) =>
          -- `incr` keeps the expiry of the first request of the window
          if now < expiry then .ok (value + 1, counters.store key (value + 1) expiry)
          else .error .missingKey

/-- The cache as a single client sees it; there is no transaction. -/
def cacheStore : Store signature Time Counters LimiterError where
  exec := cacheExec
  rollback _ counters := counters

end Ticketing.RateLimiting
