import Ticketing.Transactional.Keyspace
import Ticketing.Checkout.Registry
import Ticketing.Checkout.RegistryText
import Ticketing.Companies.SlugIndex
import Ticketing.Inventory.Availability
import Ticketing.RateLimiter.Limiter
import Ticketing.Webhooks.Handlers

/-!
# One Redis for every cache

The hold registry, the availability cache, the slug index, the idempotency store
and the rate limiter all write to Django's one cache, as texts and integers under
text keys.  Their models give each of them a map of its own.  This module puts
the one cache under these maps.

## Main Definitions

* `CacheKind` — the users of the cache, with their key prefixes and values
* `Stored`, `sharedCache` — the objects in Redis, and how each user's look there
* `CacheCall` — a call of the cache API, as its user makes it
* `Components` — the stores of the models, and what they answer to a call

## Main Results

* `shared_cache_refines` — the one cache answers every call as the models say

## Design Notes

The sorted set `hold_expiry_zset` and the hash `checkin_registry` are written
through the raw client, whose keys lack the `:1:` that Django puts in front.
-/

namespace Ticketing

open Transactional

/-- An object in Redis: a pickled text, or an integer as it is. -/
inductive Stored
  | text (text : String)
  | int (value : ℤ)
  deriving DecidableEq

/-- The users of the cache. -/
inductive CacheKind
  | hold
  | availability
  | slug
  | payment
  | counter
  deriving DecidableEq

namespace CacheKind

/-- What the keys of a user start with. -/
def keyPrefix : CacheKind → String
  | hold => "hold:"
  | availability => "tier_avail:"
  | slug => "company_slug:"
  | payment => "idem:payment:"
  | counter => "rate:"

/-- The values a user keeps. -/
@[reducible] def Value : CacheKind → Type
  | hold => HoldEntry
  | availability => ℤ
  | slug => String
  | payment => Ticketing.Value
  | counter => ℤ

/-- `make_key`, with Django's default prefix and version. -/
def key (kind : CacheKind) (rest : String) : String := ":1:" ++ (kind.keyPrefix ++ rest)

/-- A value as it is stored. -/
def encode : (kind : CacheKind) → kind.Value → Stored
  | hold, entry => .text entry.text
  | availability, quantity => .int quantity
  | slug, companyId => .text companyId
  | payment, result => .text (String.ofList (Json.dumps result))
  | counter, count => .int count

/-- What a user makes of a stored object; `none` where it raises. -/
def decode (repr : String → String) : (kind : CacheKind) → Stored → Option kind.Value
  | hold, .text text => HoldEntry.ofText repr text
  | availability, .int quantity => some quantity
  | slug, .text companyId => some companyId
  | payment, .text text => Json.loads repr text
  | counter, .int count => some count
  | _, _ => none

/-- No key of one user is a key of another. -/
theorem key_apart {kind kind' : CacheKind} {rest rest' : String}
    (same : kind.key rest = kind'.key rest') : kind = kind' ∧ rest = rest' := by
  have texts := congrArg String.toList same
  simp only [key, String.toList_append, List.append_cancel_left_eq] at texts
  have first : kind.keyPrefix.toList.head? = kind'.keyPrefix.toList.head? := by
    have heads := congrArg List.head? texts
    cases kind <;> cases kind' <;> exact heads
  obtain rfl : kind = kind' := by
    cases kind <;> cases kind' <;> first | rfl | simp [keyPrefix] at first
  exact ⟨rfl, String.toList_inj.mp (List.append_cancel_left texts)⟩

end CacheKind

/-- The one cache behind its users. -/
def sharedCache (repr : String → String) :
    Keyspace CacheKind (fun _ => String) CacheKind.Value String Stored where
  key := CacheKind.key
  encode := CacheKind.encode
  decode := CacheKind.decode repr
  apart same := by
    obtain ⟨rfl, rfl⟩ := CacheKind.key_apart same
    rfl

/-! ## The calls of the users -/

/-- A call of the cache API. -/
inductive CacheCall
  /-- `register_hold`, with the TTL it has computed. -/
  | setHold (token : String) (entry : HoldEntry) (ttl : ℤ)
  /-- `get_hold`. -/
  | getHold (token : String)
  /-- `release_hold`. -/
  | deleteHold (token : String)
  /-- `set_cached_availability`. -/
  | setAvailability (tierId : String) (quantity : ℤ)
  /-- `get_cached_availability`. -/
  | getAvailability (tierId : String)
  /-- `invalidate_availability`. -/
  | deleteAvailability (tierId : String)
  /-- The write of `get_company_id_by_slug` and of `warm_slug_cache`. -/
  | setSlug (slug companyId : String)
  /-- The read of `get_company_id_by_slug`. -/
  | getSlug (slug : String)
  /-- `invalidate_slug`. -/
  | deleteSlug (slug : String)
  /-- `mark_processed`. -/
  | setPayment (paymentId : String) (result : Value)
  /-- `is_processed` and `get_result`. -/
  | getPayment (paymentId : String)
  /-- The first request of a window. -/
  | setCounter (limiter : RateLimiting.RateLimiter) (identifier : String)
  /-- The read of `is_allowed` and of `remaining`. -/
  | getCounter (limiter : RateLimiting.RateLimiter) (identifier : String)
  /-- A later request of a window. -/
  | incrCounter (limiter : RateLimiting.RateLimiter) (identifier : String)

namespace CacheCall

/-- Whose call it is. -/
@[reducible] def kind : CacheCall → CacheKind
  | setHold .. | getHold _ | deleteHold _ => .hold
  | setAvailability .. | getAvailability _ | deleteAvailability _ => .availability
  | setSlug .. | getSlug _ | deleteSlug _ => .slug
  | setPayment .. | getPayment _ => .payment
  | setCounter .. | getCounter .. | incrCounter .. => .counter

/-- The key of a counter, after its prefix. -/
def counterKey (limiter : RateLimiting.RateLimiter) (identifier : String) : String :=
  limiter.scope ++ ":" ++ identifier

/-- The command that the call sends at `now`. -/
def command (now : Time) : (call : CacheCall) → Command String call.kind.Value Time
  | setHold token entry ttl => .set token entry (now + ttl * second)
  | getHold token => .get token
  | deleteHold token => .delete token
  | setAvailability tierId quantity =>
      .set tierId quantity (now + Availability.availabilityTtl * second)
  | getAvailability tierId => .get tierId
  | deleteAvailability tierId => .delete tierId
  | setSlug slug companyId => .set slug companyId (now + slugCacheTtl)
  | getSlug slug => .get slug
  | deleteSlug slug => .delete slug
  | setPayment paymentId result => .set paymentId result (now + Webhooks.idemTtl * second)
  | getPayment paymentId => .get paymentId
  | setCounter limiter identifier =>
      .set (counterKey limiter identifier) (1 : ℤ) (now + limiter.windowSeconds * second)
  | getCounter limiter identifier => .get (counterKey limiter identifier)
  | incrCounter limiter identifier =>
      .update (counterKey limiter identifier) fun count : ℤ => count + 1

/-- What the call writes can be printed. -/
def Printable (repr : String → String) : CacheCall → Prop
  | setHold _ entry _ => entry.Storable
  | setPayment _ result => Json.Printable repr result
  | _ => True

end CacheCall

/-! ## The stores of the models -/

/-- The stores that the models give to the users of the cache. -/
structure Components where
  redis : Redis
  slugs : Cache String String Time
  webhooks : Webhooks.Stores
  counters : RateLimiting.Counters

namespace Components

/-- A read that found what it looked for, or nothing. -/
def answered {V : Type} : Option V → Reply V
  | some value => .found value
  | none => .missing

/-- What the models answer to a call at `now`, and what they keep. -/
def exec (now : Time) :
    (call : CacheCall) → Components → Reply call.kind.Value × Components
  | .setHold token entry ttl, stores =>
      (.done, { stores with
        redis := (stores.redis.exec (Input.plain now (Uuid.ofNat 0))
          (.setHold token entry ttl)).2 })
  | .getHold token, stores => (answered (getHold stores.redis now token), stores)
  | .deleteHold token, stores =>
      (.done, { stores with
        redis := (stores.redis.exec (Input.plain now (Uuid.ofNat 0)) (.deleteHold token)).2 })
  | .setAvailability tierId quantity, stores =>
      (.done, { stores with
        redis := Availability.setCachedAvailability stores.redis now tierId quantity })
  | .getAvailability tierId, stores =>
      (answered (Availability.getCachedAvailability stores.redis now tierId), stores)
  | .deleteAvailability tierId, stores =>
      (.done, { stores with
        redis := (stores.redis.exec (Input.plain now (Uuid.ofNat 0))
          (.deleteAvailability tierId)).2 })
  | .setSlug slug companyId, stores =>
      (.done, { stores with slugs := stores.slugs.store slug companyId (now + slugCacheTtl) })
  | .getSlug slug, stores => (answered (stores.slugs.live now slug), stores)
  | .deleteSlug slug, stores => (.done, { stores with slugs := stores.slugs.remove slug })
  | .setPayment paymentId result, stores =>
      (.done, { stores with
        webhooks := stores.webhooks.setCached now (Webhooks.idemKey paymentId) result
          Webhooks.idemTtl })
  | .getPayment paymentId, stores =>
      (answered (stores.webhooks.cached now (Webhooks.idemKey paymentId)), stores)
  | .setCounter limiter identifier, stores =>
      (.done, { stores with
        counters := stores.counters.store (limiter.key identifier) 1
          (now + limiter.windowSeconds * second) })
  | .getCounter limiter identifier, stores =>
      (answered (stores.counters.live now (limiter.key identifier)), stores)
  | .incrCounter limiter identifier, stores =>
      match RateLimiting.cacheExec now (.incr (limiter.key identifier)) stores.counters with
      | .ok (count, counters) => (.found count, { stores with counters })
      | .error _ => (.missing, stores)

/-- The stores as one cache for each user. -/
def caches (stores : Components) : ∀ kind : CacheKind, Cache String kind.Value Time
  | .hold => stores.redis.registry
  | .availability => stores.redis.availability
  | .slug => stores.slugs
  | .payment => fun paymentId => stores.webhooks.cache (Webhooks.idemKey paymentId)
  | .counter => fun rest => stores.counters ("rate:" ++ rest)

theorem idemKey_injective : Function.Injective Webhooks.idemKey := fun _ _ same =>
  String.toList_inj.mp (List.append_cancel_left (by
    simpa only [Webhooks.idemKey, String.toList_append] using congrArg String.toList same))

/-- A read of a user's cache. -/
theorem exec_get {V : Type} (cache : Cache String V Time) (now : Time) (key : String) :
    Command.exec now (.get key) cache = (answered (cache.live now key), cache) := by
  simp only [Command.exec]
  cases cache.live now key with
  | none => rfl
  | some value => rfl

theorem getHold_eq_live (redis : Redis) (now : Time) (token : String) :
    getHold redis now token = Cache.live redis.registry now token := by
  simp only [getHold, HoldEntry.fromDict_toDict]
  exact Option.bind_fun_some _

theorem cached_eq_live (stores : Webhooks.Stores) (now : Time) (key : String) :
    stores.cached now key = Cache.live stores.cache now key := by
  unfold Webhooks.Stores.cached Cache.live
  cases stores.cache key with
  | none => rfl
  | some entry =>
      by_cases alive : now < entry.2
      · simp [Option.filter, alive]
      · simp [Option.filter, alive]

/-- A counter's key is its prefix and the rest. -/
theorem limiter_key (limiter : RateLimiting.RateLimiter) (identifier : String) :
    limiter.key identifier = "rate:" ++ CacheCall.counterKey limiter identifier := by
  simp [RateLimiting.RateLimiter.key, CacheCall.counterKey, String.append_assoc]

theorem rate_injective : Function.Injective fun rest : String => "rate:" ++ rest := fun _ _ same =>
  String.toList_inj.mp (List.append_cancel_left (by
    simpa only [String.toList_append] using congrArg String.toList same))

/-- A read leaves the stores alone, and answers what is live in its user's cache. -/
theorem exec_eq_of_get {kind : CacheKind} {stores after : Components} {now : Time} {key : String}
    {reply : Reply kind.Value} (same : after = stores)
    (read : reply = answered (Cache.live (stores.caches kind) now key)) :
    reply = (Command.exec now (.get key) (stores.caches kind)).1 ∧
      after.caches = Function.update stores.caches kind
        (Command.exec now (.get key) (stores.caches kind)).2 := by
  rw [exec_get, same, Function.update_eq_self]
  exact ⟨read, rfl⟩

/-- **Each call is a command of its user's own cache.** -/
theorem exec_eq (stores : Components) (now : Time) (call : CacheCall) :
    (exec now call stores).1 = ((call.command now).exec now (stores.caches call.kind)).1 ∧
      (exec now call stores).2.caches
        = Function.update stores.caches call.kind
            ((call.command now).exec now (stores.caches call.kind)).2 := by
  cases call with
  | setHold token entry ttl =>
      refine ⟨rfl, funext fun kind => ?_⟩
      cases kind <;> rfl
  | getHold token =>
      exact exec_eq_of_get rfl (congrArg answered (getHold_eq_live ..))
  | deleteHold token =>
      refine ⟨rfl, funext fun kind => ?_⟩
      cases kind <;> rfl
  | setAvailability tierId quantity =>
      refine ⟨rfl, funext fun kind => ?_⟩
      cases kind <;> rfl
  | getAvailability tierId => exact exec_eq_of_get rfl rfl
  | deleteAvailability tierId =>
      refine ⟨rfl, funext fun kind => ?_⟩
      cases kind <;> rfl
  | setSlug slug companyId =>
      refine ⟨rfl, funext fun kind => ?_⟩
      cases kind <;> rfl
  | getSlug slug => exact exec_eq_of_get rfl rfl
  | deleteSlug slug =>
      refine ⟨rfl, funext fun kind => ?_⟩
      cases kind <;> rfl
  | setPayment paymentId result =>
      have write := Function.update_comp_eq_of_injective stores.webhooks.cache idemKey_injective
        paymentId (some (result, now + Webhooks.idemTtl * second))
      refine ⟨rfl, funext fun kind => ?_⟩
      cases kind with
      | payment => exact write
      | _ => rfl
  | getPayment paymentId =>
      exact exec_eq_of_get rfl (congrArg answered (cached_eq_live ..))
  | setCounter limiter identifier =>
      have write := Function.update_comp_eq_of_injective stores.counters rate_injective
        (CacheCall.counterKey limiter identifier)
        (some ((1 : ℤ), now + limiter.windowSeconds * second))
      simp only [← limiter_key] at write
      refine ⟨rfl, funext fun kind => ?_⟩
      cases kind with
      | counter => exact write
      | _ => rfl
  | getCounter limiter identifier =>
      refine exec_eq_of_get rfl (congrArg answered ?_)
      rw [limiter_key]
      rfl
  | incrCounter limiter identifier =>
      simp only [exec, CacheCall.command, Command.exec, RateLimiting.cacheExec, caches]
      rw [← limiter_key]
      cases stores.counters (limiter.key identifier) with
      | none => exact ⟨rfl, (Function.update_eq_self _ _).symm⟩
      | some entry =>
          obtain ⟨count, expiry⟩ := entry
          by_cases alive : now < expiry
          · have write := Function.update_comp_eq_of_injective stores.counters rate_injective
              (CacheCall.counterKey limiter identifier) (some (count + 1, expiry))
            simp only [← limiter_key] at write
            simp only [if_pos alive]
            refine ⟨trivial, funext fun kind => ?_⟩
            cases kind with
            | counter => exact write
            | _ => rfl
          · simp only [if_neg alive]
            exact ⟨trivial, (Function.update_eq_self _ _).symm⟩

/-- The models never find an object of another kind. -/
theorem exec_ne_garbled (stores : Components) (now : Time) (call : CacheCall) :
    (exec now call stores).1 ≠ .garbled := by
  have read : ∀ {V : Type} (found : Option V), answered found ≠ .garbled := by
    intro V found
    cases found with
    | none => simp [answered]
    | some value => simp [answered]
  cases call with
  | getHold _ | getAvailability _ | getSlug _ | getPayment _ | getCounter _ _ => exact read _
  | incrCounter limiter identifier =>
      simp only [exec]
      split <;> simp
  | _ => simp [exec]

/-- What the models answer to the calls of a run. -/
def replies :
    List (Time × CacheCall) → Components → List (Σ kind : CacheKind, Reply kind.Value)
  | [], _ => []
  | (now, call) :: rest, stores =>
      ⟨call.kind, (exec now call stores).1⟩ :: replies rest (exec now call stores).2

end Components

/-- A call as a request to the shared cache. -/
def CacheCall.request (call : Time × CacheCall) :
    Keyspace.Request (fun _ => String) CacheKind.Value Time where
  now := call.1
  kind := call.2.kind
  command := call.2.command call.1

theorem CacheCall.fits {repr : String → String} {call : Time × CacheCall}
    (printable : call.2.Printable repr) :
    (sharedCache repr).FitsCommand (CacheCall.request call).kind
      (CacheCall.request call).command := by
  obtain ⟨now, call⟩ := call
  cases call with
  | setHold token entry ttl =>
      simp only [CacheCall.request, CacheCall.command, Keyspace.FitsCommand, Keyspace.Fits,
        sharedCache, CacheKind.encode, CacheKind.decode]
      exact HoldEntry.ofText_text repr printable
  | setPayment paymentId result =>
      simp only [CacheCall.request, CacheCall.command, Keyspace.FitsCommand, Keyspace.Fits,
        sharedCache, CacheKind.encode, CacheKind.decode]
      exact Json.loads_dumps printable
  | incrCounter limiter identifier => exact fun count _ => rfl
  | getHold _ | deleteHold _ | getAvailability _ | deleteAvailability _ | getSlug _
  | deleteSlug _ | getPayment _ | getCounter _ _ => trivial
  | setAvailability _ _ | setSlug _ _ | setCounter _ _ => rfl

theorem Components.replies_eq (calls : List (Time × CacheCall)) (stores : Components) :
    Keyspace.ownReplies (calls.map CacheCall.request) stores.caches
      = Components.replies calls stores := by
  induction calls generalizing stores with
  | nil => rfl
  | cons call rest ih =>
      obtain ⟨now, call⟩ := call
      obtain ⟨same, after⟩ := Components.exec_eq stores now call
      rw [List.map_cons, Keyspace.ownReplies, Components.replies, ← ih, after, same]
      rfl

/-- **One Redis refines every cache of the models.**  Whatever calls the users of the cache make,
in any order and at any clock readings, the one Redis under all of them answers each call as its
user's own store does, and no user ever reads an object it cannot decode. -/
theorem shared_cache_refines {repr : String → String} {calls : List (Time × CacheCall)}
    (printable : ∀ call ∈ calls, call.2.Printable repr) {cache : Cache String Stored Time}
    {stores : Components} (represents : (sharedCache repr).Represents cache stores.caches) :
    (sharedCache repr).replies (calls.map CacheCall.request) cache
        = Components.replies calls stores ∧
      ∀ reply ∈ (sharedCache repr).replies (calls.map CacheCall.request) cache,
        reply.2 ≠ .garbled := by
  have same : (sharedCache repr).replies (calls.map CacheCall.request) cache
      = Components.replies calls stores := by
    rw [← Components.replies_eq]
    refine Keyspace.Represents.replies (fun request listed => ?_) represents
    obtain ⟨call, inRun, rfl⟩ := List.mem_map.mp listed
    exact CacheCall.fits (printable call inRun)
  refine ⟨same, ?_⟩
  rw [same]
  clear same represents printable
  induction calls generalizing stores with
  | nil => simp [Components.replies]
  | cons call rest ih =>
      rintro reply listed
      rcases List.mem_cons.mp listed with rfl | later
      · exact Components.exec_ne_garbled stores call.1 call.2
      · exact ih reply later

/-- Stores in which nothing is cached. -/
def Components.empty (audit : AuditTrail) : Components where
  redis := ⟨fun _ => none, SortedSet.empty, fun _ => none⟩
  slugs := Cache.empty
  webhooks := ⟨fun _ => none, audit⟩
  counters := Cache.empty

/-- An empty Redis is in step with empty stores. -/
theorem Components.represents_empty (repr : String → String) (audit : AuditTrail) :
    (sharedCache repr).Represents (Cache.empty : Cache String Stored Time)
      (Components.empty audit).caches where
  entry kind _ := by cases kind <;> rfl
  fits kind _ _ found := by cases kind <;> cases found

/-- A hold and a payment with one id, and a counter whose identifier looks like a key. -/
theorem shared_cache_refines_sample :
    let calls : List (Time × CacheCall) :=
      [(0, .setHold "7" ⟨"t", 2, 600 * second, "u"⟩ 660), (1, .setPayment "7" (.dict [])),
        (2, .setCounter RateLimiting.loginLimiter ":hold:7"), (3, .getHold "7")]
    (sharedCache id).replies (calls.map CacheCall.request) Cache.empty
        = Components.replies calls (Components.empty []) ∧
      ∀ reply ∈ (sharedCache id).replies (calls.map CacheCall.request) Cache.empty,
        reply.2 ≠ .garbled := by
  refine shared_cache_refines ?_ (Components.represents_empty id [])
  simp only [List.forall_mem_cons]
  refine ⟨⟨by decide, by decide⟩, .dict [] (by simp) (by simp), trivial, trivial, by simp⟩

end Ticketing
