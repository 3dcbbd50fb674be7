import Ticketing.Transactional.Cache

/-!
# One cache for entries of several kinds

Programs that share one cache keep out of each other's way by giving their keys
different forms.  This module says what that is worth: the one cache behaves
like a cache for each kind, of that kind's own keys and values.

## Main Definitions

* `Command` — what is asked of a cache
* `Keyspace` — how keys and values of each kind look in the shared cache
* `Keyspace.exec` — a command of one kind on the shared cache
* `Keyspace.Represents` — the shared cache holds what the caches of the kinds hold

## Main Results

* `Keyspace.Represents.exec` — a command gets the same reply, and the caches stay in step
* `Keyspace.Represents.replies` — so does every command of a run
-/

namespace Transactional

/-- What is asked of a cache with keys `K` and values `V`. -/
inductive Command (K V T : Type)
  | get (key : K)
  | set (key : K) (value : V) (expiry : T)
  | delete (key : K)
  /-- Replace the value under a key, whose expiry stays. -/
  | update (key : K) (change : V → V)

/-- What a cache replies. -/
inductive Reply (V : Type)
  | done
  | missing
  | found (value : V)
  /-- What is stored is no value of the kind. -/
  | garbled
  deriving DecidableEq

section Single

variable {K V T : Type} [DecidableEq K] [LinearOrder T]

/-- A command at `now`. -/
def Command.exec (now : T) : Command K V T → Cache K V T → Reply V × Cache K V T
  | .get key, cache =>
      match cache.live now key with
      | some value => (.found value, cache)
      | none => (.missing, cache)
  | .set key value expiry, cache => (.done, cache.store key value expiry)
  | .delete key, cache => (.done, cache.remove key)
  | .update key change, cache =>
      match cache key with
      | some (value, expiry) =>
          if now < expiry then (.found (change value), cache.store key (change value) expiry)
          else (.missing, cache)
      | none => (.missing, cache)

end Single

/-- Kinds of entries that share a cache: how the keys of each kind, and its
values, look there. -/
structure Keyspace (ι : Type) (K V : ι → Type) (Key Raw : Type) where
  key : (kind : ι) → K kind → Key
  encode : (kind : ι) → V kind → Raw
  decode : (kind : ι) → Raw → Option (V kind)
  /-- Two entries have one key only if they are the same entry of the same kind. -/
  apart : ∀ {kind kind' : ι} {k : K kind} {k' : K kind'}, key kind k = key kind' k' →
    (⟨kind, k⟩ : Sigma K) = ⟨kind', k'⟩

namespace Keyspace

variable {ι Key Raw T : Type} {K V : ι → Type}

/-- The value is read back from its form in the cache. -/
def Fits (keyspace : Keyspace ι K V Key Raw) (kind : ι) (value : V kind) : Prop :=
  keyspace.decode kind (keyspace.encode kind value) = some value

/-- The command writes values that fit. -/
def FitsCommand (keyspace : Keyspace ι K V Key Raw) (kind : ι) :
    Command (K kind) (V kind) T → Prop
  | .set _ value _ => keyspace.Fits kind value
  | .update _ change => ∀ value, keyspace.Fits kind value → keyspace.Fits kind (change value)
  | _ => True

/-- The shared cache holds the entries of the caches, under their keys and in
their form. -/
structure Represents (keyspace : Keyspace ι K V Key Raw) (cache : Cache Key Raw T)
    (caches : ∀ kind, Cache (K kind) (V kind) T) : Prop where
  entry : ∀ kind key, cache (keyspace.key kind key)
    = (caches kind key).map fun entry => (keyspace.encode kind entry.1, entry.2)
  fits : ∀ kind key entry, caches kind key = some entry → keyspace.Fits kind entry.1

namespace Represents

variable {keyspace : Keyspace ι K V Key Raw} {cache : Cache Key Raw T}
  {caches : ∀ kind, Cache (K kind) (V kind) T}

theorem empty : keyspace.Represents (Cache.empty : Cache Key Raw T) fun _ => Cache.empty where
  entry _ _ := rfl
  fits _ _ _ found := by cases found

section Live

variable [LinearOrder T]

/-- What is live in a kind's cache is live in the shared one, in its form. -/
theorem live (represents : keyspace.Represents cache caches) (now : T) (kind : ι)
    (key : K kind) : cache.live now (keyspace.key kind key)
      = ((caches kind).live now key).map (keyspace.encode kind) := by
  unfold Cache.live
  rw [represents.entry]
  cases caches kind key with
  | none => rfl
  | some entry =>
      obtain ⟨value, expiry⟩ := entry
      by_cases alive : now < expiry
      · simp [Option.filter, alive]
      · simp [Option.filter, alive]

theorem live_fits (represents : keyspace.Represents cache caches) {now : T} {kind : ι}
    {key : K kind} {value : V kind} (found : (caches kind).live now key = some value) :
    keyspace.Fits kind value := by
  obtain ⟨expiry, stored, -⟩ := Cache.live_eq_some.mp found
  exact represents.fits kind key (value, expiry) stored

end Live

variable [DecidableEq ι] [∀ kind, DecidableEq (K kind)] [DecidableEq Key]

/-- Writing one entry in both keeps them in step. -/
theorem write (represents : keyspace.Represents cache caches) (kind : ι) (key : K kind)
    (entry : Option (V kind × T))
    (fits : ∀ written, entry = some written → keyspace.Fits kind written.1) :
    keyspace.Represents
      (Function.update cache (keyspace.key kind key)
        (entry.map fun entry => (keyspace.encode kind entry.1, entry.2)))
      (Function.update caches kind (Function.update (caches kind) key entry)) where
  entry kind' key' := by
    by_cases sameKind : kind' = kind
    · subst sameKind
      rw [Function.update_self]
      by_cases sameKey : key' = key
      · subst sameKey
        rw [Function.update_self, Function.update_self]
      · have different : keyspace.key kind' key' ≠ keyspace.key kind' key := by
          intro same
          have both := keyspace.apart same
          cases both
          exact sameKey rfl
        rw [Function.update_of_ne different, Function.update_of_ne sameKey, represents.entry]
    · have different : keyspace.key kind' key' ≠ keyspace.key kind key :=
        fun same => sameKind (congrArg Sigma.fst (keyspace.apart same))
      rw [Function.update_of_ne different, Function.update_of_ne sameKind, represents.entry]
  fits kind' key' written stored := by
    by_cases sameKind : kind' = kind
    · subst sameKind
      rw [Function.update_self] at stored
      by_cases sameKey : key' = key
      · subst sameKey
        rw [Function.update_self] at stored
        exact fits written stored
      · rw [Function.update_of_ne sameKey] at stored
        exact represents.fits kind' key' written stored
    · rw [Function.update_of_ne sameKind] at stored
      exact represents.fits kind' key' written stored

end Represents

section Exec

variable [DecidableEq Key] [LinearOrder T]

/-- A command of one kind on the shared cache, at `now`. -/
def exec (keyspace : Keyspace ι K V Key Raw) (now : T) (kind : ι) :
    Command (K kind) (V kind) T → Cache Key Raw T → Reply (V kind) × Cache Key Raw T
  | .get key, cache =>
      match cache.live now (keyspace.key kind key) with
      | some raw =>
          match keyspace.decode kind raw with
          | some value => (.found value, cache)
          | none => (.garbled, cache)
      | none => (.missing, cache)
  | .set key value expiry, cache =>
      (.done, cache.store (keyspace.key kind key) (keyspace.encode kind value) expiry)
  | .delete key, cache => (.done, cache.remove (keyspace.key kind key))
  | .update key change, cache =>
      match cache (keyspace.key kind key) with
      | some (raw, expiry) =>
          if now < expiry then
            match keyspace.decode kind raw with
            | some value =>
                (.found (change value),
                  cache.store (keyspace.key kind key) (keyspace.encode kind (change value)) expiry)
            | none => (.garbled, cache)
          else (.missing, cache)
      | none => (.missing, cache)

/-- **Step lemma.**  A command gets the reply its kind's own cache gives, and the
caches stay in step. -/
theorem Represents.exec [DecidableEq ι] [∀ kind, DecidableEq (K kind)]
    {keyspace : Keyspace ι K V Key Raw} {cache : Cache Key Raw T}
    {caches : ∀ kind, Cache (K kind) (V kind) T}
    (represents : keyspace.Represents cache caches) (now : T) (kind : ι)
    {command : Command (K kind) (V kind) T} (fits : keyspace.FitsCommand kind command) :
    (keyspace.exec now kind command cache).1 = (command.exec now (caches kind)).1 ∧
      keyspace.Represents (keyspace.exec now kind command cache).2
        (Function.update caches kind (command.exec now (caches kind)).2) := by
  cases command with
  | get key =>
      simp only [Keyspace.exec, Command.exec, represents.live]
      cases found : (caches kind).live now key with
      | none =>
          refine ⟨rfl, ?_⟩
          rw [Function.update_eq_self]
          exact represents
      | some value =>
          have readBack : keyspace.decode kind (keyspace.encode kind value) = some value :=
            represents.live_fits found
          simp only [Option.map_some, readBack, Function.update_eq_self]
          exact ⟨trivial, represents⟩
  | set key value expiry =>
      refine ⟨rfl, ?_⟩
      exact represents.write kind key (some (value, expiry)) fun written same =>
        Option.some.inj same ▸ fits
  | delete key =>
      exact ⟨rfl, represents.write kind key none fun written same => by cases same⟩
  | update key change =>
      simp only [Keyspace.exec, Command.exec, represents.entry]
      cases stored : caches kind key with
      | none =>
          simp only [Option.map_none, Function.update_eq_self]
          exact ⟨trivial, represents⟩
      | some entry =>
          have fitsEntry := represents.fits kind key entry stored
          have readBack : keyspace.decode kind (keyspace.encode kind entry.1) = some entry.1 :=
            fitsEntry
          simp only [Option.map_some, readBack]
          by_cases alive : now < entry.2
          · simp only [if_pos alive]
            refine ⟨trivial, ?_⟩
            exact represents.write kind key (some (change entry.1, entry.2)) fun written same =>
              Option.some.inj same ▸ fits entry.1 fitsEntry
          · simp only [if_neg alive, Function.update_eq_self]
            exact ⟨trivial, represents⟩

/-! ## Runs -/

/-- A command of some kind, issued at an instant. -/
structure Request (K V : ι → Type) (T : Type) where
  now : T
  kind : ι
  command : Command (K kind) (V kind) T

/-- The replies of the kinds' own caches. -/
def ownReplies [DecidableEq ι] [∀ kind, DecidableEq (K kind)] :
    List (Request K V T) → (∀ kind, Cache (K kind) (V kind) T) → List (Σ kind, Reply (V kind))
  | [], _ => []
  | request :: rest, caches =>
      ⟨request.kind, (request.command.exec request.now (caches request.kind)).1⟩ ::
        ownReplies rest (Function.update caches request.kind
          (request.command.exec request.now (caches request.kind)).2)

/-- The replies of the shared cache. -/
def replies (keyspace : Keyspace ι K V Key Raw) :
    List (Request K V T) → Cache Key Raw T → List (Σ kind, Reply (V kind))
  | [], _ => []
  | request :: rest, cache =>
      ⟨request.kind, (keyspace.exec request.now request.kind request.command cache).1⟩ ::
        keyspace.replies rest (keyspace.exec request.now request.kind request.command cache).2

/-- **Run lemma.**  The shared cache gives every request the reply that its kind's
own cache gives. -/
theorem Represents.replies [DecidableEq ι] [∀ kind, DecidableEq (K kind)]
    {keyspace : Keyspace ι K V Key Raw} {requests : List (Request K V T)}
    (fits : ∀ request ∈ requests, keyspace.FitsCommand request.kind request.command)
    {cache : Cache Key Raw T} {caches : ∀ kind, Cache (K kind) (V kind) T}
    (represents : keyspace.Represents cache caches) :
    keyspace.replies requests cache = ownReplies requests caches := by
  induction requests generalizing cache caches with
  | nil => rfl
  | cons request rest ih =>
      obtain ⟨same, still⟩ :=
        represents.exec request.now request.kind (fits request List.mem_cons_self)
      rw [Keyspace.replies, ownReplies, same,
        ih (fun other listed => fits other (List.mem_cons_of_mem request listed)) still]

end Exec

end Keyspace

end Transactional
