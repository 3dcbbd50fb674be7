import Mathlib

/-!
# Hashes with expiry

A hash under one key of a store: fields with values, and one instant of expiry for
all of them.

## Main Definitions

* `Hash`, `HashKey` — a hash, and the key it may be found under
* `HashKey.hget`, `HashKey.hset`, `HashKey.expire` — the commands on it
* `HashKey.record` — writing a field and prolonging the whole hash

## Main Results

* `HashKey.alive_record`, `HashKey.hget_record` — what is there after a record

## Design Notes

A hash without fields does not exist: the first field written creates it, without an
instant of expiry.  Reading a field and prolonging the hash both need one that has
not expired.
-/

namespace Transactional

/-- A hash: its fields, and the instant at which it disappears. -/
structure Hash (F V T : Type) where
  fields : F → Option V
  expiry : Option T

/-- A key, with the hash under it. -/
abbrev HashKey (F V T : Type) := Option (Hash F V T)

variable {F V T : Type}

/-- The hash that one field makes. -/
def Hash.single [DecidableEq F] (field : F) (value : V) : Hash F V T where
  fields := Function.update (fun _ => none) field (some value)
  expiry := none

/-- The hash with one field written. -/
def Hash.setField [DecidableEq F] (hash : Hash F V T) (field : F) (value : V) : Hash F V T :=
  { hash with fields := Function.update hash.fields field (some value) }

variable [LinearOrder T]

/-- The hash has not expired at `now`. -/
def Hash.alive (hash : Hash F V T) (now : T) : Bool :=
  match hash.expiry with
  | none => true
  | some expiry => now < expiry

namespace HashKey

/-- The hash that is there at `now`. -/
def live (key : HashKey F V T) (now : T) : Option (Hash F V T) := key.filter (Hash.alive · now)

/-- There is a hash at `now`. -/
def alive (key : HashKey F V T) (now : T) : Bool := (key.live now).isSome

/-- `HGET`. -/
def hget (key : HashKey F V T) (now : T) (field : F) : Option V :=
  (key.live now).bind fun hash => hash.fields field

/-- `HEXISTS`. -/
def hexists (key : HashKey F V T) (now : T) (field : F) : Bool := (key.hget now field).isSome

/-- `EXPIRE`, with the instant it computes. -/
def expire (key : HashKey F V T) (now instant : T) : HashKey F V T :=
  (key.live now).map fun hash => { hash with expiry := some instant }

theorem live_some {hash : Hash F V T} {now : T} (alive : hash.alive now = true) :
    live (some hash) now = some hash := by
  simp [live, alive]

@[simp] theorem alive_some (hash : Hash F V T) (now : T) :
    alive (some hash) now = hash.alive now := by
  cases there : hash.alive now with
  | true => rw [alive, live_some there, Option.isSome_some]
  | false => simp [alive, live, there]

theorem live_eq_some {key : HashKey F V T} {now : T} {hash : Hash F V T} :
    key.live now = some hash ↔ key = some hash ∧ hash.alive now = true :=
  Option.filter_eq_some_iff

/-- A key that is alive has a hash. -/
theorem eq_some_of_alive {key : HashKey F V T} {now : T} (there : key.alive now = true) :
    ∃ hash, key = some hash ∧ hash.alive now = true := by
  obtain ⟨hash, present⟩ := Option.isSome_iff_exists.mp there
  exact ⟨hash, live_eq_some.mp present⟩

/-- The fields of a hash that has not expired. -/
theorem hget_some {hash : Hash F V T} {now : T} (alive : hash.alive now = true) (field : F) :
    hget (some hash) now field = hash.fields field := by
  rw [hget, live_some alive]
  rfl

/-- Only a hash that is there has fields. -/
theorem alive_of_hget {key : HashKey F V T} {now : T} {field : F} {value : V}
    (found : key.hget now field = some value) : key.alive now = true := by
  obtain ⟨hash, present, -⟩ := Option.bind_eq_some_iff.mp found
  rw [alive, present]
  rfl

/-- `EXPIRE` finds the hash that is there. -/
theorem expire_of_alive {hash : Hash F V T} {prolonged : T} (alive : hash.alive prolonged = true)
    (instant : T) :
    expire (some hash) prolonged instant = some { hash with expiry := some instant } := by
  rw [expire, live_some alive]
  rfl

/-- A hash that `EXPIRE` has found is there until the instant. -/
theorem alive_expire (key : HashKey F V T) (prolonged instant now : T) :
    (key.expire prolonged instant).alive now = true ↔
      key.alive prolonged = true ∧ now < instant := by
  by_cases there : key.alive prolonged = true
  · obtain ⟨hash, rfl, alive⟩ := eq_some_of_alive there
    rw [expire_of_alive alive, alive_some, and_iff_right there]
    exact decide_eq_true_iff
  · have gone : key.live prolonged = none := Option.not_isSome_iff_eq_none.mp there
    rw [expire, gone]
    exact iff_of_false (Bool.false_ne_true) fun both => there both.1

/-- `EXPIRE` keeps the fields. -/
theorem hget_expire {key : HashKey F V T} {prolonged instant now : T}
    (there : (key.expire prolonged instant).alive now = true) (field : F) :
    (key.expire prolonged instant).hget now field = key.hget prolonged field := by
  obtain ⟨hash, rfl, alive⟩ :=
    eq_some_of_alive ((alive_expire key prolonged instant now).mp there).1
  rw [expire_of_alive alive, alive_some] at *
  rw [hget_some there, hget_some alive]

section Write

variable [DecidableEq F]

/-- `HSET`. -/
def hset (key : HashKey F V T) (now : T) (field : F) (value : V) : HashKey F V T :=
  match key.live now with
  | some hash => some (hash.setField field value)
  | none => some (Hash.single field value)

/-- `HSET` at `written`, then `EXPIRE` at `prolonged`. -/
def record (key : HashKey F V T) (written prolonged instant : T) (field : F) (value : V) :
    HashKey F V T :=
  (key.hset written field value).expire prolonged instant

/-- `HSET` writes into the hash that is there. -/
theorem hset_of_alive {hash : Hash F V T} {written : T} (alive : hash.alive written = true)
    (field : F) (value : V) :
    hset (some hash) written field value = some (hash.setField field value) := by
  rw [hset, live_some alive]

/-- Where no hash is there, `HSET` makes one. -/
theorem hset_of_gone {key : HashKey F V T} {written : T} (gone : ¬ key.alive written = true)
    (field : F) (value : V) : key.hset written field value = some (Hash.single field value) := by
  have nothing : key.live written = none := Option.not_isSome_iff_eq_none.mp gone
  rw [hset, nothing]

/-- A written hash is as alive as the one that was there; a new one does not expire. -/
theorem alive_hset (key : HashKey F V T) (written now : T) (field : F) (value : V) :
    (key.hset written field value).alive now = true ↔
      (key.alive written = true → key.alive now = true) := by
  by_cases there : key.alive written = true
  · obtain ⟨hash, rfl, alive⟩ := eq_some_of_alive there
    rw [hset_of_alive alive, alive_some, alive_some, alive_some]
    exact ⟨fun later _ => later, fun kept => kept alive⟩
  · rw [hset_of_gone there]
    exact iff_of_true rfl fun alive => absurd alive there

/-- The fields of a written hash that is there. -/
theorem hget_hset {key : HashKey F V T} {written now : T} {field : F} {value : V}
    (there : (key.hset written field value).alive now = true) (other : F) :
    (key.hset written field value).hget now other
      = if other = field then some value else key.hget written other := by
  by_cases before : key.alive written = true
  · obtain ⟨hash, rfl, alive⟩ := eq_some_of_alive before
    rw [hset_of_alive alive, alive_some] at *
    rw [hget_some there, hget_some alive]
    exact Function.update_apply _ _ _ _
  · have nothing : key.live written = none := Option.not_isSome_iff_eq_none.mp before
    rw [hset_of_gone before, alive_some] at *
    rw [hget_some there, hget, nothing]
    exact Function.update_apply (fun _ => none) field (some value) other

variable {key : HashKey F V T} {written prolonged instant now : T} {field : F} {value : V}

/-- **Life of a record.**  It is there until the instant, unless the hash it went into
expired before it was prolonged. -/
theorem alive_record :
    (key.record written prolonged instant field value).alive now = true ↔
      (key.alive written = true → key.alive prolonged = true) ∧ now < instant := by
  rw [record, alive_expire, alive_hset]

/-- **Fields of a record.**  While it is there, it has the field written and those of the
hash it went into. -/
theorem hget_record (there : (key.record written prolonged instant field value).alive now = true)
    (other : F) :
    (key.record written prolonged instant field value).hget now other
      = if other = field then some value else key.hget written other := by
  rw [record, hget_expire there]
  exact hget_hset ((alive_expire _ _ _ _).mp there).1 other

end Write

end HashKey

end Transactional
