import Ticketing.Transactional.Cache
import Ticketing.Checkout.Runs

/-!
# Spellings of an id

The database compares the UUIDs that texts parse to, Redis compares the texts.  Here one operation
is called twice in one world, with two spellings of one UUID.

## Main Definitions

* `Spelled` — an operation that takes an id as a text
* `SameAt` — the stores that a reader finds equal at an instant
* `Spelled.Goes` — the operation goes through, judged by the world before it
* `Spelled.Gone` — nothing that it would treat differently is found under a text

## Main Results

* `Spelled.after_of_not_goes` — a call that does not go through changes nothing
* `sameAt_placed`, `sameAt_dropped` — where the text of a call that does is found again
* `spelling_iff` — when two spellings lead to stores that a reader finds equal

## Design Notes

Both calls read the same clock and draw the same UUID.  Redis entries are compared as readers
find them, at an instant `now` of the reader's own: an entry that has expired is not found.
-/

namespace Ticketing

open Transactional Program

/-- An operation that is given an id as a text. -/
inductive Spelled
  | createHold (user : Uuid) (quantity : ℤ)
  | releaseHoldByToken
  | releaseHoldOnPaymentTimeout

/-- A reader finds the same rows and the same entries at `now`. -/
structure SameAt (now : Time) (first second : World) : Prop where
  db : first.db = second.db
  registry : ∀ token, Cache.live first.redis.registry now token
    = Cache.live second.redis.registry now token
  availability : ∀ tierId, Cache.live first.redis.availability now tierId
    = Cache.live second.redis.availability now tierId

namespace Spelled

/-- The call with one spelling. -/
def request : Spelled → String → Request
  | createHold user quantity, tierId => .createHold user tierId quantity
  | releaseHoldByToken, holdToken => .releaseHoldByToken holdToken
  | releaseHoldOnPaymentTimeout, holdToken => .releaseHoldOnPaymentTimeout holdToken

variable (inputs : ℕ → Input) (world : World)

/-- The world that a call leaves. -/
def after (operation : Spelled) (text : String) : World :=
  ((operation.request text).program.run store none inputs none world).2

/-- The operation on `id` goes through: a request passes both guards and draws a new token; a
release finds an ACTIVE hold whose stock its tier can take back, a timeout one that has expired. -/
def Goes (id : Uuid) : Spelled → Prop
  | createHold user quantity =>
      (∃ tier, world.db.tiers.get id = some tier ∧
        world.db.activeHoldsCount user tier.event < maxHoldsPerUserPerEvent ∧
        0 ≤ quantity ∧ quantity ≤ tier.quantityAvailable) ∧
      world.db.holds.get (inputs 3).uuid = none
  | releaseHoldByToken => ∃ hold tier, world.db.Returnable id hold tier
  | releaseHoldOnPaymentTimeout => ∃ hold tier, world.db.Returnable id hold tier ∧
      hold.expiresAt < (inputs 1).now

/-- At `now` a request's new entry has expired and no availability is cached under the text;
a release finds no registry entry under it. -/
def Gone (now : Time) (text : String) : Spelled → Prop
  | createHold _ _ =>
      entryDies ((inputs 2).now + holdDuration) (inputs 6).now (inputs 7).now ≤ now ∧
        Cache.live world.redis.availability now text = none
  | _ => Cache.live world.redis.registry now text = none

variable {inputs world} {id : Uuid} {text : String}

/-! ## Calls that do not go through -/

/-- A placed hold has passed both guards. -/
theorem after_createHold_of_not_goes {user : Uuid} {quantity : ℤ}
    (parsed : Uuid.parse text = some id)
    (stays : ¬ (createHold user quantity).Goes inputs world id) :
    (createHold user quantity).after inputs world text = world := by
  simp only [after, request, Request.program, run_discard]
  have spec := createHold_run user text quantity inputs world
  unfold Runs at spec
  generalize ran : (Ticketing.createHold user text quantity).run store none inputs none world
    = result at spec ⊢
  generalize heldUpdates (Ticketing.createHold user text quantity) inputs world = written at spec
  cases spec with
  | raised error => rfl
  | placed parsed' present belowCap fits quantityEq userEq tierEq active absent =>
      obtain rfl := Option.some.inj (parsed.symm.trans parsed')
      obtain ⟨rfl, -, -⟩ := createHold_times ran
      exact absurd ⟨⟨_, present, belowCap, quantityEq ▸ Int.natCast_nonneg _, fits⟩, absent⟩ stays

/-- **A call that does not go through changes nothing**, whatever the spelling. -/
theorem after_of_not_goes {operation : Spelled} (parsed : Uuid.parse text = some id)
    (stays : ¬ operation.Goes inputs world id) : operation.after inputs world text = world := by
  cases operation with
  | createHold user quantity => exact after_createHold_of_not_goes parsed stays
  | releaseHoldByToken =>
      simp only [after, request, Request.program, releaseHoldByToken_outcome]
      exact releaseOutcome_of_not_returnable parsed stays
  | releaseHoldOnPaymentTimeout =>
      simp only [after, request, Request.program]
      by_cases due : ∃ hold, world.db.holds.get id = some hold ∧ hold.status = .active ∧
          hold.expiresAt < (inputs 1).now
      · obtain ⟨hold, stored, active, late⟩ := due
        rw [releaseHoldOnPaymentTimeout_due parsed stored active late, releaseHoldByToken_outcome]
        refine releaseOutcome_of_not_returnable parsed ?_
        rintro ⟨hold', tier, returnable⟩
        obtain rfl := Option.some.inj (stored.symm.trans returnable.stored)
        exact stays ⟨hold, tier, returnable, late⟩
      · rw [releaseHoldOnPaymentTimeout_early parsed fun hold stored active late =>
          due ⟨hold, stored, active, late⟩]

end Spelled

/-! ## Where the text is found again -/

section Traces

variable {db : Database} {redis : Redis} {now : Time} {text text' : String}

/-- A new hold's entry carries the text, and the availability under it is deleted. -/
theorem sameAt_placed {token userId : String} {quantity : ℤ} {expiresAt dies : Time} :
    SameAt now
        ⟨db, redis.placed token ⟨text, quantity, expiresAt, userId⟩ dies⟩
        ⟨db, redis.placed token ⟨text', quantity, expiresAt, userId⟩ dies⟩ ↔
      text = text' ∨ (dies ≤ now ∧ Cache.live redis.availability now text = none) ∧
        (dies ≤ now ∧ Cache.live redis.availability now text' = none) := by
  have entries := Cache.live_store_agree redis.registry token ⟨text, quantity, expiresAt, userId⟩
    ⟨text', quantity, expiresAt, userId⟩ dies now
  have keys := Cache.live_remove_agree redis.availability text text' now
  constructor
  · rintro ⟨-, registry, availability⟩
    rcases entries.mp registry with same | expired
    · exact .inl (congrArg HoldEntry.tierId same)
    · rcases keys.mp availability with same | ⟨absent, absent'⟩
      · exact .inl same
      · exact .inr ⟨⟨expired, absent⟩, expired, absent'⟩
  · rintro (rfl | ⟨⟨expired, absent⟩, -, absent'⟩)
    · exact ⟨rfl, fun _ => rfl, fun _ => rfl⟩
    · exact ⟨rfl, entries.mpr (.inr expired), keys.mpr (.inr ⟨absent, absent'⟩)⟩

/-- A release deletes the registry entry under the text; the tier it spells by itself. -/
theorem sameAt_dropped {tierId : String} :
    SameAt now ⟨db, redis.dropped text tierId⟩ ⟨db, redis.dropped text' tierId⟩ ↔
      text = text' ∨ Cache.live redis.registry now text = none ∧
        Cache.live redis.registry now text' = none := by
  have keys := Cache.live_remove_agree redis.registry text text' now
  constructor
  · rintro ⟨-, registry, -⟩
    exact keys.mp registry
  · intro agree
    exact ⟨rfl, keys.mpr agree, fun _ => rfl⟩

end Traces

/-- **The spelling of an id.**  Whatever the operation, the world and the two spellings, the calls
lead to the same rows, registry and availability cache, if and only if the spellings are the same
text, the operation does not go through, or nothing that it would treat differently is found
under either. -/
theorem spelling_iff (operation : Spelled) {text text' : String} {id : Uuid}
    (parsed : Uuid.parse text = some id) (parsed' : Uuid.parse text' = some id)
    (inputs : ℕ → Input) (world : World) (now : Time) :
    SameAt now (operation.after inputs world text) (operation.after inputs world text') ↔
      text = text' ∨ ¬ operation.Goes inputs world id ∨
        operation.Gone inputs world now text ∧ operation.Gone inputs world now text' := by
  by_cases goes : operation.Goes inputs world id
  · rw [iff_false_intro (not_not_intro goes), false_or]
    cases operation with
    | createHold user quantity =>
        obtain ⟨⟨tier, present, belowCap, nonneg, fits⟩, absent⟩ := goes
        have after {text : String} (parsed : Uuid.parse text = some id) :=
          createHold_goes parsed present belowCap nonneg fits absent
        simp only [Spelled.after, Spelled.request, Request.program, run_discard, after parsed,
          after parsed']
        exact sameAt_placed
    | releaseHoldByToken =>
        obtain ⟨hold, tier, returnable⟩ := goes
        simp only [Spelled.after, Spelled.request, Request.program, releaseHoldByToken_outcome,
          releaseOutcome_of_returnable parsed returnable,
          releaseOutcome_of_returnable parsed' returnable]
        exact sameAt_dropped
    | releaseHoldOnPaymentTimeout =>
        obtain ⟨hold, tier, returnable, due⟩ := goes
        simp only [Spelled.after, Spelled.request, Request.program,
          releaseHoldOnPaymentTimeout_due parsed returnable.stored returnable.active due,
          releaseHoldOnPaymentTimeout_due parsed' returnable.stored returnable.active due,
          releaseHoldByToken_outcome, releaseOutcome_of_returnable parsed returnable,
          releaseOutcome_of_returnable parsed' returnable]
        exact sameAt_dropped
  · rw [Spelled.after_of_not_goes parsed goes, Spelled.after_of_not_goes parsed' goes]
    exact iff_of_true ⟨rfl, fun _ => rfl, fun _ => rfl⟩ (.inr (.inl goes))

/-! ### Two spellings -/

namespace Sample

/-- The spelling of a small UUID without hyphens. -/
def plain (digit : Char) : String := .ofList (List.replicate 31 '0' ++ [digit])

theorem parse_plain : Uuid.parse (plain '7') = some (id 7) ∧
    Uuid.parse (plain '1') = some (id 1) := by
  decide +kernel

/-- The registry knows the hold, and the availability of its tier is cached; both under the
canonical spellings. -/
def cached : World where
  db := world.db
  redis :=
    { registry := Cache.store Cache.empty (id 7).str ⟨(id 1).str, 2, 0, (id 5).str⟩ (60 * second)
      expiryZset := .empty
      availability := Cache.store Cache.empty (id 1).str 8 (30 * second) }

/-- The clock stands at one second. -/
def inputs : ℕ → Input := fun _ => .plain second (id 8)

end Sample

/-- Nothing is registered under either spelling. -/
theorem spelling_iff_sample :
    SameAt second (Spelled.releaseHoldByToken.after Sample.inputs Sample.world (Sample.plain '7'))
      (Spelled.releaseHoldByToken.after Sample.inputs Sample.world (Sample.id 7).str) :=
  (spelling_iff .releaseHoldByToken Sample.parse_plain.1 (Uuid.parse_str _) Sample.inputs
    Sample.world second).mpr (.inr (.inr ⟨rfl, rfl⟩))

/-- **Spellings matter.**  Released without hyphens in its token, a hold leaves its entry behind;
requested without hyphens in its tier, it leaves the cached availability behind and is registered
under another text. -/
theorem spellings_differ :
    let release := Spelled.releaseHoldByToken.after Sample.inputs Sample.cached
    let timeout := Spelled.releaseHoldOnPaymentTimeout.after Sample.inputs Sample.cached
    let request := (Spelled.createHold (Sample.id 5) 3).after Sample.inputs Sample.cached
    let entry (world : World) (token : Uuid) := Cache.live world.redis.registry second token.str
    let availability (world : World) := Cache.live world.redis.availability second (Sample.id 1).str
    (entry (release (Sample.id 7).str) (Sample.id 7) = none ∧
      entry (release (Sample.plain '7')) (Sample.id 7) ≠ none ∧
      entry (timeout (Sample.id 7).str) (Sample.id 7) = none ∧
      entry (timeout (Sample.plain '7')) (Sample.id 7) ≠ none ∧
      availability (request (Sample.id 1).str) = none ∧
      availability (request (Sample.plain '1')) = some 8 ∧
      entry (request (Sample.id 1).str) (Sample.id 8)
        ≠ entry (request (Sample.plain '1')) (Sample.id 8)) ∧
      ¬ SameAt second (release (Sample.id 7).str) (release (Sample.plain '7')) ∧
      ¬ SameAt second (timeout (Sample.id 7).str) (timeout (Sample.plain '7')) ∧
      ¬ SameAt second (request (Sample.id 1).str) (request (Sample.plain '1')) := by
  intro release timeout request entry availability
  have differ : entry (release (Sample.id 7).str) (Sample.id 7) = none ∧
      entry (release (Sample.plain '7')) (Sample.id 7) ≠ none ∧
      entry (timeout (Sample.id 7).str) (Sample.id 7) = none ∧
      entry (timeout (Sample.plain '7')) (Sample.id 7) ≠ none ∧
      availability (request (Sample.id 1).str) = none ∧
      availability (request (Sample.plain '1')) = some 8 ∧
      entry (request (Sample.id 1).str) (Sample.id 8)
        ≠ entry (request (Sample.plain '1')) (Sample.id 8) := by
    decide +kernel
  refine ⟨differ, fun same => ?_, fun same => ?_, fun same => ?_⟩
  · exact differ.2.1 ((same.registry _).symm.trans differ.1)
  · exact differ.2.2.2.1 ((same.registry _).symm.trans differ.2.2.1)
  · exact differ.2.2.2.2.2.2 (same.registry _)

end Ticketing
