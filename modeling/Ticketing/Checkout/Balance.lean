import Ticketing.Checkout.Store

/-!
# The counter and the holds

`quantity_held` is a redundant aggregate of the hold table.  This module states
what it means for the two to agree, and what the two changes that the checkout
makes to them (placing a hold, giving its stock back) do to that agreement.
No program occurs here: serial and concurrent runs use the same lemmas.

## Main Definitions

* `Database.HeldMatches` — the counter of a tier is the sum over its holds
* `Database.WithinCapacity` — held and sold tickets fit into the tier
* `Database.Balanced` — both, for every tier
* `Database.place`, `Database.giveBack` — the two changes
-/

namespace Ticketing

namespace Database

/-- The counter of tier `id` is the sum of quantity over its counted holds. -/
def HeldMatches (counted : HoldStatus → Bool) (db : Database) (id : Uuid) : Prop :=
  ∀ tier, db.tiers.get id = some tier → tier.quantityHeld = db.quantitySum counted id

/-- Held and sold tickets of tier `id` do not exceed its total. -/
def WithinCapacity (db : Database) (id : Uuid) : Prop :=
  ∀ tier, db.tiers.get id = some tier →
    tier.quantityHeld + tier.quantitySold ≤ tier.quantityTotal

/-- Every counter is the sum over the ACTIVE holds of its tier, and no tier is oversold. -/
structure Balanced (db : Database) : Prop where
  heldMatches : ∀ id, db.HeldMatches (· = .active) id
  withinCapacity : ∀ id, db.WithinCapacity id

/-- Insert a hold and take its quantity from the tier, of which `tier` is the copy. -/
def place (db : Database) (id : Uuid) (tier : TicketTier) (token : Uuid) (hold : CheckoutHold) :
    Database where
  tiers := db.tiers.set id { tier with quantityHeld := tier.quantityHeld + hold.quantity }
  holds := db.holds.set token hold

/-- End a hold with `status` and set the counter of its tier, of which `tier` is
the current row, to `held`. -/
def giveBack (db : Database) (tier : TicketTier) (held : ℕ) (token : Uuid) (hold : CheckoutHold)
    (status : HoldStatus) : Database where
  tiers := db.tiers.set hold.tierId { tier with quantityHeld := held }
  holds := db.holds.set token { hold with status }

section Sums

variable (counted : HoldStatus → Bool) (db : Database) (id : Uuid)

theorem heldBy_le_quantitySum {token : Uuid} {hold : CheckoutHold}
    (present : db.holds.get token = some hold) :
    heldBy counted id hold ≤ db.quantitySum counted id :=
  db.holds.le_total _ present

theorem quantitySum_insert {db other : Database} {token : Uuid} {hold : CheckoutHold}
    (absent : db.holds.get token = none) (holds : other.holds = db.holds.set token hold) :
    other.quantitySum counted id = db.quantitySum counted id + heldBy counted id hold := by
  unfold quantitySum
  rw [holds, Transactional.Table.total_set_new _ _ absent]

theorem quantitySum_update {db other : Database} {token : Uuid} {old new : CheckoutHold}
    (present : db.holds.get token = some old) (holds : other.holds = db.holds.set token new) :
    other.quantitySum counted id + heldBy counted id old
      = db.quantitySum counted id + heldBy counted id new := by
  unfold quantitySum
  rw [holds, Transactional.Table.total_set _ _ present]

end Sums

/-! ## Placing a hold -/

section Place

variable {db : Database} {id : Uuid} {tier : TicketTier} {token : Uuid} {hold : CheckoutHold}

/-- Placing a hold that counts keeps the counter equal to the sum. -/
theorem HeldMatches.place {counted : HoldStatus → Bool} {other : Uuid}
    (holds : db.HeldMatches counted other) (present : db.tiers.get id = some tier)
    (absent : db.holds.get token = none) (tierEq : hold.tierId = id)
    (counts : counted hold.status = true) :
    (db.place id tier token hold).HeldMatches counted other := by
  intro row found
  have sum : (db.place id tier token hold).quantitySum counted other
      = db.quantitySum counted other + heldBy counted other hold :=
    quantitySum_insert counted other absent rfl
  by_cases same : other = id
  · subst same
    have rowEq : row = { tier with quantityHeld := tier.quantityHeld + hold.quantity } := by
      simpa [Database.place] using found.symm
    rw [sum, ← holds tier present, rowEq]
    simp [heldBy, tierEq, counts]
  · have found' : db.tiers.get other = some row := by
      simpa [Database.place, Transactional.Table.get_set, same] using found
    rw [sum, ← holds row found']
    simp [heldBy, tierEq, Ne.symm same]

/-- A hold that fits into what is available keeps the tier within its capacity. -/
theorem WithinCapacity.place {other : Uuid} (capacity : db.WithinCapacity other)
    (present : db.tiers.get id = some tier)
    (fits : (hold.quantity : ℤ) ≤ tier.quantityAvailable) :
    (db.place id tier token hold).WithinCapacity other := by
  intro row found
  by_cases same : other = id
  · subst same
    have rowEq : row = { tier with quantityHeld := tier.quantityHeld + hold.quantity } := by
      simpa [Database.place] using found.symm
    have before := capacity tier present
    subst rowEq
    simp only [TicketTier.quantityAvailable] at fits
    simp only
    omega
  · exact capacity row (by simpa [Database.place, Transactional.Table.get_set, same] using found)

end Place

/-! ## Giving stock back -/

section GiveBack

variable {db : Database} {tier : TicketTier} {token : Uuid} {hold : CheckoutHold}
variable {status : HoldStatus}

/-- Ending an ACTIVE hold keeps the counter equal to the sum when the value
written is the current counter without the hold's quantity. -/
theorem HeldMatches.giveBack {held : ℕ} {other : Uuid}
    (holds : db.HeldMatches (· = .active) other) (present : db.tiers.get hold.tierId = some tier)
    (stored : db.holds.get token = some hold) (active : hold.status = .active)
    (ends : status ≠ .active) (current : held + hold.quantity = tier.quantityHeld) :
    (db.giveBack tier held token hold status).HeldMatches (· = .active) other := by
  intro row found
  have sum : (db.giveBack tier held token hold status).quantitySum (· = .active) other
        + heldBy (· = .active) other hold
      = db.quantitySum (· = .active) other + heldBy (· = .active) other { hold with status } :=
    quantitySum_update (· = .active) other stored rfl
  by_cases same : other = hold.tierId
  · have rowEq : row = { tier with quantityHeld := held } := by
      simpa [Database.giveBack, same] using found.symm
    have before := holds tier (same ▸ present)
    simp only [heldBy, same, active, ends, decide_true, decide_false, and_self, and_false,
      Bool.false_eq_true, if_true, if_false] at sum before ⊢
    subst rowEq
    simp only
    omega
  · have found' : db.tiers.get other = some row := by
      simpa [Database.giveBack, Transactional.Table.get_set, same] using found
    rw [holds row found']
    simpa [heldBy, Ne.symm same] using sum.symm

theorem WithinCapacity.giveBack {held : ℕ} {other : Uuid} (capacity : db.WithinCapacity other)
    (present : db.tiers.get hold.tierId = some tier) (less : held ≤ tier.quantityHeld) :
    (db.giveBack tier held token hold status).WithinCapacity other := by
  intro row found
  by_cases same : other = hold.tierId
  · have rowEq : row = { tier with quantityHeld := held } := by
      simpa [Database.giveBack, same] using found.symm
    have before := capacity tier (same ▸ present)
    subst rowEq
    simp only
    omega
  · exact capacity row (by simpa [Database.giveBack, Transactional.Table.get_set, same] using found)

/-- An ACTIVE hold is part of the counter of its tier. -/
theorem HeldMatches.quantity_le {counted : HoldStatus → Bool}
    (holds : db.HeldMatches counted hold.tierId) (present : db.tiers.get hold.tierId = some tier)
    (stored : db.holds.get token = some hold) (counts : counted hold.status = true) :
    hold.quantity ≤ tier.quantityHeld := by
  have part := heldBy_le_quantitySum counted db hold.tierId stored
  rw [← holds tier present] at part
  simpa [heldBy, counts] using part

end GiveBack

/-! ## Both together -/

namespace Balanced

variable {db : Database}

/-- The clamp of `quantity_available` is never active in a balanced database. -/
theorem quantityAvailable_eq (balanced : db.Balanced) {id : Uuid} {tier : TicketTier}
    (present : db.tiers.get id = some tier) :
    tier.quantityAvailable = (tier.quantityTotal : ℤ) - tier.quantityHeld - tier.quantitySold := by
  have capacity := balanced.withinCapacity id tier present
  unfold TicketTier.quantityAvailable
  omega

theorem place {id : Uuid} {tier : TicketTier} {token : Uuid} {hold : CheckoutHold}
    (balanced : db.Balanced) (present : db.tiers.get id = some tier)
    (absent : db.holds.get token = none) (tierEq : hold.tierId = id)
    (active : hold.status = .active) (fits : (hold.quantity : ℤ) ≤ tier.quantityAvailable) :
    (db.place id tier token hold).Balanced where
  heldMatches other :=
    (balanced.heldMatches other).place present absent tierEq (by simp [active])
  withinCapacity other := (balanced.withinCapacity other).place present fits

theorem giveBack {tier : TicketTier} {held : ℕ} {token : Uuid} {hold : CheckoutHold}
    {status : HoldStatus} (balanced : db.Balanced)
    (present : db.tiers.get hold.tierId = some tier) (stored : db.holds.get token = some hold)
    (active : hold.status = .active) (ends : status ≠ .active)
    (current : held + hold.quantity = tier.quantityHeld) :
    (db.giveBack tier held token hold status).Balanced where
  heldMatches other := (balanced.heldMatches other).giveBack present stored active ends current
  withinCapacity other := (balanced.withinCapacity other).giveBack present (by omega)

end Balanced

end Database

end Ticketing
