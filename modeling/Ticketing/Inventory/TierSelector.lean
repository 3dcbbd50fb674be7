import Ticketing.Collections.Bisect
import Ticketing.Catalog.Models

/-!
# Selecting a tier

`inventory/tier_selector.py`: the best tier for a budget, by bisection on the prices.

## Main Definitions

* `Offer` — what the selector asks of a tier
* `TierSelector`, `selectForBudget`, `selectExact` — the class
* `TierListing` — the tiers in the default order of their model
* `WithinBudget` — what a buyer expects of a selection
* `AffordableFirst` — the tiers within a budget are listed in front of the others

## Main Results

* `selector_eq_scan` — on tiers sorted by price, bisection selects what a scan selects
* `within_budget_iff` — for which prices and orders the selection is within budget, whatever
  has been sold
* `over_budget` — tiers in their default order for which it is not

## Design Notes

Prices are compared as floats; `float` is a parameter, known to keep the order of the
amounts in play.  `is_on_sale()` reads the clock for each tier it is asked of, so the
answers of the tiers are independent.
-/

namespace Ticketing.Catalog

open Collections

/-- What the selector asks of a tier. -/
structure Offer (Tier Amount : Type) where
  price : Tier → Amount
  quantityAvailable : Tier → ℤ
  isOnSale : Tier → Bool

/-- `tier.quantity_available > 0 and tier.is_on_sale()`. -/
def Offer.sells {Tier Amount : Type} (offer : Offer Tier Amount) (tier : Tier) : Bool :=
  offer.quantityAvailable tier > 0 && offer.isOnSale tier

/-- `TierSelector`. -/
structure TierSelector (Tier F : Type) where
  tiers : List Tier
  prices : List F

section Selector

variable {Tier Amount F : Type} (offer : Offer Tier Amount) (float : Amount → F)

/-- `TierSelector(tiers)`. -/
def TierSelector.new (tiers : List Tier) : TierSelector Tier F where
  tiers := tiers
  prices := tiers.map fun tier => float (offer.price tier)

/-- `while idx >= 0`: the tiers in front of `idx + 1`, from right to left. -/
def walkLeft (tiers : List Tier) : ℕ → Option Tier
  | 0 => none
  | idx + 1 =>
      match tiers[idx]? with
      | none => none
      | some tier => if offer.sells tier then some tier else walkLeft tiers idx

/-- `select_for_budget`. -/
def selectForBudget [LinearOrder F] (selector : TierSelector Tier F) (budget : Amount) :
    Option Tier :=
  walkLeft offer selector.tiers (bisectRight selector.prices (float budget))

/-- `select_exact`. -/
def selectExact [LinearOrder F] (selector : TierSelector Tier F) (price : Amount) : Option Tier :=
  let idx := bisectLeft selector.prices (float price)
  if selector.prices[idx]? = some (float price) then selector.tiers[idx]? else none

/-- The tier costs at most the budget. -/
def Offer.affordable [LinearOrder Amount] (offer : Offer Tier Amount) (budget : Amount)
    (tier : Tier) : Bool :=
  offer.price tier ≤ budget

/-! ## The walk -/

variable {offer}

/-- The walk stops at the last tier that sells. -/
theorem walkLeft_eq (tiers : List Tier) {count : ℕ} (inside : count ≤ tiers.length) :
    walkLeft offer tiers count = ((tiers.take count).filter offer.sells).getLast? := by
  induction count with
  | zero => rfl
  | succ idx ih =>
      have here : tiers[idx]? = some tiers[idx] := List.getElem?_eq_getElem inside
      rw [walkLeft, here, List.take_add_one, here, Option.toList_some, List.filter_append]
      cases sells : offer.sells tiers[idx] with
      | true => simp [sells]
      | false => simpa [sells] using ih (by omega)

/-! ## The bisection -/

variable {float}

/-- The floats of the prices pass a test where the prices do. -/
theorem length_filter_prices {tiers : List Tier} {test : F → Bool} {test' : Tier → Bool}
    (same : ∀ tier ∈ tiers, test (float (offer.price tier)) = test' tier) :
    ((TierSelector.new offer float tiers).prices.filter test).length
      = (tiers.filter test').length := by
  rw [TierSelector.new, List.filter_map, List.length_map]
  exact congrArg List.length (List.filter_congr same)

/-- Sorted prices are split by any test that smaller prices pass too. -/
theorem partitioned_prices {tiers : List Tier} {test : F → Bool} {test' : Tier → Bool}
    (same : ∀ tier ∈ tiers, test (float (offer.price tier)) = test' tier)
    (split : Partitioned test' tiers) :
    Partitioned test (TierSelector.new offer float tiers).prices := by
  refine List.pairwise_map.mpr (split.imp_of_mem fun inside inside' ahead passes => ?_)
  rw [same _ inside]
  rw [same _ inside'] at passes
  exact ahead passes

variable [LinearOrder Amount] [LinearOrder F] {amounts : Set Amount}

/-- The test of `bisect_right` is passed by the affordable prices. -/
theorem right_test (exact : StrictMonoOn float amounts) {tiers : List Tier}
    (priced : ∀ tier ∈ tiers, offer.price tier ∈ amounts) {budget : Amount}
    (asked : budget ∈ amounts) :
    ∀ tier ∈ tiers, (!decide (float budget < float (offer.price tier)))
      = offer.affordable budget tier := by
  intro tier inside
  unfold Offer.affordable
  simp only [← decide_not, not_lt, decide_eq_decide]
  exact exact.le_iff_le (priced tier inside) asked

/-- The test of `bisect_left` is passed by the smaller prices. -/
theorem left_test (exact : StrictMonoOn float amounts) {tiers : List Tier}
    (priced : ∀ tier ∈ tiers, offer.price tier ∈ amounts) {price : Amount}
    (asked : price ∈ amounts) :
    ∀ tier ∈ tiers, decide (float (offer.price tier) < float price)
      = decide (offer.price tier < price) := by
  intro tier inside
  rw [decide_eq_decide]
  exact exact.lt_iff_lt (priced tier inside) asked

/-! ## Sorted prices -/

/-- **The last affordable tier that sells**, where the affordable tiers stand in front. -/
theorem selectForBudget_of_partitioned (exact : StrictMonoOn float amounts) {tiers : List Tier}
    (priced : ∀ tier ∈ tiers, offer.price tier ∈ amounts) {budget : Amount}
    (split : Partitioned (offer.affordable budget) tiers) (asked : budget ∈ amounts) :
    selectForBudget offer float (TierSelector.new offer float tiers) budget
      = (tiers.filter fun tier => offer.affordable budget tier && offer.sells tier).getLast? := by
  have same := right_test exact priced asked
  -- the bisection ends behind the affordable tiers, and the walk goes back from there
  have cut : bisectRight (TierSelector.new offer float tiers).prices (float budget)
      = (tiers.filter (offer.affordable budget)).length :=
    (bisect_of_partitioned (partitioned_prices same split)).trans (length_filter_prices same)
  rw [selectForBudget, cut]
  show walkLeft offer tiers _ = _
  rw [walkLeft_eq tiers (List.length_filter_le _ _), split.take_eq, List.filter_filter]
  simp only [Bool.and_comm]

omit [LinearOrder F] in
/-- Tiers sorted by price have the affordable ones in front. -/
theorem partitioned_of_sorted {tiers : List Tier}
    (sorted : (tiers.map offer.price).Pairwise (· ≤ ·)) (budget : Amount) :
    Partitioned (offer.affordable budget) tiers := by
  refine (List.pairwise_map.mp sorted).imp fun order affordable => ?_
  exact decide_eq_true (order.trans (of_decide_eq_true affordable))

/-- **The first tier with the price.** -/
theorem selectExact_eq (exact : StrictMonoOn float amounts) {tiers : List Tier}
    (priced : ∀ tier ∈ tiers, offer.price tier ∈ amounts)
    (sorted : (tiers.map offer.price).Pairwise (· ≤ ·)) {price : Amount}
    (asked : price ∈ amounts) :
    selectExact float (TierSelector.new offer float tiers) price
      = tiers.find? fun tier => offer.price tier = price := by
  have same := left_test exact priced asked
  have split : Partitioned (fun tier => decide (offer.price tier < price)) tiers := by
    refine (List.pairwise_map.mp sorted).imp fun order below => ?_
    exact decide_eq_true (order.trans_lt (of_decide_eq_true below))
  have cut : bisectLeft (TierSelector.new offer float tiers).prices (float price)
      = (tiers.filter fun tier => offer.price tier < price).length :=
    (bisect_of_partitioned (partitioned_prices same split)).trans (length_filter_prices same)
  rw [selectExact, cut]
  clear cut split same
  -- induction along the tiers: the smaller prices are passed one by one
  induction tiers with
  | nil => rfl
  | cons first rest ih =>
      obtain ⟨ahead, tail⟩ := List.pairwise_cons.mp (List.pairwise_map.mp sorted)
      have pricedFirst := priced first List.mem_cons_self
      by_cases below : offer.price first < price
      · have different : ¬ offer.price first = price := below.ne
        rw [List.filter_cons_of_pos (by simpa using below),
          List.find?_cons_of_neg (by simpa using different)]
        exact ih (fun tier inside => priced tier (List.mem_cons_of_mem _ inside))
          (List.pairwise_map.mpr tail)
      · have none : (first :: rest).filter (fun tier => offer.price tier < price) = [] := by
          rw [List.filter_eq_nil_iff]
          intro tier inside
          rcases List.mem_cons.mp inside with rfl | inside
          · simpa using below
          · simpa using (not_lt.mp below).trans (ahead tier inside)
        rw [none]
        by_cases hit : offer.price first = price
        · rw [List.find?_cons_of_pos (by simpa using hit)]
          simp [TierSelector.new, hit]
        -- all that follow cost more than the price
        · have above : price < offer.price first := lt_of_le_of_ne (not_lt.mp below) (Ne.symm hit)
          have missed : ¬ float (offer.price first) = float price :=
            (exact asked pricedFirst above).ne'
          have later : ∀ tier ∈ first :: rest, ¬ offer.price tier = price := by
            intro tier inside
            rcases List.mem_cons.mp inside with rfl | inside
            · exact hit
            · exact (above.trans_le (ahead tier inside)).ne'
          rw [List.find?_eq_none.mpr (by simpa using later)]
          simp [TierSelector.new, missed]

/-- **Bisection selects what a scan selects.**  On tiers sorted by price, the selection
for a budget is the last affordable tier that sells, none of which costs more, and
there is none only where no tier qualifies; the selection of an exact price is the
first tier with the price, and there is none only where no tier has it. -/
theorem selector_eq_scan (exact : StrictMonoOn float amounts) {tiers : List Tier}
    (priced : ∀ tier ∈ tiers, offer.price tier ∈ amounts)
    (sorted : (tiers.map offer.price).Pairwise (· ≤ ·)) {budget price : Amount}
    (asked : budget ∈ amounts) (asked' : price ∈ amounts) :
    let selector := TierSelector.new offer float tiers
    let chosen := selectForBudget offer float selector budget
    let hit := selectExact float selector price
    let qualifies := fun tier => offer.affordable budget tier && offer.sells tier
    chosen = (tiers.filter qualifies).getLast? ∧
      (∀ tier, chosen = some tier → ∀ other ∈ tiers, qualifies other = true →
        offer.price other ≤ offer.price tier) ∧
      (chosen = none ↔ ∀ tier ∈ tiers, qualifies tier = false) ∧
      hit = tiers.find? (fun tier => offer.price tier = price) ∧
      (hit = none ↔ ∀ tier ∈ tiers, offer.price tier ≠ price) := by
  intro selector chosen hit qualifies
  have last : chosen = (tiers.filter qualifies).getLast? :=
    selectForBudget_of_partitioned exact priced (partitioned_of_sorted sorted budget) asked
  have first : hit = tiers.find? (fun tier => offer.price tier = price) :=
    selectExact_eq exact priced sorted asked'
  refine ⟨last, ?_, ?_, first, ?_⟩
  · intro tier found other inside passes
    rw [last] at found
    have order : (tiers.filter qualifies).Pairwise
        (fun first second => offer.price first ≤ offer.price second) :=
      (List.pairwise_map.mp sorted).sublist List.filter_sublist
    obtain ⟨front, split⟩ := List.getLast?_eq_some_iff.mp found
    have among : other ∈ tiers.filter qualifies := List.mem_filter.mpr ⟨inside, passes⟩
    rw [split] at order among
    rcases List.mem_append.mp among with ahead | here
    · exact (List.pairwise_append.mp order).2.2 other ahead tier (List.mem_singleton_self _)
    · exact le_of_eq (congrArg offer.price (List.mem_singleton.mp here))
  · rw [last, List.getLast?_eq_none_iff, List.filter_eq_nil_iff]
    simp only [Bool.not_eq_true]
  · rw [first, List.find?_eq_none]
    simp

/-! ## Any order -/

/-- What a buyer expects: a tier within the budget, and one wherever there is one. -/
def WithinBudget (offer : Offer Tier Amount) (tiers : List Tier) (budget : Amount)
    (chosen : Option Tier) : Prop :=
  (∀ tier, chosen = some tier → offer.price tier ≤ budget) ∧
    (chosen = none → ∀ tier ∈ tiers, offer.sells tier = true → budget < offer.price tier)

/-- Where the affordable tiers stand in front, a selection is within budget. -/
theorem withinBudget_of_partitioned (exact : StrictMonoOn float amounts) {tiers : List Tier}
    (priced : ∀ tier ∈ tiers, offer.price tier ∈ amounts) {budget : Amount}
    (split : Partitioned (offer.affordable budget) tiers) (asked : budget ∈ amounts) :
    WithinBudget offer tiers budget
      (selectForBudget offer float (TierSelector.new offer float tiers) budget) := by
  rw [selectForBudget_of_partitioned exact priced split asked]
  constructor
  · intro tier found
    have qualifies := (List.mem_filter.mp (List.mem_of_getLast? found)).2
    exact of_decide_eq_true (Bool.and_eq_true_iff.mp qualifies).1
  · intro none tier inside sells
    have empty := List.filter_eq_nil_iff.mp (List.getLast?_eq_none_iff.mp none) tier inside
    by_contra affordable
    exact empty (Bool.and_eq_true_iff.mpr ⟨decide_eq_true (not_lt.mp affordable), sells⟩)

omit [LinearOrder F] [LinearOrder Amount] in
/-- Where one tier only sells, the walk finds it or nothing. -/
theorem walkLeft_of_only {tiers : List Tier} {position : ℕ}
    (only : ∀ index tier, tiers[index]? = some tier → (offer.sells tier = true ↔ index = position))
    {count : ℕ} (inside : count ≤ tiers.length) :
    walkLeft offer tiers count = if position < count then tiers[position]? else none := by
  induction count with
  | zero => rfl
  | succ index ih =>
      have here : tiers[index]? = some tiers[index] := List.getElem?_eq_getElem inside
      have sells := only index _ here
      rw [walkLeft, here]
      by_cases found : index = position
      · subst found
        simp [sells.mpr rfl]
      · have skipped : offer.sells tiers[index] = false := by simpa [found] using sells
        have same : position < index + 1 ↔ position < index := by omega
        simp [skipped, ih (by omega), same]

end Selector

/-! ## The tiers of the model -/

/-- `ordering = ['sort_order', 'price']`. -/
def listedBefore (first second : TicketTier) : Prop :=
  first.sortOrder < second.sortOrder ∨
    first.sortOrder = second.sortOrder ∧ first.price ≤ second.price

/-- The tiers of a query, in the default order of the model. -/
structure TierListing where
  rows : List TicketTier
  ordered : rows.Pairwise listedBefore

/-- A ticket tier; `clock` is what `is_on_sale()` reads when it is asked of it. -/
def ticketOffer (clock : TicketTier → Time) : Offer TicketTier ℤ where
  price tier := tier.price
  quantityAvailable tier := tier.quantityAvailable
  isOnSale tier := tier.isOnSale (clock tier)

/-- Every tier within the budget is listed in front of every tier that is not. -/
def AffordableFirst (rows : List TicketTier) (budget : ℤ) : Prop :=
  rows.Pairwise fun first second => second.price ≤ budget → first.price ≤ budget

namespace TierListing

/-- What the order of the listing is about. -/
def prices (listing : TierListing) : List (ℕ × ℤ) :=
  listing.rows.map fun tier => (tier.sortOrder, tier.price)

/-- The listing when one ticket is left, of the tier at `position`. -/
def soldOutBut (listing : TierListing) (position : ℕ) : TierListing where
  rows := listing.rows.mapIdx fun index tier =>
    { tier with
      quantityTotal := if index = position then 1 else 0
      quantityHeld := 0
      quantitySold := 0
      saleStartsAt := none
      saleEndsAt := none
      isActive := true }
  ordered := by
    refine List.pairwise_iff_getElem.mpr fun i j inside inside' ahead => ?_
    rw [List.length_mapIdx] at inside inside'
    rw [List.getElem_mapIdx, List.getElem_mapIdx]
    exact List.pairwise_iff_getElem.mp listing.ordered i j inside inside' ahead

variable {listing : TierListing}

theorem prices_soldOutBut (position : ℕ) :
    (listing.soldOutBut position).prices = listing.prices := by
  refine List.ext_getElem? fun index => ?_
  simp [prices, soldOutBut, Function.comp_def]

theorem getElem?_soldOutBut {position index : ℕ} {tier : TicketTier}
    (found : (listing.soldOutBut position).rows[index]? = some tier) :
    (∃ listed, listing.rows[index]? = some listed ∧ tier.price = listed.price) ∧
      ∀ clock, ((ticketOffer clock).sells tier = true ↔ index = position) := by
  simp only [soldOutBut, List.getElem?_mapIdx, Option.map_eq_some_iff] at found
  obtain ⟨listed, isListed, rfl⟩ := found
  refine ⟨⟨listed, isListed, rfl⟩, fun clock => ?_⟩
  by_cases same : index = position
  · simp [Offer.sells, ticketOffer, Ticketing.TicketTier.quantityAvailable, TicketTier.isOnSale,
      same]
  · simp [Offer.sells, ticketOffer, Ticketing.TicketTier.quantityAvailable, same]

/-- The tier that is left is at its price, and sells. -/
theorem exists_soldOutBut {position : ℕ} (inside : position < listing.rows.length)
    (clock : TicketTier → Time) :
    ∃ tier, (listing.soldOutBut position).rows[position]? = some tier ∧
      tier.price = listing.rows[position].price ∧ (ticketOffer clock).sells tier = true := by
  have short : position < (listing.soldOutBut position).rows.length := by
    simpa [soldOutBut] using inside
  have found := List.getElem?_eq_getElem short
  obtain ⟨⟨listed, isListed, price⟩, sells⟩ := getElem?_soldOutBut found
  rw [List.getElem?_eq_getElem inside] at isListed
  obtain rfl := Option.some.inj isListed
  exact ⟨_, found, price, (sells clock).mpr rfl⟩

/-- Where the bisection of a listing ends; it reads the prices only. -/
def cut {F : Type} [LinearOrder F] (listing : TierListing) (float : ℤ → F) (budget : ℤ) : ℕ :=
  bisectRight (listing.prices.map fun entry => float entry.2) (float budget)

variable {F : Type} [LinearOrder F] {float : ℤ → F} {budget : ℤ}

theorem cut_le : listing.cut float budget ≤ listing.rows.length := by
  have bound := bisectRight_le (listing.prices.map fun entry => float entry.2) (float budget)
  rwa [List.length_map, prices, List.length_map] at bound

/-- With one ticket left, the selection is its tier or nothing. -/
theorem selectForBudget_soldOutBut (position : ℕ) (clock : TicketTier → Time) :
    selectForBudget (ticketOffer clock) float
        (TierSelector.new (ticketOffer clock) float (listing.soldOutBut position).rows) budget
      = if position < listing.cut float budget then (listing.soldOutBut position).rows[position]?
        else none := by
  have floats : (TierSelector.new (ticketOffer clock) float
      (listing.soldOutBut position).rows).prices
        = listing.prices.map fun entry => float entry.2 := by
    rw [← prices_soldOutBut position, TierSelector.new, prices, List.map_map]
    rfl
  rw [selectForBudget, floats]
  refine walkLeft_of_only (fun index tier found => (getElem?_soldOutBut found).2 clock) ?_
  rw [show (listing.soldOutBut position).rows.length = listing.rows.length from
    List.length_mapIdx]
  exact cut_le

theorem prices_eq_of_prices {other : TierListing} (same : other.prices = listing.prices) :
    other.rows.map TicketTier.price = listing.rows.map TicketTier.price := by
  have second : ∀ rows : List TicketTier, rows.map TicketTier.price
      = (rows.map fun tier => (tier.sortOrder, tier.price)).map Prod.snd := by
    intro rows
    rw [List.map_map]
    rfl
  rw [second, second]
  exact congrArg (List.map Prod.snd) same

end TierListing

/-- **Tiers in their default order.**  For every `sort_order` and price of the tiers and every
budget: the selection is within budget, whatever has been sold of the tiers and whenever
they are on sale, exactly when the tiers within the budget are listed in front of the
others. -/
theorem within_budget_iff {F : Type} [LinearOrder F] {float : ℤ → F} {amounts : Set ℤ}
    (exact : StrictMonoOn float amounts) (listing : TierListing)
    (priced : ∀ tier ∈ listing.rows, tier.price ∈ amounts) {budget : ℤ} (asked : budget ∈ amounts) :
    (∀ other : TierListing, other.prices = listing.prices → ∀ clock,
      WithinBudget (ticketOffer clock) other.rows budget
        (selectForBudget (ticketOffer clock) float
          (TierSelector.new (ticketOffer clock) float other.rows) budget)) ↔
      AffordableFirst listing.rows budget := by
  constructor
  · intro within
    refine List.pairwise_iff_getElem.mpr fun i j inside inside' ahead cheap => ?_
    have promise (position : ℕ) := within (listing.soldOutBut position)
      (TierListing.prices_soldOutBut position) fun _ => 0
    -- the bisection ends at one place, whatever has been sold
    by_cases front : i < listing.cut float budget
    · -- only the first of the two is left, and it is selected
      obtain ⟨tier, found, price, -⟩ := TierListing.exists_soldOutBut inside fun _ => 0
      have selected := (promise i).1 tier
      rw [TierListing.selectForBudget_soldOutBut, if_pos front] at selected
      exact price ▸ selected found
    · -- only the second is left, and it is missed
      obtain ⟨tier, found, price, sells⟩ := TierListing.exists_soldOutBut inside' fun _ => 0
      have missed := (promise j).2
      rw [TierListing.selectForBudget_soldOutBut, if_neg (by omega)] at missed
      have dear : budget < tier.price := missed rfl tier (List.mem_of_getElem? found) sells
      rw [price] at dear
      exact absurd cheap (not_le.mpr dear)
  · intro first other same clock
    have prices := TierListing.prices_eq_of_prices same
    refine withinBudget_of_partitioned exact (fun tier inside => ?_) ?_ asked
    · obtain ⟨source, isListed, isPrice⟩ := List.mem_map.mp (prices ▸ List.mem_map_of_mem inside)
      show tier.price ∈ amounts
      rw [← isPrice]
      exact priced source isListed
    · have ordered : (other.rows.map TicketTier.price).Pairwise
          fun first second => second ≤ budget → first ≤ budget := by
        rw [prices]
        exact List.pairwise_map.mpr first
      refine (List.pairwise_map.mp ordered).imp fun cheap affordable => ?_
      exact decide_eq_true (cheap (of_decide_eq_true affordable))

/-! ### Samples -/

namespace Sample

/-- A price in hundredths, as a number. -/
def units (price : ℤ) : ℚ := price / 100

theorem units_strictMono : StrictMonoOn units Set.univ := by
  intro first _ second _ less
  have cast : (first : ℚ) < second := Int.cast_lt.mpr less
  exact div_lt_div_of_pos_right cast (by norm_num)

/-- A tier of which `total` tickets have not been sold. -/
def tier (name : String) (price : ℤ) (total sortOrder : ℕ) : TicketTier :=
  { event := .ofNat 1, quantityTotal := total, name, price, sortOrder }

def offer : Offer TicketTier ℤ := ticketOffer fun _ => 0

/-- Three tiers by price, the second and the third for the same price. -/
def sorted : List TicketTier :=
  [tier "Early Bird" 50000 10 0, tier "Regular" 100000 10 0, tier "Group" 100000 0 0]

/-- Three tiers in the order an organizer gave them, all available. -/
def listing : TierListing where
  rows := [tier "Regular" 300000 10 0, tier "VIP" 500000 10 1, tier "Student" 100000 10 2]
  ordered := by simp [listedBefore, tier]

/-- Two tiers in the order an organizer gave them; the second is sold out. -/
def soldOut : TierListing where
  rows := [tier "VIP" 500000 10 0, tier "Regular" 100000 0 1]
  ordered := by simp [listedBefore, tier]

/-- The selection among the tiers of a list, by name. -/
def select (tiers : List TicketTier) (budget : ℤ) : Option String :=
  (selectForBudget offer units (TierSelector.new offer units tiers) budget).map TicketTier.name

end Sample

theorem selector_eq_scan_sample :
    Sample.select Sample.sorted 120000 = some "Regular" ∧
      selectForBudget Sample.offer Sample.units
          (TierSelector.new Sample.offer Sample.units Sample.sorted) 120000
        = (Sample.sorted.filter fun tier =>
            Sample.offer.affordable 120000 tier && Sample.offer.sells tier).getLast? :=
  ⟨by decide +kernel, (selector_eq_scan Sample.units_strictMono (fun _ _ => trivial)
    (by decide) trivial (show (100000 : ℤ) ∈ Set.univ from trivial)).1⟩

/-- With a budget of 6000, which every tier is within, the last tier is selected. -/
theorem within_budget_sample :
    Sample.select Sample.listing.rows 600000 = some "Student" ∧
      WithinBudget Sample.offer Sample.listing.rows 600000
        (selectForBudget Sample.offer Sample.units
          (TierSelector.new Sample.offer Sample.units Sample.listing.rows) 600000) := by
  refine ⟨by decide +kernel, (within_budget_iff Sample.units_strictMono Sample.listing
    (fun _ _ => trivial) trivial).mpr ?_ Sample.listing rfl fun _ => 0⟩
  simp [AffordableFirst, Sample.listing, Sample.tier]

-- not in front, and selected all the same: this stock hides that the order is wrong
example : Sample.select [Sample.tier "VIP" 500000 10 0, Sample.tier "Regular" 100000 10 1] 200000
    = some "Regular" := by
  decide +kernel

/-- **Over budget, and nothing for the budget.**  With a budget of 2000, a tier of 5000 is
selected where the tier of 1000 is sold out; and none is selected where a tier of
1000 is available. -/
theorem over_budget :
    Sample.select Sample.soldOut.rows 200000 = some "VIP" ∧
      ¬ WithinBudget Sample.offer Sample.soldOut.rows 200000
          (selectForBudget Sample.offer Sample.units
            (TierSelector.new Sample.offer Sample.units Sample.soldOut.rows) 200000) ∧
      Sample.select Sample.listing.rows 200000 = none ∧
      ¬ WithinBudget Sample.offer Sample.listing.rows 200000
          (selectForBudget Sample.offer Sample.units
            (TierSelector.new Sample.offer Sample.units Sample.listing.rows) 200000) := by
  refine ⟨by decide +kernel, fun within => ?_, by decide +kernel, fun within => ?_⟩
  · have cheap := within.1 (Sample.tier "VIP" 500000 10 0) (by decide +kernel)
    revert cheap
    decide
  · have dear := within.2 (by decide +kernel) (Sample.tier "Student" 100000 10 2) (by decide)
      (by decide +kernel)
    revert dear
    decide

end Ticketing.Catalog
