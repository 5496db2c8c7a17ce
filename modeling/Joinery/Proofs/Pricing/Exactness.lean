import Joinery.Proofs.Pricing.Amounts

/-!
# Where quotes are exact

A product or a sum that has more than 28 places, or a mantissa of more than 96 bits,
is rounded to what fits before the total is rounded to whole units. Main statement: a
quote is what a single rounding gives just where its base price can be held, the lines
of its supplements add up, and the sum of both is not brought up onto half a unit. There
the first rounding goes up to the half and the second goes up from it, while the exact
sum goes down.
-/

namespace Joinery

open Decimal

/-- The exact base price: the volume times the price of the tier. -/
def exactBase (dimensions : List UInt32) (policy : HeightPolicy) (tier : PriceTier) : ℚ :=
  cubicMetres dimensions policy * tier.pricePerCubicMeter.value

/-- A quote with the base price and the supplements given, whose total is rounded once. -/
structure Quote.IsExact (quote : Quote) (base supplements : ℚ) : Prop where
  basePrice : quote.basePrice.value = base
  supplementsTotal : quote.supplementsTotal.value = supplements
  totalPrice : quote.totalPrice.toInt = halfAway (base + supplements)

theorem exactBase_nonneg (dimensions : List UInt32) (policy : HeightPolicy) (tier : PriceTier) :
    0 ≤ exactBase dimensions policy tier :=
  mul_nonneg cubicMetres_nonneg tier.value_nonneg

theorem carried_exactBase {dimensions : List UInt32} {policy : HeightPolicy} {tier : PriceTier}
    {v : Decimal} {base : Money} (few : dimensions.length ≤ 4)
    (measured : volume dimensions policy = .ok v) (priced : basePrice v tier = .ok base) :
    Money.Carried (exactBase dimensions policy tier) (some base) := by
  have measure : v.value = cubicMetres dimensions policy := value_of_volume few measured
  have carried := carried_basePrice (measure ▸ cubicMetres_nonneg) tier
  rwa [basePrice_eq_ok_iff.mp priced, measure] at carried

/-- What lines add up to from a sum on, if each total and each sum is held as a decimal. -/
def heldSum (sum : ℚ) : List SupplementLine → ℚ
  | [] => sum
  | line :: rest => heldSum (held (sum + held line.exactTotal)) rest

theorem value_of_addTotals {lines : List SupplementLine} {sum total : Money}
    (prices : ∀ line ∈ lines, 0 ≤ line.unitPrice.value) (nonneg : 0 ≤ sum.value)
    (added : Selection.addTotals sum lines = .ok total) :
    total.value = heldSum sum.value lines := by
  induction lines generalizing sum with
  | nil => rw [Except.ok.inj added, heldSum]
  | cons line rest ih =>
      have price : 0 ≤ line.unitPrice.value := prices line (by simp)
      obtain ⟨first, next, carried, carried', later⟩ :=
        carried_of_addTotals_cons price nonneg added
      have cost : first.value = held line.exactTotal :=
        carried.value_eq_held (SupplementLine.exactTotal_nonneg price)
      have step : next.value = held (sum.value + first.value) :=
        carried'.value_eq_held (add_nonneg nonneg carried.value_nonneg)
      rw [heldSum, ← cost, ← step]
      exact ih (fun l mem => prices l (by simp [mem])) carried'.value_nonneg later

/-- From a sum on, some decimal is the exact total of each line, and some decimal is
each sum that is reached. -/
def KeptFrom (sum : ℚ) : List SupplementLine → Prop
  | [] => True
  | line :: rest =>
    Representable line.exactTotal ∧ Representable (sum + line.exactTotal) ∧
      KeptFrom (sum + line.exactTotal) rest

/-- Lines add up as long as each total and each sum can be held as it is. -/
theorem heldSum_of_keptFrom {lines : List SupplementLine} {sum : ℚ}
    (prices : ∀ line ∈ lines, 0 ≤ line.unitPrice.value) (nonneg : 0 ≤ sum)
    (kept : KeptFrom sum lines) : heldSum sum lines = sum + exactSum lines := by
  induction lines generalizing sum with
  | nil => simp [heldSum, exactSum]
  | cons line rest ih =>
      have least : 0 ≤ line.exactTotal :=
        SupplementLine.exactTotal_nonneg (prices line (by simp))
      obtain ⟨whole, reached, others⟩ := kept
      have later := ih (fun l mem => prices l (by simp [mem])) (add_nonneg nonneg least) others
      rw [heldSum, held_eq_self least whole, held_eq_self (add_nonneg nonneg least) reached, later,
        exactSum, exactSum, List.map_cons, List.sum_cons, add_assoc]

/-- An amount does not fit, and is brought up onto half a unit. -/
def RaisedOntoHalf (q : ℚ) : Prop := q < held q ∧ ∃ k : ℕ, held q = k + 1 / 2

theorem totalPrice_eq_halfAway_iff {base supplements : Money} {total : Int64}
    (nonneg : 0 ≤ base.value) (nonneg' : 0 ≤ supplements.value)
    (priced : totalPrice base supplements = .ok total) :
    total.toInt = halfAway (base.value + supplements.value) ↔
      ¬RaisedOntoHalf (base.value + supplements.value) := by
  obtain ⟨sum, added, rounded⟩ := (totalPrice_eq_ok_iff nonneg nonneg').mp priced
  have carried := Money.carried_add nonneg nonneg'
  rw [added] at carried
  have whole : total.toInt = halfAway sum.value := by
    rw [rounded, halfAway_of_nonneg carried.value_nonneg]
  have small : halfAway sum.value < 2 ^ 63 := whole ▸ total.toInt_lt
  have exact_nonneg := add_nonneg nonneg nonneg'
  rw [whole, Carries.halfAway_eq_iff carried exact_nonneg small, RaisedOntoHalf,
    ← carried.value_eq_held exact_nonneg]

/-- A quote is exact up to the rounding of its total just where its base price can be held, the
lines of the supplements add up although each total and each sum is held as a decimal, and the
sum of the two is not raised onto half a unit. The lines do add up where every total and every
running sum can be held as it is. -/
theorem quote_isExact_iff {checked : CheckedSpecification} {tier : PriceTier}
    {catalog : SupplementCatalog} {picks : List (String × UInt32)} {selection : Selection}
    {policy : HeightPolicy} {quote : Quote} (built : catalog.Built)
    (chosen : catalog.selection picks = .ok selection)
    (priced : checked.quote tier selection policy = .ok quote) :
    let base := exactBase checked.spec.dimensions policy tier
    let supplements := exactSum selection.lines
    (quote.IsExact base supplements ↔ Representable base ∧
      heldSum 0 selection.lines = supplements ∧ ¬RaisedOntoHalf (base + supplements)) ∧
    (KeptFrom 0 selection.lines → heldSum 0 selection.lines = supplements) := by
  have few : checked.spec.dimensions.length ≤ 4 := by
    rcases checked.length_dimensions with three | four <;> omega
  obtain ⟨v, base, supplements, total, measured, based, supplemented, totalled, rfl⟩ :=
    quoteDimensions_eq_ok_iff.mp priced
  have prices := built.selection_nonneg chosen
  have carried := carried_exactBase few measured based
  have exact_base := carried.value_eq_iff (exactBase_nonneg _ _ _)
  have added_up : supplements.value = heldSum 0 selection.lines := by
    simpa using value_of_addTotals prices Money.value_zero.ge supplemented
  have supplements_nonneg : 0 ≤ supplements.value := by
    simpa using le_addTotals prices Money.value_zero.ge supplemented
  have exact_total :=
    totalPrice_eq_halfAway_iff carried.value_nonneg supplements_nonneg totalled
  refine ⟨⟨fun exact => ?_, fun ⟨held_base, adds_up, away⟩ => ?_⟩, fun kept => ?_⟩
  · have base_value := exact.basePrice
    have supplements_value := exact.supplementsTotal
    refine ⟨exact_base.mp base_value, added_up.symm.trans supplements_value, ?_⟩
    rw [← base_value, ← supplements_value]
    refine exact_total.mp ?_
    rw [base_value, supplements_value]
    exact exact.totalPrice
  · have base_value := exact_base.mpr held_base
    have supplements_value := added_up.trans adds_up
    refine ⟨base_value, supplements_value, ?_⟩
    rw [← base_value, ← supplements_value] at away ⊢
    exact exact_total.mpr away
  · simpa using heldSum_of_keptFrom prices le_rfl kept

/-- Shelving of a cubic metre with two drawers. -/
theorem quote_isExact_shelving :
    ∃ quote, wideShelving.quote (melamine (.ofUInt32 1500) rfl) ⟨[drawerLine 2]⟩ .declaredHeight =
      .ok quote ∧ quote.IsExact 1500 90 := by
  have chosen : drawerCatalog.selection [("drawer", 2)] = .ok ⟨[drawerLine 2]⟩ := by rfl
  have priced : wideShelving.quote (melamine (.ofUInt32 1500) rfl) ⟨[drawerLine 2]⟩
      .declaredHeight =
        .ok ⟨.ofUInt32 1, ⟨.ofUInt32 1500⟩, ⟨.ofUInt32 90⟩, 1590, .declaredHeight⟩ := by rfl
  have base : exactBase wideShelving.spec.dimensions .declaredHeight
      (melamine (.ofUInt32 1500) rfl) = 1500 := by
    norm_num [exactBase, cubicMetres, pricedHeight, IsAveraged, millimetres, wideShelving, shelving,
      melamine, value_ofUInt32, UInt32.toNat_ofNat]
  have line : (drawerLine 2).exactTotal = 90 := by
    norm_num [SupplementLine.exactTotal, drawerLine, Money.value, value_ofUInt32,
      UInt32.toNat_ofNat]
  have supplements : exactSum [drawerLine 2] = 90 := by simp [exactSum, line]
  have whole : (ofUInt32 1500).value = 1500 ∧ (ofUInt32 90).value = 90 ∧
      (ofUInt32 1590).value = 1590 := by
    norm_num [value_ofUInt32, UInt32.toNat_ofNat]
  have kept : KeptFrom 0 [drawerLine 2] := by
    rw [KeptFrom, KeptFrom, line, zero_add]
    exact ⟨⟨_, whole.2.1⟩, ⟨_, whole.2.1⟩, trivial⟩
  have away : ¬RaisedOntoHalf (1500 + 90) := by
    rintro ⟨raised, -⟩
    rw [held_eq_self (by norm_num) ⟨.ofUInt32 1590, by norm_num [whole]⟩] at raised
    exact lt_irrefl _ raised
  obtain ⟨exact_iff, adds_up⟩ := quote_isExact_iff drawerCatalog_built chosen priced
  rw [base, supplements] at exact_iff
  exact ⟨_, priced, exact_iff.mpr ⟨⟨_, whole.1⟩, supplements ▸ adds_up kept, away⟩⟩

/-- The greatest price below a half with 28 places. -/
def almostHalf : Decimal := ofParts false 4999999999999999999999999999 28 (by decide) (by decide)

/-- An order of 45.4999999999999999999999999999 is priced at 46: the sum of its base
price and its supplements has 30 digits, so it is kept as 45.5. -/
theorem quote_not_isExact :
    ¬∀ (checked : CheckedSpecification) (tier : PriceTier) (catalog : SupplementCatalog)
      (picks : List (String × UInt32)) (selection : Selection) (policy : HeightPolicy)
      (quote : Quote), catalog.Built → catalog.selection picks = .ok selection →
        checked.quote tier selection policy = .ok quote →
          quote.IsExact (exactBase checked.spec.dimensions policy tier)
            (exactSum selection.lines) := by
  intro all
  have chosen : drawerCatalog.selection [("drawer", 1)] = .ok ⟨[drawerLine 1]⟩ := by rfl
  have priced : wideShelving.quote (melamine almostHalf rfl)
      ⟨[drawerLine 1]⟩ .declaredHeight =
        .ok ⟨.ofUInt32 1, ⟨almostHalf⟩, ⟨.ofUInt32 45⟩, 46, .declaredHeight⟩ := by rfl
  have exact := all _ _ _ _ _ _ _ drawerCatalog_built chosen priced
  have sum : almostHalf.value + (ofUInt32 45).value = 454999999999999999999999999999 / 10 ^ 28 := by
    norm_num [almostHalf, value_ofParts, value_ofUInt32, UInt32.toNat_ofNat]
  have once : halfAway (almostHalf.value + (ofUInt32 45).value) = 45 := by
    rw [sum, halfAway_of_nonneg (by positivity), Int.floor_eq_iff]
    norm_num
  have total := exact.totalPrice
  rw [← exact.basePrice, ← exact.supplementsTotal, once] at total
  exact absurd total (by decide)

end Joinery
