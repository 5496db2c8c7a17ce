import Joinery.Proofs.Pricing.Amounts

/-!
# Larger orders cost no less

Main statement: where dimensions, the price of the tier and quantities grow, and
supplements are added, no amount of the quote falls, and a quote that can be made
for the larger order can be made for the smaller one.
-/

namespace Joinery

open Decimal

section Volumes

variable {dimensions dimensions' : List UInt32} {policy : HeightPolicy}

theorem millimetres_mono (grown : List.Forall₂ (· ≤ ·) dimensions dimensions') (slot : Nat) :
    millimetres dimensions slot ≤ millimetres dimensions' slot := by
  induction grown generalizing slot with
  | nil => exact le_rfl
  | cons first _ ih =>
      cases slot with
      | zero => exact first
      | succ slot => exact ih slot

theorem isAveraged_iff (grown : List.Forall₂ (· ≤ ·) dimensions dimensions') :
    IsAveraged dimensions policy ↔ IsAveraged dimensions' policy := by
  rw [IsAveraged, IsAveraged, grown.length_eq]

theorem volumeParts_mono (few : dimensions.length ≤ 4)
    (grown : List.Forall₂ (· ≤ ·) dimensions dimensions') :
    (volumeParts dimensions policy).1 ≤ (volumeParts dimensions' policy).1 := by
  have width := millimetres_mono grown 0
  have depth := millimetres_mono grown 1
  have height := millimetres_mono grown 2
  have top := millimetres_mono grown 3
  have same : IsAveraged dimensions policy ↔ IsAveraged dimensions' policy := isAveraged_iff grown
  rw [volumeParts_eq few, volumeParts_eq (grown.length_eq ▸ few), ← if_congr same rfl rfl]
  split
  · dsimp only
    gcongr
  · dsimp only
    gcongr

theorem cubicMetres_mono (grown : List.Forall₂ (· ≤ ·) dimensions dimensions') :
    cubicMetres dimensions policy ≤ cubicMetres dimensions' policy := by
  have millimetres (slot : Nat) :
      (millimetres dimensions slot : ℚ) ≤ millimetres dimensions' slot :=
    Nat.cast_le.mpr (millimetres_mono grown slot)
  have height : pricedHeight dimensions policy ≤ pricedHeight dimensions' policy := by
    rw [pricedHeight, pricedHeight, ← if_congr (isAveraged_iff grown) rfl rfl]
    split
    · have base := millimetres 2
      have top := millimetres 3
      linarith
    · exact millimetres 2
  have nonneg : 0 ≤ pricedHeight dimensions policy := by
    rw [pricedHeight]
    split <;> positivity
  have width := millimetres 0
  have depth := millimetres 1
  rw [cubicMetres, cubicMetres]
  gcongr

theorem volume_mono (few : dimensions.length ≤ 4)
    (grown : List.Forall₂ (· ≤ ·) dimensions dimensions') {v' : Decimal}
    (priced : volume dimensions' policy = .ok v') :
    ∃ v, volume dimensions policy = .ok v ∧ 0 ≤ v.value ∧ v.value ≤ v'.value := by
  have fits := (volumeParts_mono few grown).trans_lt (fits_of_volume priced)
  obtain ⟨v, made, value⟩ := volume_eq_ok few fits
  refine ⟨v, made, value ▸ cubicMetres_nonneg, ?_⟩
  rw [value, value_of_volume (grown.length_eq ▸ few) priced]
  exact cubicMetres_mono grown

end Volumes

section Supplements

variable {lines same more : List SupplementLine} {sum sum' total total' : Money}

theorem addTotals_append_eq_ok_iff :
    Selection.addTotals sum (same ++ more) = .ok total ↔
      ∃ middle, Selection.addTotals sum same = .ok middle ∧
        Selection.addTotals middle more = .ok total := by
  induction same generalizing sum with
  | nil => simp [Selection.addTotals]
  | cons line rest ih =>
      simp only [List.cons_append, addTotals_cons_eq_ok_iff, ih]
      grind

/-- A sum of lines that cost no more can be made as well, and is not greater. -/
theorem addTotals_mono
    (cheaper : List.Forall₂ (fun a b => a.exactTotal ≤ b.exactTotal) lines same)
    (prices : ∀ line ∈ lines, 0 ≤ line.unitPrice.value)
    (prices' : ∀ line ∈ same, 0 ≤ line.unitPrice.value) (nonneg : 0 ≤ sum.value)
    (le : sum.value ≤ sum'.value) (added : Selection.addTotals sum' same = .ok total') :
    ∃ total, Selection.addTotals sum lines = .ok total ∧ 0 ≤ total.value ∧
      total.value ≤ total'.value := by
  induction cheaper generalizing sum sum' with
  | nil =>
      obtain rfl := Except.ok.inj added
      exact ⟨sum, rfl, nonneg, le⟩
  | @cons line line' rest rest' first _ ih =>
      have price : 0 ≤ line.unitPrice.value := prices line (by simp)
      have price' : 0 ≤ line'.unitPrice.value := prices' line' (by simp)
      obtain ⟨first', next', carried', summed', later'⟩ :=
        carried_of_addTotals_cons price' (nonneg.trans le) added
      obtain ⟨cost, priced, cost_nonneg, cost_le⟩ :=
        (Money.carried_times price line.quantity).mono carried'
          (SupplementLine.exactTotal_nonneg price) first
      obtain ⟨next, summed, next_nonneg, next_le⟩ :=
        (Money.carried_add nonneg cost_nonneg).mono summed' (add_nonneg nonneg cost_nonneg)
          (add_le_add le cost_le)
      obtain ⟨total, later, total_nonneg, total_le⟩ :=
        ih (fun l mem => prices l (by simp [mem])) (fun l mem => prices' l (by simp [mem]))
          next_nonneg next_le later'
      exact ⟨total, addTotals_cons_eq_ok_iff.mpr ⟨cost, next, priced, summed, later⟩,
        total_nonneg, total_le⟩

end Supplements

section Selections

variable {catalog : SupplementCatalog} {picks picks' more : List (String × UInt32)}
  {lines lines' : List SupplementLine}

theorem selectAll_append_eq_ok (chosen : catalog.selectAll (picks ++ more) = .ok lines) :
    ∃ same rest, catalog.selectAll picks = .ok same ∧ catalog.selectAll more = .ok rest ∧
      lines = same ++ rest := by
  induction picks generalizing lines with
  | nil => exact ⟨[], lines, rfl, chosen, rfl⟩
  | cons pick others ih =>
      obtain ⟨id, quantity⟩ := pick
      rw [List.cons_append, SupplementCatalog.selectAll] at chosen
      split at chosen
      · cases chosen
      rename_i line first
      split at chosen
      · cases chosen
      rename_i found later
      obtain rfl := Except.ok.inj chosen
      obtain ⟨same, rest, front, back, rfl⟩ := ih later
      refine ⟨line :: same, rest, ?_, back, rfl⟩
      simp [SupplementCatalog.selectAll, first, front]

/-- Larger quantities of the same supplements make lines that cost no less. -/
theorem cheaper_of_quantities (built : catalog.Built)
    (quantities : List.Forall₂ (fun a b => a.1 = b.1 ∧ a.2 ≤ b.2) picks picks')
    (chosen : catalog.selectAll picks = .ok lines)
    (chosen' : catalog.selectAll picks' = .ok lines') :
    List.Forall₂ (fun a b => a.exactTotal ≤ b.exactTotal) lines lines' := by
  have each := SupplementCatalog.forall₂_of_selectAll chosen
  have each' := SupplementCatalog.forall₂_of_selectAll chosen'
  clear chosen chosen'
  induction quantities generalizing lines lines' with
  | nil =>
      cases each
      cases each'
      exact .nil
  | @cons a b _ _ grown _ ih =>
      obtain @⟨-, -, -⟩ | @⟨_, line, _, _, first, rest⟩ := each
      obtain @⟨-, -, -⟩ | @⟨_, line', _, _, first', rest'⟩ := each'
      refine .cons ?_ (ih rest rest')
      obtain ⟨entry, found, price, quantity⟩ := SupplementCatalog.select_eq_ok first
      obtain ⟨entry', found', price', quantity'⟩ := SupplementCatalog.select_eq_ok first'
      rw [← grown.1, found] at found'
      obtain rfl := Option.some.inj found'
      have nonneg := built.select_nonneg first
      have quantity_le : line.quantity.toNat ≤ line'.quantity.toNat := by
        rw [quantity, quantity']
        exact UInt32.le_iff_toNat_le.mp grown.2
      rw [SupplementLine.exactTotal, SupplementLine.exactTotal, price', ← price]
      exact mul_le_mul_of_nonneg_left (Nat.cast_le.mpr quantity_le) nonneg

/-- The supplements of a larger selection cost no less. -/
theorem selection_total_mono {selection selection' : Selection} {total' : Money}
    (built : catalog.Built)
    (quantities : List.Forall₂ (fun a b => a.1 = b.1 ∧ a.2 ≤ b.2) picks picks')
    (chosen : catalog.selection picks = .ok selection)
    (chosen' : catalog.selection (picks' ++ more) = .ok selection')
    (priced : selection'.total = .ok total') :
    ∃ total, selection.total = .ok total ∧ 0 ≤ total.value ∧ total.value ≤ total'.value := by
  have prices := built.selection_nonneg chosen
  have prices' := built.selection_nonneg chosen'
  have all := SupplementCatalog.selectAll_of_selection chosen
  have all' := SupplementCatalog.selectAll_of_selection chosen'
  obtain ⟨same, rest, front, -, split⟩ := selectAll_append_eq_ok all'
  rw [Selection.total, split, addTotals_append_eq_ok_iff] at priced
  rw [split] at prices'
  obtain ⟨middle, first, later⟩ := priced
  obtain ⟨total, added, total_nonneg, total_le⟩ :=
    addTotals_mono (cheaper_of_quantities built quantities all front) prices
      (fun line mem => prices' line (by simp [mem])) Money.value_zero.ge le_rfl first
  refine ⟨total, added, total_nonneg, total_le.trans ?_⟩
  exact le_addTotals (fun line mem => prices' line (by simp [mem]))
    (total_nonneg.trans total_le) later

end Selections

theorem basePrice_mono {v v' : Decimal} {tier tier' : PriceTier} {base' : Money}
    (nonneg : 0 ≤ v.value) (volume_le : v.value ≤ v'.value)
    (price_le : tier.pricePerCubicMeter.value ≤ tier'.pricePerCubicMeter.value)
    (priced : basePrice v' tier' = .ok base') :
    ∃ base, basePrice v tier = .ok base ∧ 0 ≤ base.value ∧ base.value ≤ base'.value := by
  have carried := carried_basePrice (nonneg.trans volume_le) tier'
  rw [basePrice_eq_ok_iff.mp priced] at carried
  obtain ⟨base, made, base_nonneg, base_le⟩ :=
    (carried_basePrice nonneg tier).mono carried (mul_nonneg nonneg tier.value_nonneg)
      (mul_le_mul volume_le price_le tier.value_nonneg (nonneg.trans volume_le))
  exact ⟨base, basePrice_eq_ok_iff.mpr made, base_nonneg, base_le⟩

theorem totalPrice_mono {base base' supplements supplements' : Money} {total' : Int64}
    (base_nonneg : 0 ≤ base.value) (base_le : base.value ≤ base'.value)
    (supplements_nonneg : 0 ≤ supplements.value)
    (supplements_le : supplements.value ≤ supplements'.value)
    (priced : totalPrice base' supplements' = .ok total') :
    ∃ total, totalPrice base supplements = .ok total ∧ total ≤ total' := by
  have base_nonneg' := base_nonneg.trans base_le
  have supplements_nonneg' := supplements_nonneg.trans supplements_le
  obtain ⟨sum', added', rounded'⟩ :=
    (totalPrice_eq_ok_iff base_nonneg' supplements_nonneg').mp priced
  have carried := Money.carried_add base_nonneg' supplements_nonneg'
  rw [added'] at carried
  obtain ⟨sum, added, sum_nonneg, sum_le⟩ :=
    (Money.carried_add base_nonneg supplements_nonneg).mono carried
      (add_nonneg base_nonneg supplements_nonneg) (add_le_add base_le supplements_le)
  have floor_le : ⌊sum.value + 1 / 2⌋ ≤ ⌊sum'.value + 1 / 2⌋ := by
    apply Int.floor_le_floor
    linarith
  have floor_nonneg : 0 ≤ ⌊sum.value + 1 / 2⌋ := Int.floor_nonneg.mpr (by linarith)
  have bound := total'.toInt_lt
  refine ⟨Int64.ofInt ⌊sum.value + 1 / 2⌋, ?_, ?_⟩
  · rw [totalPrice_eq_ok_iff base_nonneg supplements_nonneg]
    exact ⟨sum, added, Int64.toInt_ofInt_of_le (by omega) (by omega)⟩
  · rw [Int64.le_iff_toInt_le, Int64.toInt_ofInt_of_le (by omega) (by omega), rounded']
    exact floor_le

/-- A larger order costs no less. If the order with the larger dimensions, the dearer
tier and the larger selection can be priced, so can the smaller one under the same
height policy, and none of its amounts is greater. -/
theorem quote_mono {small large : CheckedSpecification} {tier tier' : PriceTier}
    {catalog : SupplementCatalog} {picks picks' more : List (String × UInt32)}
    {selection selection' : Selection} {policy : HeightPolicy} {quote' : Quote}
    (dimensions : List.Forall₂ (· ≤ ·) small.spec.dimensions large.spec.dimensions)
    (price : tier.pricePerCubicMeter.value ≤ tier'.pricePerCubicMeter.value)
    (built : catalog.Built)
    (quantities : List.Forall₂ (fun a b => a.1 = b.1 ∧ a.2 ≤ b.2) picks picks')
    (chosen : catalog.selection picks = .ok selection)
    (chosen' : catalog.selection (picks' ++ more) = .ok selection')
    (priced : large.quote tier' selection' policy = .ok quote') :
    ∃ quote, small.quote tier selection policy = .ok quote ∧
      quote.basePrice.value ≤ quote'.basePrice.value ∧
      quote.supplementsTotal.value ≤ quote'.supplementsTotal.value ∧
      quote.totalPrice ≤ quote'.totalPrice := by
  have few : small.spec.dimensions.length ≤ 4 := by
    rcases small.length_dimensions with three | four <;> omega
  obtain ⟨v', base', supplements', total', volume', based', supplemented', totalled', rfl⟩ :=
    quoteDimensions_eq_ok_iff.mp priced
  obtain ⟨v, volume, volume_nonneg, volume_le⟩ := volume_mono few dimensions volume'
  obtain ⟨base, based, base_nonneg, base_le⟩ :=
    basePrice_mono volume_nonneg volume_le price based'
  obtain ⟨supplements, supplemented, supplements_nonneg, supplements_le⟩ :=
    selection_total_mono built quantities chosen chosen' supplemented'
  obtain ⟨total, totalled, total_le⟩ :=
    totalPrice_mono base_nonneg base_le supplements_nonneg supplements_le totalled'
  refine ⟨⟨v, base, supplements, total, policy⟩, ?_, base_le, supplements_le, total_le⟩
  exact quoteDimensions_eq_ok_iff.mpr
    ⟨v, base, supplements, total, volume, based, supplemented, totalled, rfl⟩

/-- Wider shelving in a dearer tier with more drawers. -/
theorem quote_mono_shelving :
    ∃ quote, narrowShelving.quote (melamine (.ofUInt32 1500) rfl)
        ⟨[drawerLine 1]⟩ .declaredHeight = .ok quote ∧
      quote.basePrice.value ≤ 2000 ∧ quote.supplementsTotal.value ≤ 135 ∧
        quote.totalPrice ≤ 2135 := by
  have dimensions : List.Forall₂ (· ≤ ·) narrowShelving.spec.dimensions
      wideShelving.spec.dimensions := by
    simp [narrowShelving, wideShelving, shelving]
  have price : (melamine (.ofUInt32 1500) rfl).pricePerCubicMeter.value ≤
      (melamine (.ofUInt32 2000) rfl).pricePerCubicMeter.value := by
    simp only [melamine, value_ofUInt32, Nat.cast_le]
    decide
  have quantities : List.Forall₂ (fun a b => a.1 = b.1 ∧ a.2 ≤ b.2)
      [("drawer", (1 : UInt32))] [("drawer", 2)] := by
    simp
  have chosen : drawerCatalog.selection [("drawer", 1)] = .ok ⟨[drawerLine 1]⟩ := by rfl
  have chosen' : drawerCatalog.selection ([("drawer", 2)] ++ [("drawer", 1)]) =
      .ok ⟨[drawerLine 2, drawerLine 1]⟩ := by rfl
  have priced : wideShelving.quote (melamine (.ofUInt32 2000) rfl)
      ⟨[drawerLine 2, drawerLine 1]⟩ .declaredHeight =
        .ok ⟨.ofUInt32 1, ⟨.ofUInt32 2000⟩, ⟨.ofUInt32 135⟩, 2135, .declaredHeight⟩ := by rfl
  have smaller := quote_mono dimensions price drawerCatalog_built quantities chosen chosen' priced
  simpa [Money.value, value_ofUInt32] using smaller

end Joinery
