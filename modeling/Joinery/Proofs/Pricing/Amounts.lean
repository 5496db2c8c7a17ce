import Joinery.Pricing.Quote
import Joinery.Proofs.Decimal.Amount
import Joinery.Proofs.Traversal
import Joinery.Proofs.Validation.Report

/-!
# The amounts of a quote

What each step of a quote does to the rational amounts behind the decimals: the
volume is exact, and a base price, the total of a line, a running sum and the sum of
a quote are the exact results of their step, rounded to what fits.
-/

namespace Joinery

open Decimal

/-- A dimension in millimetres; a missing one counts as zero. -/
def millimetres (dimensions : List UInt32) (slot : Nat) : Nat := (dimensions.getD slot 0).toNat

/-- Whether the height of a piece is the mean of its two heights. -/
def IsAveraged (dimensions : List UInt32) (policy : HeightPolicy) : Prop :=
  policy = .averageWithMaximum ∧ dimensions.length = 4

instance (dimensions : List UInt32) (policy : HeightPolicy) :
    Decidable (IsAveraged dimensions policy) :=
  inferInstanceAs (Decidable (_ ∧ _))

/-- The height that is priced: the declared one, or the mean of the two heights of a
piece with four dimensions. -/
def pricedHeight (dimensions : List UInt32) (policy : HeightPolicy) : ℚ :=
  if IsAveraged dimensions policy then
    (millimetres dimensions 2 + millimetres dimensions 3) / 2
  else millimetres dimensions 2

/-- The exact volume in cubic metres. -/
def cubicMetres (dimensions : List UInt32) (policy : HeightPolicy) : ℚ :=
  millimetres dimensions 0 * millimetres dimensions 1 * pricedHeight dimensions policy / 10 ^ 9

section Volumes

variable {dimensions : List UInt32} {policy : HeightPolicy} {v : Decimal}

/-- The declared height counts if it is asked for, or if there is no other. -/
theorem volumeParts_of_declared
    (declared : policy = .declaredHeight ∨ dimensions.length < 4) :
    volumeParts dimensions policy =
      (millimetres dimensions 0 * millimetres dimensions 1 * millimetres dimensions 2, 9) := by
  cases policy with
  | declaredHeight => rfl
  | averageWithMaximum =>
      have short : dimensions.length < 4 := declared.resolve_left (by simp)
      have none : dimensions[3]? = none := List.getElem?_eq_none (by omega)
      simp [volumeParts, millimetres, none]

/-- Otherwise the mean of the two heights counts, as half of their sum. -/
theorem volumeParts_of_averaged (several : 4 ≤ dimensions.length) :
    volumeParts dimensions .averageWithMaximum =
      (millimetres dimensions 0 * millimetres dimensions 1 *
        (millimetres dimensions 2 + millimetres dimensions 3) * 5, 10) := by
  have top : dimensions[3]? = some (dimensions.getD 3 0) := by
    rw [List.getD_eq_getElem?_getD, List.getElem?_eq_getElem (by omega)]
    rfl
  simp only [volumeParts, top]
  rfl

theorem volumeParts_eq (few : dimensions.length ≤ 4) :
    volumeParts dimensions policy =
      if IsAveraged dimensions policy then
        (millimetres dimensions 0 * millimetres dimensions 1 *
          (millimetres dimensions 2 + millimetres dimensions 3) * 5, 10)
      else (millimetres dimensions 0 * millimetres dimensions 1 * millimetres dimensions 2, 9) := by
  split
  · rename_i averaged
    obtain ⟨rfl, four⟩ := averaged
    exact volumeParts_of_averaged four.ge
  · rename_i not_averaged
    apply volumeParts_of_declared
    cases policy with
    | declaredHeight => exact Or.inl rfl
    | averageWithMaximum =>
        exact Or.inr (few.lt_of_ne fun four => not_averaged ⟨rfl, four⟩)

/-- The number of places fits a decimal. -/
theorem volumeParts_places (dimensions : List UInt32) (policy : HeightPolicy) :
    (volumeParts dimensions policy).2 ≤ 28 := by
  unfold volumeParts
  split <;> simp

theorem volumeParts_div (few : dimensions.length ≤ 4) :
    ((volumeParts dimensions policy).1 / 10 ^ (volumeParts dimensions policy).2 : ℚ) =
      cubicMetres dimensions policy := by
  rw [volumeParts_eq few, cubicMetres, pricedHeight]
  split
  · push_cast
    ring
  · push_cast
    ring

/-- The volume is exact, and fails only when its mantissa does not fit. -/
theorem exists_volume (fits : (volumeParts dimensions policy).1 < limit) :
    ∃ v, volume dimensions policy = .ok v ∧
      v.value = (volumeParts dimensions policy).1 / 10 ^ (volumeParts dimensions policy).2 := by
  obtain ⟨v, made, value⟩ := ofParts?_false fits (volumeParts_places dimensions policy)
  refine ⟨v.normalize, ?_, ?_⟩
  · simp [volume, made]
  · rw [value_normalize, value]

theorem volume_eq_ok (few : dimensions.length ≤ 4)
    (fits : (volumeParts dimensions policy).1 < limit) :
    ∃ v, volume dimensions policy = .ok v ∧ v.value = cubicMetres dimensions policy := by
  obtain ⟨v, made, value⟩ := exists_volume fits
  exact ⟨v, made, value.trans (volumeParts_div few)⟩

/-- A volume is missing just where its whole number does not fit a decimal. -/
theorem volume_eq_error_iff {fault : PricingFault} :
    volume dimensions policy = .error fault ↔
      fault = .overflow "volume" ∧ limit ≤ (volumeParts dimensions policy).1 := by
  by_cases fits : (volumeParts dimensions policy).1 < limit
  · obtain ⟨v, made, -⟩ := exists_volume fits
    simp [made, fits]
  · have none : ofParts? false (volumeParts dimensions policy).1
        (volumeParts dimensions policy).2 = none := dif_neg fun parts => fits parts.1
    simp [volume, none, Nat.not_lt.mp fits, eq_comm]

theorem fits_of_volume (priced : volume dimensions policy = .ok v) :
    (volumeParts dimensions policy).1 < limit := by
  by_contra long
  rw [volume_eq_error_iff.mpr ⟨rfl, Nat.not_lt.mp long⟩] at priced
  cases priced

theorem value_of_volume (few : dimensions.length ≤ 4)
    (priced : volume dimensions policy = .ok v) : v.value = cubicMetres dimensions policy := by
  obtain ⟨w, same, value⟩ := volume_eq_ok few (fits_of_volume priced)
  obtain rfl := Except.ok.inj (priced.symm.trans same)
  exact value

theorem cubicMetres_nonneg : 0 ≤ cubicMetres dimensions policy := by
  rw [cubicMetres, pricedHeight]
  split <;> positivity

end Volumes

namespace Money

/-- The rational amount. -/
abbrev value (money : Money) : ℚ := money.amount.value

@[simp] theorem value_zero : Money.zero.value = 0 := Decimal.value_zero

/-- A step ends in the exact amount rounded to what fits. -/
def Carried (q : ℚ) (result : Option Money) : Prop := Carries q (result.map amount)

variable {q q' : ℚ} {result : Option Money} {money money' other : Money}

theorem Carried.value_eq_iff (carried : Carried q (some money)) (nonneg : 0 ≤ q) :
    money.value = q ↔ Representable q :=
  Carries.value_eq_iff carried nonneg

theorem Carried.value_nonneg (carried : Carried q (some money)) : 0 ≤ money.value :=
  Carries.value_nonneg carried

theorem Carried.mono (carried : Carried q result) (carried' : Carried q' (some money'))
    (nonneg : 0 ≤ q) (le : q ≤ q') :
    ∃ money, result = some money ∧ 0 ≤ money.value ∧ money.value ≤ money'.value := by
  obtain ⟨x, found, below⟩ := Carries.mono carried carried' nonneg le
  obtain ⟨money, rfl, rfl⟩ := Option.map_eq_some_iff.mp found
  exact ⟨money, rfl, carried.value_nonneg, below⟩

theorem carried_add (nonneg : 0 ≤ money.value) (nonneg' : 0 ≤ other.value) :
    Carried (money.value + other.value) (money.add? other) := by
  simpa [Carried, add?, Function.comp_def] using carries_add nonneg nonneg'

theorem carried_times (nonneg : 0 ≤ money.value) (quantity : UInt32) :
    Carried (money.value * quantity.toNat) (money.times? quantity) := by
  have quantity_value := value_ofUInt32 quantity
  have carries := carries_mul nonneg (quantity_value ▸ Nat.cast_nonneg quantity.toNat)
  rw [quantity_value] at carries
  simpa [Carried, times?, Function.comp_def] using carries

end Money

theorem PriceTier.value_nonneg (tier : PriceTier) : 0 ≤ tier.pricePerCubicMeter.value :=
  (value_pos tier.positive).le

theorem basePrice_eq_ok_iff {v : Decimal} {tier : PriceTier} {base : Money} :
    basePrice v tier = .ok base ↔
      (v.mul? tier.pricePerCubicMeter).map (fun exact => ⟨exact.normalize⟩) = some base := by
  rw [basePrice]
  cases v.mul? tier.pricePerCubicMeter <;> simp

theorem carried_basePrice {v : Decimal} (nonneg : 0 ≤ v.value) (tier : PriceTier) :
    Money.Carried (v.value * tier.pricePerCubicMeter.value)
      ((v.mul? tier.pricePerCubicMeter).map fun exact => ⟨exact.normalize⟩) := by
  have carries := carries_mul nonneg tier.value_nonneg
  cases product : v.mul? tier.pricePerCubicMeter with
  | none => rwa [product] at carries
  | some exact =>
      rw [product] at carries
      exact carries.of_value_eq (value_normalize exact)

/-- The exact price of the quantity chosen. -/
def SupplementLine.exactTotal (line : SupplementLine) : ℚ :=
  line.unitPrice.value * line.quantity.toNat

/-- The exact price of lines. -/
def exactSum (lines : List SupplementLine) : ℚ := (lines.map SupplementLine.exactTotal).sum

section Supplements

variable {line : SupplementLine} {lines rest : List SupplementLine} {sum total : Money}

theorem SupplementLine.total_eq_ok_iff :
    line.total = .ok total ↔ line.unitPrice.times? line.quantity = some total := by
  rw [SupplementLine.total]
  cases line.unitPrice.times? line.quantity <;> simp

theorem addTotals_cons_eq_ok_iff :
    Selection.addTotals sum (line :: rest) = .ok total ↔
      ∃ first next, line.unitPrice.times? line.quantity = some first ∧
        sum.add? first = some next ∧ Selection.addTotals next rest = .ok total := by
  rw [Selection.addTotals]
  cases priced : line.total with
  | error fault =>
      have none : line.unitPrice.times? line.quantity = none := by
        cases times : line.unitPrice.times? line.quantity with
        | none => rfl
        | some first =>
            rw [SupplementLine.total_eq_ok_iff.mpr times] at priced
            cases priced
      simp [none]
  | ok first =>
      rw [SupplementLine.total_eq_ok_iff.mp priced]
      cases added : sum.add? first <;> simp [added]

/-- A sum that goes on past a line has been carried out twice: for the line and for the
next sum. -/
theorem carried_of_addTotals_cons (price : 0 ≤ line.unitPrice.value) (nonneg : 0 ≤ sum.value)
    (added : Selection.addTotals sum (line :: rest) = .ok total) :
    ∃ first next, Money.Carried line.exactTotal (some first) ∧
      Money.Carried (sum.value + first.value) (some next) ∧
        Selection.addTotals next rest = .ok total := by
  obtain ⟨first, next, priced, summed, later⟩ := addTotals_cons_eq_ok_iff.mp added
  have carried := Money.carried_times price line.quantity
  rw [priced] at carried
  have carried' := Money.carried_add nonneg carried.value_nonneg
  rw [summed] at carried'
  exact ⟨first, next, carried, carried', later⟩

theorem SupplementLine.exactTotal_nonneg (price : 0 ≤ line.unitPrice.value) :
    0 ≤ line.exactTotal :=
  mul_nonneg price (Nat.cast_nonneg _)

/-- Lines that cost nothing negative never lower a sum. -/
theorem le_addTotals (prices : ∀ line ∈ lines, 0 ≤ line.unitPrice.value) (nonneg : 0 ≤ sum.value)
    (added : Selection.addTotals sum lines = .ok total) : sum.value ≤ total.value := by
  induction lines generalizing sum with
  | nil => exact (Except.ok.inj added) ▸ le_rfl
  | cons line rest ih =>
      have price : 0 ≤ line.unitPrice.value := prices line (by simp)
      obtain ⟨first, next, carried, carried', later⟩ :=
        carried_of_addTotals_cons price nonneg added
      have more : sum.value ≤ sum.value + first.value := by
        have least := carried.value_nonneg
        linarith
      have below : sum.value ≤ next.value := Carries.le_value carried' nonneg more
      have grows := ih (fun l mem => prices l (by simp [mem])) carried'.value_nonneg later
      exact below.trans grows

end Supplements

namespace SupplementCatalog

/-- Catalogs that come about by adding supplements, one at a time. A refused one leaves
the catalog as it is. -/
inductive Built : SupplementCatalog → Prop
  | empty : Built .empty
  | insert {catalog grown : SupplementCatalog} {supplement : Supplement} (built : Built catalog)
      (added : catalog.insert supplement = .ok grown) : Built grown

variable {catalog : SupplementCatalog}

/-- No supplement on offer has a price below zero. -/
theorem Built.unitPrice_nonneg (built : catalog.Built) :
    ∀ entry ∈ catalog.entries.entries, 0 ≤ entry.2.unitPrice.value := by
  induction built with
  | empty => exact fun entry mem => nomatch mem
  | @insert catalog grown supplement built added ih =>
      rw [SupplementCatalog.insert] at added
      split at added
      · cases added
      rename_i plus
      split at added
      · rename_i entries put
        obtain rfl := Except.ok.inj added
        intro entry mem
        rcases (Index.mem_of_add? put entry).mp mem with rfl | old
        · exact value_nonneg (by simpa using plus)
        · exact ih entry old
      · cases added

theorem mem_of_find? {id : String} {entry : Supplement} (found : catalog.find? id = some entry) :
    (id, entry) ∈ catalog.entries.entries := by
  obtain ⟨front, back, same, -⟩ := List.lookup_eq_some_iff.mp found
  rw [same]
  simp

/-- A line that is chosen has the unit price on offer and the quantity asked for. -/
theorem select_eq_ok {id : String} {quantity : UInt32} {line : SupplementLine}
    (chosen : catalog.select id quantity = .ok line) :
    ∃ entry, catalog.find? id = some entry ∧ line.unitPrice = entry.unitPrice ∧
      line.quantity = quantity := by
  rw [select] at chosen
  split at chosen
  · cases chosen
  rename_i entry found
  split at chosen
  · cases chosen
  dsimp only at chosen
  split at chosen
  · cases chosen
  · obtain rfl := Except.ok.inj chosen
    exact ⟨entry, found, rfl, rfl⟩

theorem selectAll_eq_mapM (picks : List (String × UInt32)) :
    catalog.selectAll picks = picks.mapM fun pick => catalog.select pick.1 pick.2 := by
  induction picks with
  | nil => rfl
  | cons pick rest ih =>
      rw [selectAll, List.mapM_cons, ← ih]
      cases catalog.select pick.1 pick.2 with
      | error fault => rfl
      | ok line => cases catalog.selectAll rest <;> rfl

/-- A choice of several picks has one line for each. -/
theorem forall₂_of_selectAll {picks : List (String × UInt32)} {lines : List SupplementLine}
    (chosen : catalog.selectAll picks = .ok lines) :
    List.Forall₂ (fun pick line => catalog.select pick.1 pick.2 = .ok line) picks lines := by
  rwa [selectAll_eq_mapM, mapM_eq_ok_iff] at chosen

theorem selectAll_of_selection {picks : List (String × UInt32)} {selection : Selection}
    (chosen : catalog.selection picks = .ok selection) :
    catalog.selectAll picks = .ok selection.lines := by
  rw [SupplementCatalog.selection] at chosen
  split at chosen
  · cases chosen
  · rename_i lines all
    obtain rfl := Except.ok.inj chosen
    exact all

theorem Built.select_nonneg (built : catalog.Built) {id : String} {quantity : UInt32}
    {line : SupplementLine} (chosen : catalog.select id quantity = .ok line) :
    0 ≤ line.unitPrice.value := by
  obtain ⟨entry, found, price, -⟩ := select_eq_ok chosen
  rw [price]
  exact built.unitPrice_nonneg (id, entry) (mem_of_find? found)

/-- No line of a selection has a price below zero. -/
theorem Built.selection_nonneg (built : catalog.Built) {picks : List (String × UInt32)}
    {selection : Selection} (chosen : catalog.selection picks = .ok selection) :
    ∀ line ∈ selection.lines, 0 ≤ line.unitPrice.value := by
  have each := forall₂_of_selectAll (selectAll_of_selection chosen)
  clear chosen
  generalize selection.lines = lines at each
  induction each with
  | nil => simp
  | cons first _ ih =>
      simp only [List.mem_cons, forall_eq_or_imp]
      exact ⟨built.select_nonneg first, ih⟩

end SupplementCatalog

theorem quoteDimensions_eq_ok_iff {dimensions : List UInt32} {tier : PriceTier}
    {selection : Selection} {policy : HeightPolicy} {quote : Quote} :
    quoteDimensions dimensions tier selection policy = .ok quote ↔
      ∃ v base supplements total, volume dimensions policy = .ok v ∧
        basePrice v tier = .ok base ∧ selection.total = .ok supplements ∧
          totalPrice base supplements = .ok total ∧
            ⟨v, base, supplements, total, policy⟩ = quote := by
  rw [quoteDimensions]
  cases volume dimensions policy with
  | error => simp [bind, Except.bind]
  | ok v =>
  cases priced : basePrice v tier with
  | error => simp [bind, Except.bind, priced]
  | ok base =>
  cases selection.total with
  | error => simp [bind, Except.bind, priced]
  | ok supplements =>
  cases summed : totalPrice base supplements with
  | error => simp [bind, Except.bind, priced, summed]
  | ok total => simp [bind, Except.bind, pure, Except.pure, priced, summed]

theorem max_zero_of_nonneg {units : Int64} (nonneg : 0 ≤ units.toInt) : max units 0 = units := by
  change (if units ≤ 0 then 0 else units) = units
  split
  · rename_i below
    have zero : units.toInt = 0 := le_antisymm (Int64.le_iff_toInt_le.mp below) nonneg
    exact (Int64.toInt_inj.mp zero).symm
  · rfl

/-- The total is the sum rounded to whole units, which is not below zero. -/
theorem totalPrice_eq_ok_iff {base supplements : Money} {total : Int64}
    (nonneg : 0 ≤ base.value) (nonneg' : 0 ≤ supplements.value) :
    totalPrice base supplements = .ok total ↔
      ∃ sum, base.add? supplements = some sum ∧ total.toInt = ⌊sum.value + 1 / 2⌋ := by
  have carried := Money.carried_add nonneg nonneg'
  rw [totalPrice]
  cases added : base.add? supplements with
  | none => simp
  | some sum =>
      rw [added] at carried
      have rounded : sum.amount.round = ⌊sum.value + 1 / 2⌋ := by
        rw [round_eq_halfAway, halfAway_of_nonneg carried.value_nonneg]
      have least : 0 ≤ ⌊sum.value + 1 / 2⌋ := by
        have positive := carried.value_nonneg
        exact Int.floor_nonneg.mpr (by linarith)
      simp only [Option.bind_some, Money.roundToUnits?, rounded, Option.some.injEq,
        exists_eq_left']
      constructor
      · intro ok
        split at ok
        · rename_i units fits
          have whole := (int64?_eq_some_iff _ _).mp fits
          rw [max_zero_of_nonneg (by omega)] at ok
          obtain rfl := Except.ok.inj ok
          exact whole
        · cases ok
      · intro whole
        rw [(int64?_eq_some_iff _ _).mpr whole]
        dsimp only
        rw [max_zero_of_nonneg (by omega)]

/-- Free-standing shelving with a base board, half a metre deep and a metre high. -/
def shelving (width : UInt32)
    (accepted : Registry.standard.violations ⟨"M1", [width, 500, 1000], .ofList ['b']⟩ = []) :
    CheckedSpecification :=
  ⟨⟨"M1", [width, 500, 1000], .ofList ['b']⟩, Registry.standard, accepted⟩

/-- Shelving a metre and a half wide. -/
def narrowShelving : CheckedSpecification := shelving 1500 (by decide +kernel)

/-- Shelving two metres wide, which makes a cubic metre. -/
def wideShelving : CheckedSpecification := shelving 2000 (by decide +kernel)

/-- The tier of melamine boards at a price. -/
def melamine (price : Decimal) (positive : price.isPositive = true) : PriceTier :=
  ⟨"standard", "Melamine", price, positive⟩

/-- Drawers at 45 each. -/
def drawers : Supplement := ⟨"drawer", .drawer, "Drawer", ⟨.ofUInt32 45⟩⟩

/-- The catalog of drawers alone. -/
def drawerCatalog : SupplementCatalog := ⟨Index.empty.put "drawer" drawers⟩

/-- Some number of drawers. -/
def drawerLine (quantity : UInt32) : SupplementLine :=
  ⟨"drawer", .drawer, ⟨.ofUInt32 45⟩, quantity⟩

theorem drawerCatalog_built : drawerCatalog.Built := by
  have added : SupplementCatalog.empty.insert drawers = .ok drawerCatalog := by rfl
  exact .insert .empty added

end Joinery
