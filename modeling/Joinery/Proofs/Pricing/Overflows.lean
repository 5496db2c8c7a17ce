import Joinery.Proofs.Pricing.Catalogs

/-!
# Prices that are only too large

A quote of something that has passed all checks can still fail, because an amount on the
way to the total does not fit into a decimal. Main statements: nothing else can be wrong
with the amounts, nor with picks of what is on offer.
-/

namespace Joinery

/-- Whatever fails is too large to price. -/
def OnlyOverflows {α : Type} (result : Except PricingFault α) : Prop :=
  ∀ fault, result = .error fault → ∃ subject, fault = .overflow subject

section Overflows

variable {α β : Type} {result : Except PricingFault α}

theorem OnlyOverflows.ok (value : α) : OnlyOverflows (.ok value) := fun _ failed => nomatch failed

theorem OnlyOverflows.overflow (subject : String) :
    OnlyOverflows (.error (.overflow subject) : Except PricingFault α) :=
  fun _ failed => ⟨subject, (Except.error.inj failed).symm⟩

theorem OnlyOverflows.bind {next : α → Except PricingFault β} (first : OnlyOverflows result)
    (later : ∀ value, OnlyOverflows (next value)) : OnlyOverflows (result >>= next) := by
  intro fault failed
  cases result with
  | error fault' => exact first fault (by rw [Except.error.inj failed])
  | ok value => exact later value fault failed

theorem OnlyOverflows.ok_or_overflow (only : OnlyOverflows result) :
    (∃ value, result = .ok value) ∨ ∃ subject, result = .error (.overflow subject) := by
  cases result with
  | ok value => exact .inl ⟨value, rfl⟩
  | error fault =>
      obtain ⟨subject, rfl⟩ := only fault rfl
      exact .inr ⟨subject, rfl⟩

end Overflows

theorem onlyOverflows_volume (dimensions : List UInt32) (policy : HeightPolicy) :
    OnlyOverflows (volume dimensions policy) := by
  rw [volume]
  dsimp only
  split
  · exact .ok _
  · exact .overflow _

theorem onlyOverflows_basePrice (volume : Decimal) (tier : PriceTier) :
    OnlyOverflows (basePrice volume tier) := by
  rw [basePrice]
  split
  · exact .ok _
  · exact .overflow _

theorem SupplementLine.onlyOverflows_total (line : SupplementLine) :
    OnlyOverflows line.total := by
  rw [total]
  split
  · exact .ok _
  · exact .overflow _

theorem Selection.onlyOverflows_addTotals (sum : Money) (lines : List SupplementLine) :
    OnlyOverflows (addTotals sum lines) := by
  induction lines generalizing sum with
  | nil => exact .ok _
  | cons line rest ih =>
      rw [addTotals]
      split
      · rename_i fault failed
        obtain ⟨subject, rfl⟩ := line.onlyOverflows_total fault failed
        exact .overflow subject
      · split
        · exact .overflow _
        · exact ih _

theorem onlyOverflows_totalPrice (base supplements : Money) :
    OnlyOverflows (totalPrice base supplements) := by
  rw [totalPrice]
  split
  · exact .ok _
  · exact .overflow _

theorem onlyOverflows_quoteDimensions (dimensions : List UInt32) (tier : PriceTier)
    (selection : Selection) (policy : HeightPolicy) :
    OnlyOverflows (quoteDimensions dimensions tier selection policy) :=
  (onlyOverflows_volume dimensions policy).bind fun _ =>
    (onlyOverflows_basePrice _ tier).bind fun _ =>
      (Selection.onlyOverflows_addTotals _ _).bind fun _ =>
        (onlyOverflows_totalPrice _ _).bind fun _ => .ok _

/-- Picks of what is on offer, at least one piece of each, are only refused where a line is
too large to price. -/
theorem SupplementCatalog.onlyOverflows_selection {catalog : SupplementCatalog}
    (prices : catalog.HasPrices) {picks : List (String × UInt32)}
    (offered : ∀ pick ∈ picks, (∃ entry, catalog.find? pick.1 = some entry) ∧ 1 ≤ pick.2) :
    OnlyOverflows (catalog.selection picks) := by
  intro fault failed
  obtain ⟨before, pick, later, rfl, -, refused⟩ := (selection_eq_error_iff prices).mp failed
  obtain ⟨⟨entry, found⟩, pieces⟩ := offered pick (by simp)
  cases refused with
  | unknown missing => exact nomatch missing.symm.trans found
  | zero => exact absurd rfl (ne_zero_of_pieces pieces)
  | large => exact ⟨_, rfl⟩

end Joinery
