import Joinery.Config
import Joinery.Proofs.Pricing.Amounts

/-!
# What catalogs hold and what is chosen from them

A catalog is offered entries, one after the other. An offer is refused for its price, or
because its name is taken, and then leaves the catalog as it was. Main statement: after
any history of offers a catalog holds under each name the first that was not refused for
its price, and nothing else; and picks from it are granted in order, or the first that
cannot be granted is refused.
-/

namespace Joinery

open Decimal Rounding

namespace Index

section Offers

variable {α β : Type} (name : β → String) (make? : β → Option α)

/-- An offer to an index: the entry that is made of it comes in if its name is free. -/
def offered (index : Index α) (offer : β) : Index α :=
  ((make? offer).bind (index.add? (name offer))).getD index

/-- What an offer has for a key. -/
def entryFor (key : String) (offer : β) : Option α :=
  if name offer = key then make? offer else none

theorem get?_offered (index : Index α) (offer : β) (key : String) :
    (index.offered name make? offer).get? key =
      (index.get? key).or (entryFor name make? key offer) := by
  rw [offered, entryFor]
  cases make? offer with
  | none => simp
  | some value =>
      rw [Option.bind_some, add?, contains_eq_isSome]
      cases held : index.get? (name offer) with
      | some old =>
          by_cases here : name offer = key
          · subst here
            simp [held]
          · simp [here]
      | none =>
          by_cases here : name offer = key
          · subst here
            simp [get?_put, held]
          · simp [get?_put, here, Ne.symm here]

/-- A key keeps what it has, or gets the first entry that a history of offers has for it. -/
theorem get?_foldl_offered (index : Index α) (offers : List β) (key : String) :
    (offers.foldl (offered name make?) index).get? key =
      (index.get? key).or (offers.findSome? (entryFor name make? key)) := by
  induction offers generalizing index with
  | nil => simp
  | cons offer rest ih =>
      rw [List.foldl_cons, ih, get?_offered, List.findSome?_cons, Option.or_assoc]
      congr 1
      cases entryFor name make? key offer <;> rfl

end Offers

end Index

/-- What comes of a history of offers: under each key the first fair offer with that name
is found. What is listed are the entries found under their own names, in the order of
these. -/
structure HoldsFirst {α β : Type} (found : String → Option α) (values : List α)
    (name : β → String) (listed : α → β) (fair : β → Prop) [DecidablePred fair]
    (offers : List β) : Prop where
  first : ∀ key, (found key).map listed =
    offers.find? fun offer => name offer = key ∧ fair offer
  fairness : ∀ value ∈ values, fair (listed value)
  mem_values : ∀ value, value ∈ values ↔ found (name (listed value)) = some value
  ascending : (values.map fun value => name (listed value)).Pairwise (· < ·)

namespace Index

variable {α β : Type} {index : Index α} {name : β → String} {listed : α → β} {fair : β → Prop}
  [DecidablePred fair] {offers : List β}

theorem mem_values_iff {value : α} :
    value ∈ index.values ↔ ∃ key, index.get? key = some value := by
  simp [values, get?_eq_some_iff]

/-- The names and the order of the values follow from what is found under each key. -/
theorem holdsFirst_of_first
    (first : ∀ key, (index.get? key).map listed =
      offers.find? fun offer => name offer = key ∧ fair offer) :
    HoldsFirst index.get? index.values name listed fair offers := by
  have own : ∀ {key value}, index.get? key = some value →
      name (listed value) = key ∧ fair (listed value) := by
    intro key value held
    have chosen := first key
    rw [held] at chosen
    simpa using List.find?_some chosen.symm
  refine ⟨first, ?_, ?_, ?_⟩
  · intro value mem
    obtain ⟨key, held⟩ := mem_values_iff.mp mem
    exact (own held).2
  · intro value
    rw [mem_values_iff]
    constructor
    · rintro ⟨key, held⟩
      rwa [(own held).1]
    · exact fun held => ⟨_, held⟩
  · have keys : index.values.map (fun value => name (listed value)) =
        index.entries.map Prod.fst := by
      rw [values, List.map_map]
      refine List.map_congr_left fun entry mem => ?_
      exact (own ((index.get?_eq_some_iff entry.1 entry.2).mpr mem)).1
    rw [keys]
    exact List.pairwise_map.mpr index.ascending

/-- Any history of offers ends so, if an entry is made of each fair offer and of no other. -/
theorem holdsFirst_foldl_offered {make? : β → Option α}
    (made : ∀ offer, (make? offer).map listed = if fair offer then some offer else none) :
    HoldsFirst (offers.foldl (offered name make?) .empty).get?
      (offers.foldl (offered name make?) .empty).values name listed fair offers := by
  refine holdsFirst_of_first fun key => ?_
  have empty : (Index.empty : Index α).get? key = none := rfl
  rw [get?_foldl_offered, empty, Option.none_or, List.map_findSome?, ← List.findSome?_guard]
  congr 1
  funext offer
  by_cases here : name offer = key <;> simp [entryFor, here, made, Option.guard]

end Index

/-- The result of an attempt to change a catalog, and the catalog after it. An attempt that
fails leaves the catalog as it was. -/
def attempt {γ : Type} (catalog : γ) : Except PricingFault γ → Except PricingFault Unit × γ
  | .ok grown => (.ok (), grown)
  | .error fault => (.error fault, catalog)

/-- How an offer is answered: an unfair price is refused before a taken name, and a refusal
changes nothing. -/
structure Answered {γ : Type} (catalog : γ) (answer : Except PricingFault Unit × γ)
    (fair taken : Prop) (unfairness repetition : PricingFault) : Prop where
  unfair : ¬fair → answer = (.error unfairness, catalog)
  repeated : fair → taken → answer = (.error repetition, catalog)
  added : fair → ¬taken → answer.1 = .ok ()

/-- A listed tier can be offered under any name. -/
def TierListing.IsPriced (listing : TierListing) : Prop := 0 < listing.pricePerCubicMeter.value

instance : DecidablePred TierListing.IsPriced :=
  fun listing => inferInstanceAs (Decidable (0 < listing.pricePerCubicMeter.value))

/-- A tier as it was listed. -/
def PriceTier.listing (tier : PriceTier) : TierListing :=
  ⟨tier.name, tier.description, tier.pricePerCubicMeter⟩

/-- The tier that a listing describes, if its price is above zero. -/
def TierListing.tier? (listing : TierListing) : Option PriceTier :=
  (PriceTier.create listing.name listing.description listing.pricePerCubicMeter).toOption

theorem TierListing.map_tier? (listing : TierListing) :
    listing.tier?.map PriceTier.listing = if listing.IsPriced then some listing else none := by
  simp only [tier?, PriceTier.create, IsPriced, value_pos_iff]
  by_cases positive : listing.pricePerCubicMeter.isPositive = true
  · simp [positive, Except.toOption, PriceTier.listing]
  · simp [positive, Except.toOption]

namespace TierCatalog

/-- Makes a tier of a listing and inserts it. -/
def add (catalog : TierCatalog) (listing : TierListing) : Except PricingFault TierCatalog :=
  (PriceTier.create listing.name listing.description listing.pricePerCubicMeter).bind
    catalog.insert

/-- Offers a tier to a catalog. -/
def offer (catalog : TierCatalog) (listing : TierListing) :
    Except PricingFault Unit × TierCatalog :=
  attempt catalog (catalog.add listing)

/-- The catalog after a history of offers. -/
def ofOffers (listings : List TierListing) : TierCatalog :=
  listings.foldl (fun catalog listing => (catalog.offer listing).2) .empty

variable (catalog : TierCatalog) (listing : TierListing)

theorem find_eq_ok_iff {name : String} {tier : PriceTier} :
    catalog.find name = .ok tier ↔ catalog.tiers.get? name = some tier := by
  rw [find]
  cases catalog.tiers.get? name <;> simp

theorem tiers_offer :
    (catalog.offer listing).2.tiers =
      catalog.tiers.offered TierListing.name TierListing.tier? listing := by
  rw [offer, add, Index.offered, TierListing.tier?, PriceTier.create]
  by_cases positive : listing.pricePerCubicMeter.isPositive = true
  · simp only [dif_pos positive, Except.bind, Except.toOption, insert, Option.bind_some]
    cases catalog.tiers.add? listing.name _ <;> rfl
  · simp [positive, Except.bind, Except.toOption, attempt]

theorem answered_offer :
    Answered catalog (catalog.offer listing) listing.IsPriced
      (∃ tier, catalog.find listing.name = .ok tier)
      (.nonPositiveTierPrice listing.name listing.pricePerCubicMeter.text)
      (.duplicateTier listing.name) := by
  have taken : (∃ tier, catalog.find listing.name = .ok tier) ↔
      catalog.tiers.contains listing.name = true := by
    simp only [find_eq_ok_iff, Index.contains_eq_isSome, Option.isSome_iff_exists]
  rw [TierListing.IsPriced, value_pos_iff, taken]
  constructor
  · intro unfair
    simp [offer, add, PriceTier.create, unfair, Except.bind, attempt]
  · intro fair held
    simp [offer, add, PriceTier.create, fair, Except.bind, attempt, insert, Index.add?, held]
  · intro fair free
    simp [offer, add, PriceTier.create, fair, Except.bind, attempt, insert, Index.add?, free]

theorem tiers_ofOffers (listings : List TierListing) :
    (ofOffers listings).tiers =
      listings.foldl (Index.offered TierListing.name TierListing.tier?) .empty :=
  (List.foldl_hom tiers fun catalog listing => (tiers_offer catalog listing).symm).symm

theorem find_toOption (name : String) : (catalog.find name).toOption = catalog.tiers.get? name := by
  rw [find]
  cases catalog.tiers.get? name <;> rfl

theorem holdsFirst_ofOffers (listings : List TierListing) :
    HoldsFirst (fun name => ((ofOffers listings).find name).toOption) (ofOffers listings).toList
      TierListing.name PriceTier.listing TierListing.IsPriced listings := by
  simp only [find_toOption, toList, tiers_ofOffers]
  exact Index.holdsFirst_foldl_offered TierListing.map_tier?

end TierCatalog

/-- A supplement with a price that is not below zero. -/
def Supplement.IsPriced (supplement : Supplement) : Prop := 0 ≤ supplement.unitPrice.value

instance : DecidablePred Supplement.IsPriced :=
  fun supplement => inferInstanceAs (Decidable (0 ≤ supplement.unitPrice.value))

/-- The entry that a supplement is, if it is priced. -/
def Supplement.priced? (supplement : Supplement) : Option Supplement :=
  if supplement.IsPriced then some supplement else none

theorem Supplement.map_priced? (supplement : Supplement) :
    supplement.priced?.map (fun entry => entry) =
      if supplement.IsPriced then some supplement else none := by
  rw [Option.map_id', priced?]

namespace SupplementCatalog

/-- Offers a supplement to a catalog. -/
def offer (catalog : SupplementCatalog) (supplement : Supplement) :
    Except PricingFault Unit × SupplementCatalog :=
  attempt catalog (catalog.insert supplement)

/-- The catalog after a history of offers. -/
def ofOffers (supplements : List Supplement) : SupplementCatalog :=
  supplements.foldl (fun catalog supplement => (catalog.offer supplement).2) .empty

section

variable (catalog : SupplementCatalog) (supplement : Supplement)

theorem entries_offer :
    (catalog.offer supplement).2.entries =
      catalog.entries.offered Supplement.id Supplement.priced? supplement := by
  simp only [offer, insert, Index.offered, Supplement.priced?, Supplement.IsPriced,
    value_nonneg_iff]
  by_cases negative : supplement.unitPrice.amount.isNegative = true
  · simp [negative, attempt]
  · simp only [Bool.eq_false_of_not_eq_true negative, if_true, Bool.false_eq_true, if_false,
      Option.bind_some]
    cases catalog.entries.add? supplement.id supplement <;> rfl

theorem answered_offer :
    Answered catalog (catalog.offer supplement) supplement.IsPriced
      (∃ entry, catalog.find? supplement.id = some entry)
      (.negativeSupplementPrice supplement.id supplement.unitPrice.amount.text)
      (.duplicateSupplement supplement.id) := by
  have taken : (∃ entry, catalog.find? supplement.id = some entry) ↔
      catalog.entries.contains supplement.id = true := by
    rw [Index.contains_eq_isSome, Option.isSome_iff_exists, find?]
  rw [Supplement.IsPriced, value_nonneg_iff, taken]
  constructor
  · intro unfair
    simp [offer, insert, Bool.eq_true_of_not_eq_false unfair, attempt]
  · intro fair held
    simp [offer, insert, fair, attempt, Index.add?, held]
  · intro fair free
    simp [offer, insert, fair, attempt, Index.add?, free]

theorem entries_ofOffers (supplements : List Supplement) :
    (ofOffers supplements).entries =
      supplements.foldl (Index.offered Supplement.id Supplement.priced?) .empty :=
  (List.foldl_hom entries fun catalog supplement => (entries_offer catalog supplement).symm).symm

theorem holdsFirst_ofOffers (supplements : List Supplement) :
    HoldsFirst (ofOffers supplements).find? (ofOffers supplements).toList
      Supplement.id (fun entry => entry) Supplement.IsPriced supplements := by
  rw [show (ofOffers supplements).find? = (ofOffers supplements).entries.get? from rfl, toList,
    entries_ofOffers]
  exact Index.holdsFirst_foldl_offered Supplement.map_priced?

end

end SupplementCatalog

/-- The line of a supplement chosen in some quantity. -/
def Supplement.line (entry : Supplement) (quantity : UInt32) : SupplementLine :=
  ⟨entry.id, entry.kind, entry.unitPrice, quantity⟩

/-- A line has a total if the nearest whole number to its exact price fits. -/
theorem SupplementLine.exists_total_iff {line : SupplementLine}
    (price : 0 ≤ line.unitPrice.value) :
    (∃ total, line.total = .ok total) ↔ nearest line.exactTotal < limit := by
  have carried := Money.carried_times price line.quantity
  rw [SupplementLine.exactTotal, ← carried.isSome_iff (SupplementLine.exactTotal_nonneg price)]
  simp only [SupplementLine.total_eq_ok_iff, Option.isSome_map, Option.isSome_iff_exists]

namespace SupplementCatalog

/-- A pick is granted with a line if its id is on offer, its quantity is not zero, and the
price of the line can be held as a decimal, rounded if need be. -/
inductive Grants (catalog : SupplementCatalog) : String × UInt32 → SupplementLine → Prop
  | line {id : String} {quantity : UInt32} {entry : Supplement}
      (found : catalog.find? id = some entry) (pieces : 1 ≤ quantity)
      (fits : nearest (entry.line quantity).exactTotal < limit) :
      Grants catalog (id, quantity) (entry.line quantity)

/-- A pick is refused for an unknown id, for an empty quantity or for a price that is too
large, in this order. -/
inductive Refuses (catalog : SupplementCatalog) : String × UInt32 → PricingFault → Prop
  | unknown {id : String} {quantity : UInt32} (missing : catalog.find? id = none) :
      Refuses catalog (id, quantity) (.unknownSupplement id)
  | zero {id : String} {entry : Supplement} (found : catalog.find? id = some entry) :
      Refuses catalog (id, 0) (.zeroQuantity id)
  | large {id : String} {quantity : UInt32} {entry : Supplement}
      (found : catalog.find? id = some entry) (pieces : 1 ≤ quantity)
      (long : limit ≤ nearest (entry.line quantity).exactTotal) :
      Refuses catalog (id, quantity) (.overflow s!"supplement '{entry.id}' × {quantity}")

/-- No supplement on offer has a price below zero. -/
def HasPrices (catalog : SupplementCatalog) : Prop :=
  ∀ id entry, catalog.find? id = some entry → 0 ≤ entry.unitPrice.value

section Picks

variable {catalog : SupplementCatalog} {pick : String × UInt32} {line : SupplementLine}
  {fault : PricingFault} {picks : List (String × UInt32)} {lines : List SupplementLine}

/-- Every pick is granted or refused. -/
theorem grants_or_refuses (catalog : SupplementCatalog) (pick : String × UInt32) :
    (∃ line, catalog.Grants pick line) ∨ ∃ fault, catalog.Refuses pick fault := by
  obtain ⟨id, quantity⟩ := pick
  cases found : catalog.find? id with
  | none => exact .inr ⟨_, .unknown found⟩
  | some entry =>
      by_cases none : quantity = 0
      · subst none
        exact .inr ⟨_, .zero found⟩
      · have pieces : 1 ≤ quantity := by
          rw [UInt32.le_iff_toNat_le]
          exact Nat.one_le_iff_ne_zero.mpr fun zero => none (UInt32.toNat_inj.mp zero)
        by_cases fits : nearest (entry.line quantity).exactTotal < limit
        · exact .inl ⟨_, .line found pieces fits⟩
        · exact .inr ⟨_, .large found pieces (Nat.not_lt.mp fits)⟩

theorem ne_zero_of_pieces {quantity : UInt32} (pieces : 1 ≤ quantity) : quantity ≠ 0 := by
  rintro rfl
  cases pieces

theorem Grants.select (grants : catalog.Grants pick line) (prices : catalog.HasPrices) :
    catalog.select pick.1 pick.2 = .ok line := by
  cases grants with
  | @line id quantity entry found pieces fits =>
      have price : 0 ≤ (entry.line quantity).unitPrice.value := prices id entry found
      obtain ⟨total, priced⟩ := (SupplementLine.exists_total_iff price).mpr fits
      rw [Supplement.line] at priced
      simp [SupplementCatalog.select, found, ne_zero_of_pieces pieces, priced, Supplement.line]

theorem Refuses.select (refuses : catalog.Refuses pick fault) (prices : catalog.HasPrices) :
    catalog.select pick.1 pick.2 = .error fault := by
  cases refuses with
  | unknown missing => simp [SupplementCatalog.select, missing]
  | zero found => simp [SupplementCatalog.select, found]
  | @large id quantity entry found pieces long =>
      have price : 0 ≤ (entry.line quantity).unitPrice.value := prices id entry found
      have unpriced : entry.unitPrice.times? quantity = none := by
        rw [Option.eq_none_iff_forall_ne_some]
        intro total times
        have priced : (entry.line quantity).total = .ok total :=
          SupplementLine.total_eq_ok_iff.mpr times
        exact Nat.not_lt.mpr long ((SupplementLine.exists_total_iff price).mp ⟨total, priced⟩)
      simp [SupplementCatalog.select, found, ne_zero_of_pieces pieces, SupplementLine.total,
        unpriced]

theorem select_eq_ok_iff (prices : catalog.HasPrices) :
    catalog.select pick.1 pick.2 = .ok line ↔ catalog.Grants pick line := by
  refine ⟨fun chosen => ?_, fun grants => grants.select prices⟩
  rcases catalog.grants_or_refuses pick with ⟨line', grants⟩ | ⟨fault, refuses⟩
  · rw [grants.select prices] at chosen
    exact Except.ok.inj chosen ▸ grants
  · rw [refuses.select prices] at chosen
    cases chosen

theorem select_eq_error_iff (prices : catalog.HasPrices) :
    catalog.select pick.1 pick.2 = .error fault ↔ catalog.Refuses pick fault := by
  refine ⟨fun refused => ?_, fun refuses => refuses.select prices⟩
  rcases catalog.grants_or_refuses pick with ⟨line, grants⟩ | ⟨fault', refuses⟩
  · rw [grants.select prices] at refused
    cases refused
  · rw [refuses.select prices] at refused
    exact Except.error.inj refused ▸ refuses

theorem selection_eq_ok_iff {lines : List SupplementLine} (prices : catalog.HasPrices) :
    catalog.selection picks = .ok ⟨lines⟩ ↔ List.Forall₂ catalog.Grants picks lines := by
  have each : (fun pick line => catalog.select pick.1 pick.2 = .ok line) = catalog.Grants := by
    funext pick line
    exact propext (select_eq_ok_iff prices)
  rw [← each, ← mapM_eq_ok_iff, ← selectAll_eq_mapM, selection]
  cases catalog.selectAll picks <;> simp

theorem exists_selection_iff (prices : catalog.HasPrices) :
    (∃ selection, catalog.selection picks = .ok selection) ↔
      ∀ pick ∈ picks, ∃ line, catalog.Grants pick line := by
  simp only [← select_eq_ok_iff prices]
  rw [← exists_mapM_eq_ok_iff, ← selectAll_eq_mapM, selection]
  cases catalog.selectAll picks <;> simp

theorem selection_eq_error_iff (prices : catalog.HasPrices) :
    catalog.selection picks = .error fault ↔
      ∃ before pick later, picks = before ++ pick :: later ∧
        (∀ earlier ∈ before, ∃ line, catalog.Grants earlier line) ∧
          catalog.Refuses pick fault := by
  simp only [← select_eq_ok_iff prices, ← select_eq_error_iff prices]
  rw [← mapM_eq_error_iff, ← selectAll_eq_mapM, selection]
  cases catalog.selectAll picks <;> simp

end Picks

end SupplementCatalog

theorem SupplementCatalog.hasPrices_ofOffers (supplements : List Supplement) :
    (ofOffers supplements).HasPrices := by
  intro id entry found
  have holds := holdsFirst_ofOffers supplements
  exact holds.fairness entry (Index.mem_values_iff.mpr ⟨id, found⟩)

/-- After any history of offers, taken or refused, a catalog of tiers and a catalog of
supplements hold under each name the first that was not refused for its price, and list
what they hold in the order of the names; a refused offer changes nothing. Picks are then
granted one by one in order, or the first that cannot be granted is refused. -/
theorem catalogs_of_offers (listings : List TierListing) (supplements : List Supplement) :
    let tiers := TierCatalog.ofOffers listings
    let extras := SupplementCatalog.ofOffers supplements
    (HoldsFirst (fun name => (tiers.find name).toOption) tiers.toList
        TierListing.name PriceTier.listing TierListing.IsPriced listings ∧
      ∀ listing, Answered tiers (tiers.offer listing) listing.IsPriced
        (∃ tier, tiers.find listing.name = .ok tier)
        (.nonPositiveTierPrice listing.name listing.pricePerCubicMeter.text)
        (.duplicateTier listing.name)) ∧
    (HoldsFirst extras.find? extras.toList Supplement.id (fun entry => entry) Supplement.IsPriced
        supplements ∧
      ∀ supplement, Answered extras (extras.offer supplement) supplement.IsPriced
        (∃ entry, extras.find? supplement.id = some entry)
        (.negativeSupplementPrice supplement.id supplement.unitPrice.amount.text)
        (.duplicateSupplement supplement.id)) ∧
    ∀ picks,
      ((∃ selection, extras.selection picks = .ok selection) ↔
        ∀ pick ∈ picks, ∃ line, extras.Grants pick line) ∧
      (∀ lines, extras.selection picks = .ok ⟨lines⟩ ↔ List.Forall₂ extras.Grants picks lines) ∧
      ∀ fault, extras.selection picks = .error fault ↔
        ∃ before pick later, picks = before ++ pick :: later ∧
          (∀ earlier ∈ before, ∃ line, extras.Grants earlier line) ∧
            extras.Refuses pick fault := by
  intro tiers extras
  have prices : extras.HasPrices := SupplementCatalog.hasPrices_ofOffers supplements
  exact ⟨⟨TierCatalog.holdsFirst_ofOffers listings, tiers.answered_offer⟩,
    ⟨SupplementCatalog.holdsFirst_ofOffers supplements, extras.answered_offer⟩,
    fun picks => ⟨SupplementCatalog.exists_selection_iff prices,
      fun _ => SupplementCatalog.selection_eq_ok_iff prices,
      fun _ => SupplementCatalog.selection_eq_error_iff prices⟩⟩

/-- Oak that is offered for nothing, then at 2800, then at 3000 is held at 2800. Of a drawer and
a rail the rail is refused where only drawers are on offer. -/
theorem catalogs_of_offers_oak :
    let oak (price : UInt32) : TierListing := ⟨"oak", "Oak", .ofUInt32 price⟩
    let tiers := TierCatalog.ofOffers [oak 0, oak 2800, oak 3000]
    let extras := SupplementCatalog.ofOffers [drawers]
    (∃ tier, tiers.find "oak" = .ok tier ∧ tier.listing = oak 2800) ∧
    (tiers.offer (oak 0)).1 = .error (.nonPositiveTierPrice "oak" "0") ∧
    (tiers.offer (oak 3000)).1 = .error (.duplicateTier "oak") ∧
    extras.selection [("drawer", 1), ("rail", 2)] = .error (.unknownSupplement "rail") := by
  intro oak tiers extras
  obtain ⟨⟨holds, answered⟩, -, chosen⟩ :=
    catalogs_of_offers [oak 0, oak 2800, oak 3000] [drawers]
  have free : ¬(oak 0).IsPriced := by decide +kernel
  have priced : (oak 2800).IsPriced ∧ (oak 3000).IsPriced := by decide +kernel
  have first : (tiers.find "oak").toOption.map PriceTier.listing = some (oak 2800) := by
    refine (holds.first "oak").trans ?_
    simp [free, priced.1, show ∀ price, (oak price).name = "oak" from fun _ => rfl]
  obtain ⟨tier, held, same⟩ := Option.map_eq_some_iff.mp first
  have found : tiers.find "oak" = .ok tier := by
    rw [tiers.find_toOption] at held
    exact (tiers.find_eq_ok_iff).mpr held
  refine ⟨⟨tier, found, same⟩, ?_, ?_, ?_⟩
  · exact congrArg Prod.fst ((answered (oak 0)).unfair free)
  · exact congrArg Prod.fst ((answered (oak 3000)).repeated priced.2 ⟨tier, found⟩)
  · obtain ⟨-, -, refused⟩ := chosen [("drawer", 1), ("rail", 2)]
    refine (refused _).mpr ⟨[("drawer", 1)], ("rail", 2), [], rfl, ?_, .unknown rfl⟩
    intro pick mem
    obtain rfl := List.mem_singleton.mp mem
    have fits : nearest (drawers.line 1).exactTotal < limit := by decide +kernel
    exact ⟨drawers.line 1, .line rfl (by decide) fits⟩

end Joinery
