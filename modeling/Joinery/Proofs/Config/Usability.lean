import Joinery.Command.Workshop
import Joinery.Proofs.Config.RoundTrip
import Joinery.Proofs.Pricing.Overflows
import Joinery.Proofs.Service.Endpoints

/-!
# Valid configurations can be used

A configuration is checked once, when it is loaded; its catalogs are built and its
services reached later, and its entries are looked up when a customer asks for a price.
Main statement: what was found valid gives a configurator whose catalogs have just the
entries listed, and whoever chooses among these has a price, unless it is too large.
What was found invalid has one of the defects of a short list.
-/

namespace Joinery

/-- Entries come in if they are fair and their names are free, and names that are taken
are taken from then on. -/
structure AddsFree {γ β : Type} (add : γ → β → Except PricingFault γ) (taken : γ → String → Prop)
    (name : β → String) (fair : β → Prop) : Prop where
  comes_in : ∀ catalog entry, (∃ grown, add catalog entry = .ok grown) ↔
    fair entry ∧ ¬taken catalog (name entry)
  takes : ∀ {catalog entry grown}, add catalog entry = .ok grown →
    ∀ key, taken grown key ↔ taken catalog key ∨ name entry = key

section Additions

variable {γ β : Type} {add : γ → β → Except PricingFault γ} {taken : γ → String → Prop}
  {name : β → String} {fair : β → Prop}

theorem AddsFree.exists_foldlM_iff (adds : AddsFree add taken name fair) (catalog : γ)
    (entries : List β) :
    (∃ grown, entries.foldlM add catalog = .ok grown) ↔
      (∀ entry ∈ entries, fair entry) ∧ (entries.map name).Nodup ∧
        ∀ entry ∈ entries, ¬taken catalog (name entry) := by
  induction entries generalizing catalog with
  | nil => simp [pure, Except.pure]
  | cons entry rest ih =>
      have first := adds.comes_in catalog entry
      rw [List.foldlM_cons]
      cases added : add catalog entry with
      | error fault =>
          simp only [added, reduceCtorEq, exists_false, false_iff] at first
          simp only [bind, Except.bind, reduceCtorEq, exists_false, false_iff]
          rintro ⟨fair, -, free⟩
          exact first ⟨fair entry (by simp), free entry (by simp)⟩
      | ok grown =>
          have come : fair entry ∧ ¬taken catalog (name entry) := first.mp ⟨grown, added⟩
          simp only [bind, Except.bind, ih, adds.takes added, List.forall_mem_cons, come, true_and,
            List.map_cons, List.nodup_cons, List.mem_map, not_exists, not_and]
          grind

/-- Entries that all come in leave the catalog that a history of offers leaves. -/
theorem foldl_attempt_of_foldlM {catalog grown : γ} {entries : List β}
    (added : entries.foldlM add catalog = .ok grown) :
    entries.foldl (fun catalog entry => (attempt catalog (add catalog entry)).2) catalog =
      grown := by
  induction entries generalizing catalog with
  | nil => exact Except.ok.inj added
  | cons entry rest ih =>
      rw [List.foldlM_cons] at added
      cases first : add catalog entry with
      | error fault =>
          rw [first] at added
          cases added
      | ok next =>
          rw [first] at added
          rw [List.foldl_cons, first]
          exact ih added

/-- What is taken at first keeps no entry out if it is nothing. -/
theorem AddsFree.foldlM_eq_ok_iff (adds : AddsFree add taken name fair) {start grown : γ}
    (empty : ∀ key, ¬taken start key) {entries : List β} :
    entries.foldlM add start = .ok grown ↔
      grown = entries.foldl (fun catalog entry => (attempt catalog (add catalog entry)).2) start ∧
        (∀ entry ∈ entries, fair entry) ∧ (entries.map name).Nodup := by
  have all := adds.exists_foldlM_iff start entries
  constructor
  · intro added
    obtain ⟨fairs, distinct, -⟩ := all.mp ⟨grown, added⟩
    exact ⟨(foldl_attempt_of_foldlM added).symm, fairs, distinct⟩
  · rintro ⟨rfl, fairs, distinct⟩
    obtain ⟨grown, added⟩ := all.mpr ⟨fairs, distinct, fun entry _ => empty (name entry)⟩
    rw [added, foldl_attempt_of_foldlM added]

end Additions

/-- Where all offers are fair and their names distinct, each is found under its name. -/
theorem HoldsFirst.map_found_eq_some_iff {α β : Type} {found : String → Option α}
    {values : List α} {name : β → String} {listed : α → β} {fair : β → Prop} [DecidablePred fair]
    {offers : List β} (holds : HoldsFirst found values name listed fair offers)
    (fairs : ∀ offer ∈ offers, fair offer) (distinct : (offers.map name).Nodup) {key : String}
    {offer : β} : (found key).map listed = some offer ↔ offer ∈ offers ∧ name offer = key := by
  rw [holds.first]
  constructor
  · intro chosen
    have here := List.find?_some chosen
    simp only [decide_eq_true_eq] at here
    exact ⟨List.mem_of_find?_eq_some chosen, here.1⟩
  · rintro ⟨mem, rfl⟩
    cases chosen : offers.find? fun other => name other = name offer ∧ fair other with
    | none =>
        have never := List.find?_eq_none.mp chosen offer mem
        simp [fairs offer mem] at never
    | some other =>
        have here := List.find?_some chosen
        simp only [decide_eq_true_eq] at here
        have same := List.inj_on_of_nodup_map distinct (List.mem_of_find?_eq_some chosen) mem here.1
        rw [same]

/-- The supplement that a listing describes. -/
def SupplementListing.supplement (listing : SupplementListing) : Supplement :=
  ⟨listing.id, listing.kind, listing.label, ⟨listing.unitPrice⟩⟩

/-- An entry comes in just if its price is fair and its name is free. -/
theorem Answered.exists_ok_iff {γ : Type} {catalog : γ} {result : Except PricingFault γ}
    {fair taken : Prop} {unfairness repetition : PricingFault}
    (answered : Answered catalog (attempt catalog result) fair taken unfairness repetition) :
    (∃ grown, result = .ok grown) ↔ fair ∧ ¬taken := by
  obtain ⟨unfair, repeated, added⟩ := answered
  cases result with
  | ok grown =>
      refine iff_of_true ⟨grown, rfl⟩ ⟨?_, ?_⟩
      · by_contra bad
        exact nomatch unfair bad
      · intro taken
        by_cases fair : fair
        · exact nomatch repeated fair taken
        · exact nomatch unfair fair
  | error fault =>
      refine iff_of_false nofun ?_
      rintro ⟨fair, free⟩
      exact nomatch added fair free

theorem Index.exists_get?_offered_iff {α β : Type} {index : Index α} {name : β → String}
    {make? : β → Option α} {offer : β} (made : ∃ entry, make? offer = some entry) (key : String) :
    (∃ value, (index.offered name make? offer).get? key = some value) ↔
      (∃ value, index.get? key = some value) ∨ name offer = key := by
  obtain ⟨entry, made⟩ := made
  rw [get?_offered, entryFor, made]
  cases index.get? key with
  | some value => simp
  | none => by_cases here : name offer = key <;> simp [here]

theorem TierCatalog.addsFree :
    AddsFree TierCatalog.add (fun catalog name => ∃ tier, catalog.find name = .ok tier)
      TierListing.name TierListing.IsPriced where
  comes_in catalog listing := (catalog.answered_offer listing).exists_ok_iff
  takes := by
    intro catalog listing grown added key
    have fair := ((catalog.answered_offer listing).exists_ok_iff.mp ⟨grown, added⟩).1
    have offered := catalog.tiers_offer listing
    rw [offer, added] at offered
    have made : ∃ tier, listing.tier? = some tier := by
      have shown := listing.map_tier?
      rw [if_pos fair, Option.map_eq_some_iff] at shown
      exact ⟨_, shown.choose_spec.1⟩
    simp only [find_eq_ok_iff]
    rw [show grown.tiers = _ from offered]
    exact Index.exists_get?_offered_iff made key

theorem SupplementCatalog.addsFree :
    AddsFree SupplementCatalog.insert (fun catalog id => ∃ entry, catalog.find? id = some entry)
      Supplement.id Supplement.IsPriced where
  comes_in catalog supplement := (catalog.answered_offer supplement).exists_ok_iff
  takes := by
    intro catalog supplement grown added key
    have fair := ((catalog.answered_offer supplement).exists_ok_iff.mp ⟨grown, added⟩).1
    have offered := catalog.entries_offer supplement
    rw [offer, added] at offered
    have made : ∃ entry, supplement.priced? = some entry := ⟨supplement, if_pos fair⟩
    simp only [find?]
    rw [show grown.entries = _ from offered]
    exact Index.exists_get?_offered_iff made key

namespace Config

theorem addTiers_eq_foldlM (catalog : TierCatalog) (listings : List TierListing) :
    addTiers catalog listings = listings.foldlM TierCatalog.add catalog := by
  induction listings generalizing catalog with
  | nil => rfl
  | cons listing rest ih =>
      rw [addTiers, List.foldlM_cons, TierCatalog.add]
      cases PriceTier.create listing.name listing.description listing.pricePerCubicMeter with
      | error fault => rfl
      | ok tier =>
          simp only [Except.bind]
          cases catalog.insert tier with
          | error fault => rfl
          | ok grown => exact ih grown

theorem addSupplements_eq_foldlM (catalog : SupplementCatalog)
    (listings : List SupplementListing) :
    addSupplements catalog listings =
      (listings.map SupplementListing.supplement).foldlM SupplementCatalog.insert catalog := by
  induction listings generalizing catalog with
  | nil => rfl
  | cons listing rest ih =>
      rw [addSupplements, List.map_cons, List.foldlM_cons, SupplementListing.supplement]
      cases catalog.insert ⟨listing.id, listing.kind, listing.label, ⟨listing.unitPrice⟩⟩ with
      | error fault => rfl
      | ok grown => exact ih grown

/-- The supplements of a configuration. -/
def offers (config : Config) : List Supplement :=
  config.supplements.map SupplementListing.supplement

/-- The catalogs and defaults that are asked for with a configuration. -/
def prices (config : Config) : PriceList :=
  ⟨.ofOffers config.tiers, .ofOffers config.offers, config.pricing⟩

/-- The entries of a configuration make up catalogs. -/
structure HasEntries (config : Config) : Prop where
  someTier : config.tiers ≠ []
  tierPrices : ∀ listing ∈ config.tiers, listing.IsPriced
  tierNames : (config.tiers.map TierListing.name).Nodup
  supplementPrices : ∀ supplement ∈ config.offers, supplement.IsPriced
  supplementIds : (config.offers.map Supplement.id).Nodup

variable {config : Config}

theorem addTiers_eq_ok_iff {listings : List TierListing} {catalog : TierCatalog} :
    addTiers .empty listings = .ok catalog ↔
      catalog = .ofOffers listings ∧ (∀ listing ∈ listings, listing.IsPriced) ∧
        (listings.map TierListing.name).Nodup := by
  rw [addTiers_eq_foldlM]
  exact TierCatalog.addsFree.foldlM_eq_ok_iff fun _ ⟨_, found⟩ => nomatch found

theorem addSupplements_eq_ok_iff {catalog : SupplementCatalog} :
    addSupplements .empty config.supplements = .ok catalog ↔
      catalog = .ofOffers config.offers ∧ (∀ supplement ∈ config.offers, supplement.IsPriced) ∧
        (config.offers.map Supplement.id).Nodup := by
  rw [addSupplements_eq_foldlM]
  exact SupplementCatalog.addsFree.foldlM_eq_ok_iff fun _ ⟨_, found⟩ => nomatch found

theorem priceList_eq_ok_iff {list : PriceList} :
    config.priceList = .ok list ↔ list = config.prices ∧ config.HasEntries := by
  rw [priceList]
  by_cases none : config.tiers = []
  · simp only [if_pos none, reduceCtorEq, false_iff]
    rintro ⟨-, entries⟩
    exact entries.someTier none
  rw [if_neg none]
  have tiers := @addTiers_eq_ok_iff config.tiers
  have supplements := @addSupplements_eq_ok_iff config
  cases added : addTiers .empty config.tiers with
  | error fault =>
      simp only [added, reduceCtorEq, false_iff] at tiers ⊢
      rintro ⟨-, entries⟩
      exact tiers ⟨rfl, entries.tierPrices, entries.tierNames⟩
  | ok catalog =>
      obtain ⟨rfl, tierPrices, tierNames⟩ := tiers.mp added
      cases supplied : addSupplements .empty config.supplements with
      | error fault =>
          simp only [supplied, reduceCtorEq, false_iff] at supplements ⊢
          rintro ⟨-, entries⟩
          exact supplements ⟨rfl, entries.supplementPrices, entries.supplementIds⟩
      | ok extras =>
          obtain ⟨rfl, supplementPrices, supplementIds⟩ := supplements.mp supplied
          have entries : config.HasEntries :=
            ⟨none, tierPrices, tierNames, supplementPrices, supplementIds⟩
          simp [entries, prices, eq_comm]

/-- The catalogs and defaults of a price list are those of a configuration. -/
structure IsListedIn (config : Config) (list : PriceList) : Prop where
  tier : ∀ name listing, (list.tiers.find name).toOption.map PriceTier.listing = some listing ↔
    listing ∈ config.tiers ∧ listing.name = name
  supplement : ∀ id entry, list.supplements.find? id = some entry ↔
    entry ∈ config.offers ∧ entry.id = id
  defaults : list.defaults = config.pricing

theorem HasEntries.isListedIn (entries : config.HasEntries) : config.IsListedIn config.prices where
  tier := fun _ _ => (TierCatalog.holdsFirst_ofOffers config.tiers).map_found_eq_some_iff
    entries.tierPrices entries.tierNames
  supplement := by
    intro id entry
    have found : (config.prices.supplements.find? id).map (fun entry => entry) = some entry ↔
        entry ∈ config.offers ∧ entry.id = id :=
      (SupplementCatalog.holdsFirst_ofOffers config.offers).map_found_eq_some_iff
        entries.supplementPrices entries.supplementIds
    rwa [Option.map_id'] at found
  defaults := rfl

end Config

namespace Config

variable {config : Config} {request : QuoteRequest}

/-- A request that asks for a tier of a configuration or for none, and for at least one piece
of each supplement that it names. -/
structure Allows (config : Config) (request : QuoteRequest) : Prop where
  tier : ∀ name, request.tier = some name → name ∈ config.tiers.map TierListing.name
  picks : ∀ pick ∈ request.picks,
    pick.1 ∈ config.supplements.map SupplementListing.id ∧ 1 ≤ pick.2

theorem HasEntries.exists_find (entries : config.HasEntries) {name : String}
    (listed : name ∈ config.tiers.map TierListing.name) :
    ∃ tier, config.prices.tiers.find name = .ok tier := by
  obtain ⟨listing, mem, rfl⟩ := List.mem_map.mp listed
  have held := (entries.isListedIn.tier listing.name listing).mpr ⟨mem, rfl⟩
  cases found : config.prices.tiers.find listing.name with
  | ok tier => exact ⟨tier, rfl⟩
  | error fault =>
      rw [found] at held
      cases held

theorem HasEntries.exists_find? (entries : config.HasEntries) {id : String}
    (listed : id ∈ config.supplements.map SupplementListing.id) :
    ∃ entry, config.prices.supplements.find? id = some entry := by
  obtain ⟨listing, mem, rfl⟩ := List.mem_map.mp listed
  exact ⟨listing.supplement,
    (entries.isListedIn.supplement _ _).mpr ⟨List.mem_map_of_mem mem, rfl⟩⟩

/-- Requests that are allowed are priced unless a price is too large. -/
theorem HasEntries.onlyOverflows_quoteChecked (entries : config.HasEntries)
    (usual : config.pricing.tier ∈ config.tiers.map TierListing.name)
    (allowed : config.Allows request) (checked : CheckedSpecification) :
    OnlyOverflows (config.prices.quoteChecked checked request) := by
  have named : request.tier.getD config.prices.defaults.tier ∈
      config.tiers.map TierListing.name := by
    cases asked : request.tier with
    | none => exact usual
    | some name => exact allowed.tier name asked
  obtain ⟨tier, found⟩ := entries.exists_find named
  have selected : OnlyOverflows (config.prices.supplements.selection request.picks) := by
    refine SupplementCatalog.onlyOverflows_selection
      (SupplementCatalog.hasPrices_ofOffers config.offers) fun pick mem => ?_
    obtain ⟨listed, pieces⟩ := allowed.picks pick mem
    exact ⟨entries.exists_find? listed, pieces⟩
  rw [PriceList.quoteChecked, found]
  dsimp only
  split
  · rename_i fault failed
    obtain ⟨subject, rfl⟩ := selected fault failed
    exact .overflow subject
  · split
    · rename_i fault failed
      obtain ⟨subject, rfl⟩ := onlyOverflows_quoteDimensions _ _ _ _ fault failed
      exact .overflow subject
    · exact .ok _

end Config

namespace Config

variable {config : Config}

/-- What is checked of a configuration. -/
structure IsSound (config : Config) : Prop where
  generationAddress : IsWebAddress config.generation.baseUrl
  storeAddress : IsWebAddress config.store.baseUrl
  generationDeadline : config.generation.requestTimeoutSecs ≠ 0
  storeDeadline : config.store.requestTimeoutSecs ≠ 0
  capacity : config.generation.cacheCapacity ≠ 0
  entries : config.HasEntries
  usualTier : config.pricing.tier ∈ config.tiers.map TierListing.name

/-- What can be wrong with a configuration. -/
inductive IsFaulty (config : Config) : Prop
  | address (base : String) (given : base ∈ [config.generation.baseUrl, config.store.baseUrl])
      (odd : ¬IsWebAddress base)
  | deadline (zero : 0 ∈ [config.generation.requestTimeoutSecs, config.store.requestTimeoutSecs])
  | capacity (zero : config.generation.cacheCapacity = 0)
  | noTier (none : config.tiers = [])
  | tierPrice (listing : TierListing) (listed : listing ∈ config.tiers)
      (price : listing.pricePerCubicMeter.value ≤ 0)
  | supplementPrice (listing : SupplementListing) (listed : listing ∈ config.supplements)
      (price : listing.unitPrice.value < 0)
  | tierName (repeated : ¬(config.tiers.map TierListing.name).Nodup)
  | supplementId (repeated : ¬(config.supplements.map SupplementListing.id).Nodup)
  | usualTier (missing : config.pricing.tier ∉ config.tiers.map TierListing.name)

theorem ids_offers (config : Config) :
    config.offers.map Supplement.id = config.supplements.map SupplementListing.id := by
  rw [offers, List.map_map]
  rfl

theorem isSound_or_isFaulty (config : Config) : config.IsSound ∨ config.IsFaulty := by
  by_contra! neither
  obtain ⟨unsound, faultless⟩ := neither
  refine unsound ⟨?_, ?_, ?_, ?_, ?_, ⟨?_, ?_, ?_, ?_, ?_⟩, ?_⟩
  · exact not_not.mp fun odd => faultless (.address _ (by simp) odd)
  · exact not_not.mp fun odd => faultless (.address _ (by simp) odd)
  · exact fun zero => faultless (.deadline (by simp [zero]))
  · exact fun zero => faultless (.deadline (by simp [zero]))
  · exact fun zero => faultless (.capacity zero)
  · exact fun none => faultless (.noTier none)
  · exact fun listing listed => not_le.mp fun price => faultless (.tierPrice listing listed price)
  · exact not_not.mp fun repeated => faultless (.tierName repeated)
  · intro supplement offered
    obtain ⟨listing, listed, rfl⟩ := List.mem_map.mp offered
    exact not_lt.mp fun price => faultless (.supplementPrice listing listed price)
  · rw [ids_offers]
    exact not_not.mp fun repeated => faultless (.supplementId repeated)
  · exact not_not.mp fun missing => faultless (.usualTier missing)

theorem exists_find_iff (entries : config.HasEntries) :
    (∃ tier, config.prices.tiers.find config.prices.defaults.tier = .ok tier) ↔
      config.pricing.tier ∈ config.tiers.map TierListing.name := by
  refine ⟨?_, entries.exists_find⟩
  rintro ⟨tier, found⟩
  have held := (entries.isListedIn.tier config.pricing.tier tier.listing).mp
    (by rw [show config.prices.tiers.find config.pricing.tier = .ok tier from found]; rfl)
  exact List.mem_map.mpr ⟨tier.listing, held⟩

/-- The checks one by one, in their order. -/
theorem validate_eq_ok_iff_steps :
    config.validate = .ok () ↔
      (∃ url, config.generationUrl = .ok url) ∧ (∃ url, config.storeUrl = .ok url) ∧
        ¬(config.generation.requestTimeoutSecs = 0 ∨ config.store.requestTimeoutSecs = 0) ∧
          ¬config.generation.cacheCapacity = 0 ∧
            ∃ prices, config.priceList = .ok prices ∧
              ∃ tier, prices.tiers.find prices.defaults.tier = .ok tier := by
  rw [validate]
  cases config.generationUrl with
  | error fault => simp
  | ok generationUrl =>
  cases config.storeUrl with
  | error fault => simp
  | ok storeUrl =>
  by_cases deadline : config.generation.requestTimeoutSecs = 0 ∨ config.store.requestTimeoutSecs = 0
  · simp [deadline]
  by_cases capacity : config.generation.cacheCapacity = 0
  · simp [deadline, capacity]
  simp only [if_neg deadline, if_neg capacity]
  cases config.priceList with
  | error fault => simp [deadline, capacity]
  | ok prices =>
      cases found : prices.tiers.find prices.defaults.tier <;> simp [deadline, capacity, found]

theorem validate_eq_ok_iff : config.validate = .ok () ↔ config.IsSound := by
  rw [validate_eq_ok_iff_steps]
  simp only [generationUrl, storeUrl, exists_endpoint_iff, priceList_eq_ok_iff, not_or]
  constructor
  · rintro ⟨generation, store, ⟨deadline, deadline'⟩, capacity, prices, ⟨rfl, entries⟩, usual⟩
    exact ⟨generation, store, deadline, deadline', capacity, entries,
      (exists_find_iff entries).mp usual⟩
  · intro sound
    exact ⟨sound.generationAddress, sound.storeAddress,
      ⟨sound.generationDeadline, sound.storeDeadline⟩, sound.capacity, _, ⟨rfl, sound.entries⟩,
      (exists_find_iff sound.entries).mpr sound.usualTier⟩

theorem IsFaulty.not_isSound (faulty : config.IsFaulty) : ¬config.IsSound := by
  intro sound
  cases faulty with
  | address base given odd =>
      rcases List.mem_cons.mp given with rfl | given
      · exact odd sound.generationAddress
      · obtain rfl := List.mem_singleton.mp given
        exact odd sound.storeAddress
  | deadline zero =>
      rcases List.mem_cons.mp zero with zero | zero
      · exact sound.generationDeadline zero.symm
      · exact sound.storeDeadline (List.mem_singleton.mp zero).symm
  | capacity zero => exact sound.capacity zero
  | noTier none => exact sound.entries.someTier none
  | tierPrice listing listed price =>
      exact not_lt.mpr price (sound.entries.tierPrices listing listed)
  | supplementPrice listing listed price =>
      have priced := sound.entries.supplementPrices _ (List.mem_map_of_mem listed)
      exact not_le.mpr price priced
  | tierName repeated => exact repeated sound.entries.tierNames
  | supplementId repeated => exact repeated (ids_offers config ▸ sound.entries.supplementIds)
  | usualTier missing => exact missing sound.usualTier

theorem validate_eq_error_iff : (∃ fault, config.validate = .error fault) ↔ config.IsFaulty := by
  have valid := @validate_eq_ok_iff config
  constructor
  · rintro ⟨fault, failed⟩
    refine config.isSound_or_isFaulty.resolve_left fun sound => ?_
    rw [valid.mpr sound] at failed
    cases failed
  · intro faulty
    cases checked : config.validate with
    | ok _ => exact absurd (valid.mp checked) faulty.not_isSound
    | error fault => exact ⟨fault, rfl⟩

theorem IsSound.configurator_eq (sound : config.IsSound) (client : Client) (server : Server) :
    ∃ access, config.configurator client server =
      .ok ⟨config.prices, RemoteAccess.services access client server⟩ := by
  obtain ⟨generationUrl, generation⟩ :=
    (exists_endpoint_iff _ "generate").mpr sound.generationAddress
  obtain ⟨storeUrl, store⟩ :=
    (exists_endpoint_iff _ "configurations").mpr sound.storeAddress
  have listed : config.priceList = .ok config.prices := priceList_eq_ok_iff.mpr ⟨rfl, sound.entries⟩
  simp only [configurator, listed, remoteAccess, Config.generationUrl, generation, Config.storeUrl,
    store]
  exact ⟨_, rfl⟩

theorem validate_of_finish {merged : Config} {environment : Environment}
    (made : config.finish environment = .ok merged) : merged.validate = .ok () := by
  rw [finish] at made
  split at made
  · cases made
  · rename_i valid
    exact Except.ok.inj made ▸ valid

/-- What loads is valid. -/
theorem validate_of_load {file : ConfigFile} {environment : Environment}
    (loaded : load file environment = .ok config) : config.validate = .ok () := by
  cases file with
  | missing => exact validate_of_finish loaded
  | unreadable => cases loaded
  | text contents =>
      rw [load] at loaded
      split at loaded
      · cases loaded
      · exact validate_of_finish loaded

/-- What loads gives a configurator over the services of a server. -/
theorem configurator_of_load {file : ConfigFile} {environment : Environment}
    (loaded : load file environment = .ok config) (client : Client) (server : Server) :
    ∃ access, config.configurator client server =
      .ok ⟨config.prices, RemoteAccess.services access client server⟩ :=
  (validate_eq_ok_iff.mp (validate_of_load loaded)).configurator_eq client server

/-- A valid configuration is enough for a configurator (where programs can reach the web at
all). It finds every tier and supplement of the configuration under its own name, nothing
else, and the usual tier; and it prices every code that passes the checks, with any choice
among these, unless an amount is too large. A configuration that is not valid has an odd
address, an empty limit, no tier, a price that is not allowed, a name twice, or a usual tier
that is not listed. -/
theorem usable_of_validate (client : Client) (server : Server) (config : Config) :
    (config.validate = .ok () →
      ∃ configurator, config.configurator client server = .ok configurator ∧
        config.IsListedIn configurator.prices ∧
        (∃ tier, configurator.prices.tiers.find configurator.prices.defaults.tier = .ok tier) ∧
        ∀ code checked request, Registry.standard.check code = .ok checked →
          config.Allows request →
            (∃ quoted, configurator.prices.quote code request = .ok quoted) ∨
              ∃ subject,
                configurator.prices.quote code request = .error (.pricing (.overflow subject))) ∧
    ((∃ fault, config.validate = .error fault) ↔ config.IsFaulty) := by
  refine ⟨fun valid => ?_, validate_eq_error_iff⟩
  have sound : config.IsSound := validate_eq_ok_iff.mp valid
  obtain ⟨access, made⟩ := sound.configurator_eq client server
  refine ⟨_, made, sound.entries.isListedIn,
    (exists_find_iff sound.entries).mpr sound.usualTier, ?_⟩
  intro code checked request accepted allowed
  have priced := sound.entries.onlyOverflows_quoteChecked sound.usualTier allowed checked
  rw [PriceList.quote, accepted]
  rcases priced.ok_or_overflow with ⟨quoted, priced⟩ | ⟨subject, priced⟩
  · exact .inl ⟨quoted, by simp [priced, Except.mapError]⟩
  · exact .inr ⟨subject, by simp [priced, Except.mapError]⟩

/-- With the standard configuration a set of shelves is priced in oak with two drawers. -/
theorem usable_of_validate_standard :
    standard.validate = .ok () ∧ ∃ configurator,
      standard.configurator .standard (fun _ => ⟨0, .lost, none⟩) = .ok configurator ∧
        ((∃ quoted, configurator.prices.quote "M1(2000,500,1000)b"
            ⟨some "oak", [("drawer", 2)], none⟩ = .ok quoted) ∨
          ∃ subject, configurator.prices.quote "M1(2000,500,1000)b"
            ⟨some "oak", [("drawer", 2)], none⟩ = .error (.pricing (.overflow subject))) := by
  have valid : standard.validate = .ok () := by rfl
  obtain ⟨checked, accepted⟩ :
      ∃ checked, Registry.standard.check "M1(2000,500,1000)b" = .ok checked :=
    Registry.exists_check_iff.mpr ⟨⟨"M1", [2000, 500, 1000], .ofList ['b']⟩, by decide +kernel,
      by decide +kernel⟩
  have allowed : standard.Allows ⟨some "oak", [("drawer", 2)], none⟩ := ⟨by decide, by decide⟩
  obtain ⟨configurator, made, -, -, priced⟩ := (usable_of_validate .standard _ standard).1 valid
  exact ⟨valid, configurator, made, priced _ checked _ accepted allowed⟩

end Config

end Joinery
