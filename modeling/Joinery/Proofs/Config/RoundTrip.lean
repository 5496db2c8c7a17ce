import Joinery.Config.File
import Joinery.Proofs.Decimal.RoundTrip
import Joinery.Proofs.Json.Structures
import Joinery.Proofs.Toml.Tables

/-!
# Saved configurations are loaded as they were

A valid configuration that can be saved is what its file says, as long as no environment
variable overrides a field: every text, number and list comes back, also a list without items,
and every price is the same amount.

Main statement: `Joinery.Config.load_toSave`.
-/

namespace Joinery

open Json

/-- The listing without the sign that a price of zero may have. -/
def TierListing.withoutZeroSign (listing : TierListing) : TierListing :=
  { listing with pricePerCubicMeter := listing.pricePerCubicMeter.withoutZeroSign }

/-- The listing without the sign that a price of zero may have. -/
def SupplementListing.withoutZeroSign (listing : SupplementListing) : SupplementListing :=
  { listing with unitPrice := listing.unitPrice.withoutZeroSign }

/-- The configuration without the signs that prices of zero may have. -/
def Config.withoutZeroSigns (config : Config) : Config :=
  { config with
    tiers := config.tiers.map .withoutZeroSign
    supplements := config.supplements.map .withoutZeroSign }

variable (format : Format)

theorem GenerationAccess.ofJson?_toJson (access : GenerationAccess) :
    GenerationAccess.ofJson? format access.toJson = some access := by
  obtain ⟨given, found, all⟩ := exists_given format (show access.toJson = .obj _ from rfl) (by simp)
  simp only [List.map_cons, List.map_nil, List.forall_mem_cons] at found all
  simp [GenerationAccess.ofJson?, found, withDefault, all, asText, asUInt64_toNat, asUInt32_toNat]

theorem StoreAccess.ofJson?_toJson (access : StoreAccess) :
    StoreAccess.ofJson? format access.toJson = some access := by
  obtain ⟨given, found, all⟩ := exists_given format (show access.toJson = .obj _ from rfl) (by simp)
  simp only [List.map_cons, List.map_nil, List.forall_mem_cons] at found all
  simp [StoreAccess.ofJson?, found, withDefault, all, asText, asUInt64_toNat, asUInt32_toNat]

theorem PricingDefaults.ofJson?_toJson (defaults : PricingDefaults) :
    PricingDefaults.ofJson? format defaults.toJson = some defaults := by
  obtain ⟨given, found, all⟩ :=
    exists_given format (show defaults.toJson = .obj _ from rfl) (by simp)
  simp only [List.map_cons, List.map_nil, List.forall_mem_cons] at found all
  simp [PricingDefaults.ofJson?, found, withDefault, all, asText, HeightPolicy.ofJson?, asWord,
    HeightPolicy.ofString?_text]

theorem Decimal.ofJson?_toJson (x : Decimal) : Decimal.ofJson? x.toJson = some x.withoutZeroSign :=
  ofString?_text x

theorem TierListing.ofJson?_toJson (listing : TierListing) :
    TierListing.ofJson? format listing.toJson = some listing.withoutZeroSign := by
  obtain ⟨given, found, all⟩ :=
    exists_given format (show listing.toJson = .obj _ from rfl) (by simp)
  simp only [List.map_cons, List.map_nil, List.forall_mem_cons] at found all
  simp [TierListing.ofJson?, found, withDefault, required, all, asText, Decimal.ofJson?_toJson,
    withoutZeroSign]

theorem SupplementListing.ofJson?_toJson (listing : SupplementListing) :
    SupplementListing.ofJson? format listing.toJson = some listing.withoutZeroSign := by
  obtain ⟨given, found, all⟩ :=
    exists_given format (show listing.toJson = .obj _ from rfl) (by simp)
  simp only [List.map_cons, List.map_nil, List.forall_mem_cons] at found all
  simp [SupplementListing.ofJson?, found, withDefault, required, all, asText,
    SupplementKind.ofJson?, asWord, SupplementKind.ofString?_text, Decimal.ofJson?_toJson,
    withoutZeroSign]

namespace Config

/-- The sections of a configuration. -/
def sections (config : Config) : List (String × Json) :=
  [("generation", config.generation.toJson), ("store", config.store.toJson),
    ("pricing", config.pricing.toJson), ("tiers", .arr (config.tiers.map TierListing.toJson)),
    ("supplements", .arr (config.supplements.map SupplementListing.toJson))]

/-- The sections may come in any order. -/
theorem ofJson?_of_perm (config : Config) {fields : List (String × Json)}
    (perm : fields.Perm config.sections) :
    ofJson? format (.obj fields) = some config.withoutZeroSigns := by
  have distinct : (fields.map Prod.fst).Nodup :=
    (perm.map Prod.fst).nodup_iff.mpr (by simp [sections])
  have known : ∀ field ∈ config.sections,
      field.1 ∈ ["generation", "store", "pricing", "tiers", "supplements"] := by simp [sections]
  obtain ⟨given, found, all⟩ := exists_givenByName _ distinct
  have each : ∀ field ∈ config.sections, given field.1 = some field.2 := fun field mem =>
    all field (perm.mem_iff.mpr mem) (known field mem)
  simp only [sections, List.forall_mem_cons] at each
  simp [ofJson?, Json.given, found, withDefault, each, GenerationAccess.ofJson?_toJson,
    StoreAccess.ofJson?_toJson, PricingDefaults.ofJson?_toJson,
    asList_map (TierListing.ofJson?_toJson format),
    asList_map (SupplementListing.ofJson?_toJson format), withoutZeroSigns]

/-- Keys are plain by their names alone. -/
theorem plainKeys_of_names {fields : List (String × Json)} (names : List String)
    (same : fields.map Prod.fst = names) (bare : ∀ name ∈ names, Toml.IsBareKey name)
    (distinct : names.Nodup) : Toml.PlainKeys fields where
  bare := fun _ mem => bare _ (same ▸ List.mem_map_of_mem mem)
  distinct := same ▸ distinct

theorem isPlainDocument_sections (config : Config) : Toml.IsPlainDocument config.sections where
  keys := plainKeys_of_names ["generation", "store", "pricing", "tiers", "supplements"] rfl
    (by decide) (by decide)
  table := by
    intro name inner mem
    simp only [sections, List.mem_cons, Prod.mk.injEq, reduceCtorEq, and_false, List.not_mem_nil,
      or_false] at mem
    rcases mem with ⟨-, same⟩ | ⟨-, same⟩ | ⟨-, same⟩
    · obtain rfl := Json.obj.inj same
      exact plainKeys_of_names ["base_url", "request_timeout_secs", "connect_timeout_secs",
        "max_retries", "initial_backoff_ms", "max_backoff_secs", "cache_capacity"] rfl (by decide)
        (by decide)
    · obtain rfl := Json.obj.inj same
      exact plainKeys_of_names ["base_url", "request_timeout_secs", "connect_timeout_secs",
        "max_retries"] rfl (by decide) (by decide)
    · obtain rfl := Json.obj.inj same
      exact plainKeys_of_names ["default_tier", "height_policy"] rfl (by decide) (by decide)
  item := by
    intro name items mem
    simp only [sections, List.mem_cons, Prod.mk.injEq, Json.arr.injEq, List.not_mem_nil,
      or_false] at mem
    rcases mem with ⟨-, same⟩ | ⟨-, same⟩ | ⟨-, same⟩ | ⟨-, rfl⟩ | ⟨-, rfl⟩
    iterate 3 exact nomatch same
    · intro item mem
      obtain ⟨listing, -, rfl⟩ := List.mem_map.mp mem
      exact ⟨_, rfl, plainKeys_of_names ["name", "description", "price_per_cubic_meter"] rfl
        (by decide) (by decide)⟩
    · intro item mem
      obtain ⟨listing, -, rfl⟩ := List.mem_map.mp mem
      exact ⟨_, rfl, plainKeys_of_names ["id", "kind", "label", "unit_price"] rfl (by decide)
        (by decide)⟩

/-- What a saved file says. -/
theorem ofText?_of_text? {config : Config} {text : String} (written : config.text? = some text) :
    ofText? text = some config.withoutZeroSigns := by
  have parsed := Toml.parse?_write? config.isPlainDocument_sections written
  have perm : (config.sections.filter Toml.isEntry ++
      config.sections.filter Toml.isSection).Perm config.sections :=
    List.filter_append_perm Toml.isEntry config.sections
  rw [ofText?, parsed, Option.bind_some, ofJson?_of_perm _ config perm]

/-- Signs of zeros apart, the configurations are the same. -/
theorem same_withoutZeroSigns (config : Config) : config.withoutZeroSigns.same config = true := by
  have tiers (listings : List TierListing) :
      sameItems sameTier (listings.map .withoutZeroSign) listings = true := by
    induction listings with
    | nil => rfl
    | cons listing rest ih =>
        simp [sameItems, sameTier, TierListing.withoutZeroSign,
          Decimal.sameAmount_withoutZeroSign, ih]
  have supplements (listings : List SupplementListing) :
      sameItems sameSupplement (listings.map .withoutZeroSign) listings = true := by
    induction listings with
    | nil => rfl
    | cons listing rest ih =>
        simp [sameItems, sameSupplement, SupplementListing.withoutZeroSign,
          Decimal.sameAmount_withoutZeroSign, ih]
  simp [same, withoutZeroSigns, tiers, supplements]

/-- A price above zero has no sign to lose. -/
theorem addTiers_withoutZeroSign {catalog grown : TierCatalog} {listings : List TierListing}
    (added : addTiers catalog listings = .ok grown) :
    addTiers catalog (listings.map .withoutZeroSign) = .ok grown := by
  induction listings generalizing catalog with
  | nil => exact added
  | cons listing rest ih =>
      rw [addTiers] at added
      split at added
      · exact nomatch added
      · rename_i tier created
        split at added
        · exact nomatch added
        · rename_i more inserted
          have positive : listing.pricePerCubicMeter.isPositive = true := by
            rw [PriceTier.create] at created
            split at created
            · assumption
            · exact nomatch created
          have same : listing.withoutZeroSign = listing := by
            rw [TierListing.withoutZeroSign, Decimal.withoutZeroSign_of_isPositive positive]
          rw [List.map_cons, same, addTiers, created]
          dsimp only
          rw [inserted]
          exact ih added

theorem insert_eq_ok_iff {catalog grown : SupplementCatalog} {supplement : Supplement} :
    catalog.insert supplement = .ok grown ↔
      supplement.unitPrice.amount.isNegative = false ∧
        catalog.entries.contains supplement.id = false ∧
        grown = ⟨catalog.entries.put supplement.id supplement⟩ := by
  rw [SupplementCatalog.insert, Index.add?]
  by_cases negative : supplement.unitPrice.amount.isNegative = true
  · simp [negative]
  · by_cases taken : catalog.entries.contains supplement.id = true
    · simp [negative, taken]
    · simp [negative, taken, eq_comm]

/-- The ids that are taken decide whether supplements can be added. -/
theorem exists_addSupplements_withoutZeroSign {catalog other grown : SupplementCatalog}
    {listings : List SupplementListing}
    (keys : ∀ id, other.entries.contains id = catalog.entries.contains id)
    (added : addSupplements catalog listings = .ok grown) :
    ∃ grown', addSupplements other (listings.map .withoutZeroSign) = .ok grown' := by
  induction listings generalizing catalog other with
  | nil => exact ⟨other, rfl⟩
  | cons listing rest ih =>
      rw [addSupplements] at added
      split at added
      · exact nomatch added
      · rename_i more inserted
        obtain ⟨negative, free, rfl⟩ := insert_eq_ok_iff.mp inserted
        have inserted' : other.insert ⟨listing.id, listing.kind, listing.label,
            ⟨listing.unitPrice.withoutZeroSign⟩⟩ = .ok _ :=
          insert_eq_ok_iff.mpr ⟨(Decimal.isNegative_withoutZeroSign _).trans negative,
            (keys listing.id).trans free, rfl⟩
        rw [List.map_cons, addSupplements, SupplementListing.withoutZeroSign, inserted']
        refine ih (fun id => ?_) added
        have same := keys id
        simp only [Index.contains_eq_isSome, Index.get?_put] at same ⊢
        split_ifs
        · rfl
        · exact same

/-- The tiers of the price list and its defaults stay, and the supplements stay on offer. -/
theorem exists_priceList_withoutZeroSigns {config : Config} {prices : PriceList}
    (listed : config.priceList = .ok prices) :
    ∃ supplements, config.withoutZeroSigns.priceList =
      .ok ⟨prices.tiers, supplements, prices.defaults⟩ := by
  rw [priceList] at listed
  split at listed
  · exact nomatch listed
  · rename_i some_tier
    split at listed
    · exact nomatch listed
    · rename_i tiers tiers_added
      split at listed
      · exact nomatch listed
      · rename_i supplements supplements_added
        obtain rfl := Except.ok.inj listed
        obtain ⟨others, others_added⟩ :=
          exists_addSupplements_withoutZeroSign (fun _ => rfl) supplements_added
        have some_tier' : config.withoutZeroSigns.tiers ≠ [] := by
          simpa [withoutZeroSigns] using some_tier
        have tiers_added' : addTiers .empty config.withoutZeroSigns.tiers = .ok tiers :=
          addTiers_withoutZeroSign tiers_added
        have others_added' : addSupplements .empty config.withoutZeroSigns.supplements =
          .ok others := others_added
        refine ⟨others, ?_⟩
        rw [priceList, if_neg some_tier', tiers_added']
        dsimp only
        rw [others_added']
        rfl

theorem validate_withoutZeroSigns {config : Config} (valid : config.validate = .ok ()) :
    config.withoutZeroSigns.validate = .ok () := by
  have generation : config.withoutZeroSigns.generation = config.generation := rfl
  have store : config.withoutZeroSigns.store = config.store := rfl
  rw [validate, generationUrl, storeUrl] at valid ⊢
  rw [generation, store]
  split at valid
  · exact nomatch valid
  · split at valid
    · exact nomatch valid
    · split at valid
      · exact nomatch valid
      · rename_i deadlines
        split at valid
        · exact nomatch valid
        · rename_i capacity
          split at valid
          · exact nomatch valid
          · rename_i prices listed
            obtain ⟨supplements, listed'⟩ := exists_priceList_withoutZeroSigns listed
            simp only [if_neg deadlines, if_neg capacity, listed']
            exact valid

theorem override_of_unset {environment : Environment}
    (unset : ∀ name : String, name.startsWith "ATELIER_" = true → environment name = none)
    (config : Config) : config.override environment = config := by
  simp [override, unset "ATELIER_GENERATION_URL" (by decide +kernel),
    unset "ATELIER_REQUEST_TIMEOUT_SECS" (by decide +kernel),
    unset "ATELIER_MAX_RETRIES" (by decide +kernel), unset "ATELIER_STORE_URL" (by decide +kernel),
    unset "ATELIER_DEFAULT_TIER" (by decide +kernel)]

/-- A valid configuration that is saved is loaded again, with the same prices. -/
theorem load_toSave {config : Config} {text : String} {environment : Environment}
    (valid : config.validate = .ok ()) (saved : config.toSave = .ok text)
    (unset : ∀ name : String, name.startsWith "ATELIER_" = true → environment name = none) :
    load (.text text) environment = .ok config.withoutZeroSigns ∧
      config.withoutZeroSigns.same config = true := by
  refine ⟨?_, config.same_withoutZeroSigns⟩
  have written : config.text? = some text := by
    rw [toSave] at saved
    split at saved
    · obtain rfl := Except.ok.inj saved
      assumption
    · exact nomatch saved
  simp only [load, ofText?_of_text? written, finish, override_of_unset unset,
    validate_withoutZeroSigns valid]

/-- A workshop with one tier, whose description needs several lines and escapes, and without
supplements. -/
def workshop : Config :=
  { standard with
    tiers := [⟨"standard", "Oak\n\"\"\"\x00\r", ⟨false, 15000, 4, by decide, by decide⟩⟩]
    supplements := [] }

theorem load_toSave_workshop :
    ∃ text, (workshop.validate = .ok () ∧ workshop.toSave = .ok text) ∧
      load (.text text) (fun _ => none) = .ok workshop.withoutZeroSigns := by
  have valid : workshop.validate = .ok () := by rfl
  obtain ⟨text, written⟩ : ∃ text, workshop.text? = some text := ⟨_, rfl⟩
  have saved : workshop.toSave = .ok text := by rw [toSave, written]
  exact ⟨text, ⟨valid, saved⟩, (load_toSave valid saved fun _ _ => rfl).1⟩

end Config

end Joinery
