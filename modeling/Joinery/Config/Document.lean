import Joinery.Config
import Joinery.Json.Decode
import Joinery.Json.Documents

/-!
# Configurations as documents

The sections and fields of a configuration as a structured document. Every
section and nearly every field may be left out; what is left out takes its
standard value.
-/

namespace Joinery

open Json

/-- Reads the access to the generation service. -/
def GenerationAccess.ofJson? (format : Format) (value : Json) : Option GenerationAccess := do
  let fields ← given format ["base_url", "request_timeout_secs", "connect_timeout_secs",
    "max_retries", "initial_backoff_ms", "max_backoff_secs", "cache_capacity"] value
  let standard := GenerationAccess.standard
  return {
    baseUrl := ← withDefault asText standard.baseUrl fields "base_url"
    requestTimeoutSecs :=
      ← withDefault asUInt64 standard.requestTimeoutSecs fields "request_timeout_secs"
    connectTimeoutSecs :=
      ← withDefault asUInt64 standard.connectTimeoutSecs fields "connect_timeout_secs"
    maxRetries := ← withDefault asUInt32 standard.maxRetries fields "max_retries"
    initialBackoffMs :=
      ← withDefault asUInt64 standard.initialBackoffMs fields "initial_backoff_ms"
    maxBackoffSecs := ← withDefault asUInt64 standard.maxBackoffSecs fields "max_backoff_secs"
    cacheCapacity := ← withDefault asUInt64 standard.cacheCapacity fields "cache_capacity" }

/-- Reads the access to the store. -/
def StoreAccess.ofJson? (format : Format) (value : Json) : Option StoreAccess := do
  let fields ← given format ["base_url", "request_timeout_secs", "connect_timeout_secs",
    "max_retries"] value
  let standard := StoreAccess.standard
  return {
    baseUrl := ← withDefault asText standard.baseUrl fields "base_url"
    requestTimeoutSecs :=
      ← withDefault asUInt64 standard.requestTimeoutSecs fields "request_timeout_secs"
    connectTimeoutSecs :=
      ← withDefault asUInt64 standard.connectTimeoutSecs fields "connect_timeout_secs"
    maxRetries := ← withDefault asUInt32 standard.maxRetries fields "max_retries" }

/-- Reads a height policy by its full word. -/
def HeightPolicy.ofJson? (format : Format) (value : Json) : Option HeightPolicy :=
  (asWord format value).bind HeightPolicy.ofString?

/-- Reads a kind of supplement by its word. -/
def SupplementKind.ofJson? (format : Format) (value : Json) : Option SupplementKind :=
  (asWord format value).bind SupplementKind.ofString?

/-- Reads the defaults for quotes. -/
def PricingDefaults.ofJson? (format : Format) (value : Json) : Option PricingDefaults := do
  let fields ← given format ["default_tier", "height_policy"] value
  let standard := PricingDefaults.standard
  return {
    tier := ← withDefault asText standard.tier fields "default_tier"
    heightPolicy :=
      ← withDefault (HeightPolicy.ofJson? format) standard.heightPolicy fields "height_policy" }

/-- Reads a listed tier; only the description may be left out. -/
def TierListing.ofJson? (format : Format) (value : Json) : Option TierListing := do
  let fields ← given format ["name", "description", "price_per_cubic_meter"] value
  return {
    name := ← required asText fields "name"
    description := ← withDefault asText "" fields "description"
    pricePerCubicMeter := ← required Decimal.ofJson? fields "price_per_cubic_meter" }

/-- Reads a listed supplement; only the label may be left out. -/
def SupplementListing.ofJson? (format : Format) (value : Json) : Option SupplementListing := do
  let fields ← given format ["id", "kind", "label", "unit_price"] value
  return {
    id := ← required asText fields "id"
    kind := ← required (SupplementKind.ofJson? format) fields "kind"
    label := ← withDefault asText "" fields "label"
    unitPrice := ← required Decimal.ofJson? fields "unit_price" }

/-- Reads a configuration. -/
def Config.ofJson? (format : Format) (value : Json) : Option Config := do
  let fields ← given format ["generation", "store", "pricing", "tiers", "supplements"] value
  let standard := Config.standard
  return {
    generation :=
      ← withDefault (GenerationAccess.ofJson? format) standard.generation fields "generation"
    store := ← withDefault (StoreAccess.ofJson? format) standard.store fields "store"
    pricing := ← withDefault (PricingDefaults.ofJson? format) standard.pricing fields "pricing"
    tiers := ← withDefault (asList (TierListing.ofJson? format)) standard.tiers fields "tiers"
    supplements :=
      ← withDefault (asList (SupplementListing.ofJson? format)) standard.supplements fields
        "supplements" }

/-- The document of the access to the generation service. -/
def GenerationAccess.toJson (access : GenerationAccess) : Json :=
  .obj [("base_url", .str access.baseUrl),
    ("request_timeout_secs", .int access.requestTimeoutSecs.toNat),
    ("connect_timeout_secs", .int access.connectTimeoutSecs.toNat),
    ("max_retries", .int access.maxRetries.toNat),
    ("initial_backoff_ms", .int access.initialBackoffMs.toNat),
    ("max_backoff_secs", .int access.maxBackoffSecs.toNat),
    ("cache_capacity", .int access.cacheCapacity.toNat)]

/-- The document of the access to the store. -/
def StoreAccess.toJson (access : StoreAccess) : Json :=
  .obj [("base_url", .str access.baseUrl),
    ("request_timeout_secs", .int access.requestTimeoutSecs.toNat),
    ("connect_timeout_secs", .int access.connectTimeoutSecs.toNat),
    ("max_retries", .int access.maxRetries.toNat)]

/-- The document of the defaults for quotes. -/
def PricingDefaults.toJson (defaults : PricingDefaults) : Json :=
  .obj [("default_tier", .str defaults.tier), ("height_policy", .str defaults.heightPolicy.text)]

/-- The document of a listed tier. -/
def TierListing.toJson (listing : TierListing) : Json :=
  .obj [("name", .str listing.name), ("description", .str listing.description),
    ("price_per_cubic_meter", listing.pricePerCubicMeter.toJson)]

/-- The document of a listed supplement. -/
def SupplementListing.toJson (listing : SupplementListing) : Json :=
  .obj [("id", .str listing.id), ("kind", .str listing.kind.text),
    ("label", .str listing.label), ("unit_price", listing.unitPrice.toJson)]

/-- The document of a configuration, with all its fields. -/
def Config.toJson (config : Config) : Json :=
  .obj [("generation", config.generation.toJson), ("store", config.store.toJson),
    ("pricing", config.pricing.toJson), ("tiers", .arr (config.tiers.map TierListing.toJson)),
    ("supplements", .arr (config.supplements.map SupplementListing.toJson))]

end Joinery
