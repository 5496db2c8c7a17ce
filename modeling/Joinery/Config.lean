import Joinery.Pricing.Supplement
import Joinery.Pricing.Tier
import Joinery.Pricing.Volume
import Joinery.Service.Endpoint
import Joinery.Service.Retry

/-!
# Configuration

How to reach the two services, what prices are asked and which of them are used
unless a request says otherwise. A configuration is valid when its services have
web addresses, no limit is zero, and its price lists make up catalogs in which
the usual tier is found.
-/

namespace Joinery

/-- How the generation service is reached. -/
structure GenerationAccess where
  baseUrl : String
  requestTimeoutSecs : UInt64
  connectTimeoutSecs : UInt64
  maxRetries : UInt32
  initialBackoffMs : UInt64
  maxBackoffSecs : UInt64
  /-- How many results a preview keeps. -/
  cacheCapacity : UInt64
deriving DecidableEq

/-- How the store is reached. -/
structure StoreAccess where
  baseUrl : String
  requestTimeoutSecs : UInt64
  connectTimeoutSecs : UInt64
  /-- Retries of a removal. -/
  maxRetries : UInt32
deriving DecidableEq

/-- What a quote uses when the request does not say. -/
structure PricingDefaults where
  tier : String
  heightPolicy : HeightPolicy
deriving DecidableEq

/-- A tier as the configuration lists it. -/
structure TierListing where
  name : String
  description : String
  pricePerCubicMeter : Decimal
deriving DecidableEq

/-- A supplement as the configuration lists it. -/
structure SupplementListing where
  id : String
  kind : SupplementKind
  label : String
  unitPrice : Decimal
deriving DecidableEq

/-- Everything that can be configured. -/
structure Config where
  generation : GenerationAccess
  store : StoreAccess
  pricing : PricingDefaults
  tiers : List TierListing
  supplements : List SupplementListing
deriving DecidableEq

/-- Where both services are looked for unless configured. -/
def localService : String := "http://localhost:8000"

/-- Generation is slow: two minutes for an attempt, three retries. -/
def GenerationAccess.standard : GenerationAccess where
  baseUrl := localService
  requestTimeoutSecs := 120
  connectTimeoutSecs := 10
  maxRetries := 3
  initialBackoffMs := 500
  maxBackoffSecs := 10
  cacheCapacity := 256

/-- The store answers fast. -/
def StoreAccess.standard : StoreAccess where
  baseUrl := localService
  requestTimeoutSecs := 15
  connectTimeoutSecs := 10
  maxRetries := 3

/-- The standard tier at the declared height. -/
def PricingDefaults.standard : PricingDefaults := ⟨"standard", .declaredHeight⟩

/-- A whole amount for the lists below. -/
def wholeAmount (units : UInt32) : Decimal := .ofUInt32 units

/-- The tiers on offer unless configured. -/
def TierListing.standard : List TierListing :=
  [⟨"standard", "Melamine 19 mm", wholeAmount 1500⟩,
    ⟨"oak", "Solid oak veneer", wholeAmount 2800⟩]

/-- The supplements on offer unless configured. -/
def SupplementListing.standard : List SupplementListing :=
  [⟨"lacquer", .material, "Matt lacquer finish", wholeAmount 120⟩,
    ⟨"plinth", .base, "Recessed plinth", wholeAmount 35⟩,
    ⟨"drawer", .drawer, "Soft-close drawer", wholeAmount 45⟩,
    ⟨"rail", .wardrobeRail, "Wardrobe rail", wholeAmount 30⟩]

/-- The configuration that applies where nothing is configured. -/
def Config.standard : Config where
  generation := .standard
  store := .standard
  pricing := .standard
  tiers := TierListing.standard
  supplements := SupplementListing.standard

/-- The deadline and retries of a generation. -/
def GenerationAccess.retryPolicy (access : GenerationAccess) : RetryPolicy where
  attemptTimeout := 1000 * access.requestTimeoutSecs.toNat
  maxRetries := access.maxRetries
  initialBackoff := access.initialBackoffMs.toNat
  maxBackoff := 1000 * access.maxBackoffSecs.toNat

/-- A record is stored with a single attempt: one that timed out may still have
been stored, and a second would double it. -/
def StoreAccess.createPolicy (access : StoreAccess) : RetryPolicy :=
  .singleAttempt (1000 * access.requestTimeoutSecs.toNat)

/-- A removal may be repeated. -/
def StoreAccess.deletePolicy (access : StoreAccess) : RetryPolicy :=
  { RetryPolicy.standard with
    attemptTimeout := 1000 * access.requestTimeoutSecs.toNat
    maxRetries := access.maxRetries }

/-- The catalogs of a configuration and its defaults for quotes. -/
structure PriceList where
  tiers : TierCatalog
  supplements : SupplementCatalog
  defaults : PricingDefaults

namespace Config

/-- Adds listed tiers to a catalog, up to the first that is refused. -/
def addTiers (catalog : TierCatalog) : List TierListing → Except PricingFault TierCatalog
  | [] => .ok catalog
  | listing :: rest =>
    match PriceTier.create listing.name listing.description listing.pricePerCubicMeter with
    | .error fault => .error fault
    | .ok tier =>
      match catalog.insert tier with
      | .error fault => .error fault
      | .ok grown => addTiers grown rest

/-- Adds listed supplements to a catalog, up to the first that is refused. -/
def addSupplements (catalog : SupplementCatalog) :
    List SupplementListing → Except PricingFault SupplementCatalog
  | [] => .ok catalog
  | listing :: rest =>
    match catalog.insert ⟨listing.id, listing.kind, listing.label, ⟨listing.unitPrice⟩⟩ with
    | .error fault => .error fault
    | .ok grown => addSupplements grown rest

/-- The catalogs of a configuration. There must be a tier. -/
def priceList (config : Config) : Except ServiceFault PriceList :=
  if config.tiers = [] then
    .error (.invalidConfig "at least one [[tiers]] entry is required")
  else
    match addTiers .empty config.tiers with
    | .error fault => .error (.pricing fault)
    | .ok tiers =>
      match addSupplements .empty config.supplements with
      | .error fault => .error (.pricing fault)
      | .ok supplements => .ok ⟨tiers, supplements, config.pricing⟩

/-- The URL to which generation requests go. -/
def generationUrl (config : Config) : Except ServiceFault Url :=
  endpoint config.generation.baseUrl "generate"

/-- The URL of the collection of stored configurations. -/
def storeUrl (config : Config) : Except ServiceFault Url :=
  endpoint config.store.baseUrl "configurations"

/-- Whether a configuration can be used, or the first reason why not: addresses,
deadlines, capacity, price lists, usual tier. -/
def validate (config : Config) : Except ServiceFault Unit :=
  match config.generationUrl with
  | .error fault => .error fault
  | .ok _ =>
    match config.storeUrl with
    | .error fault => .error fault
    | .ok _ =>
      if config.generation.requestTimeoutSecs = 0 ∨ config.store.requestTimeoutSecs = 0 then
        .error (.invalidConfig "request_timeout_secs must be greater than 0")
      else if config.generation.cacheCapacity = 0 then
        .error (.invalidConfig "cache_capacity must be greater than 0")
      else
        match config.priceList with
        | .error fault => .error fault
        | .ok prices =>
          match prices.tiers.find prices.defaults.tier with
          | .error fault => .error (.pricing fault)
          | .ok _ => .ok ()

/-- Whether two listings are the same; prices are compared as amounts. -/
def sameTier (a b : TierListing) : Bool :=
  a.name = b.name && a.description = b.description &&
    a.pricePerCubicMeter.sameAmount b.pricePerCubicMeter

/-- Whether two listings are the same; prices are compared as amounts. -/
def sameSupplement (a b : SupplementListing) : Bool :=
  a.id = b.id && a.kind = b.kind && a.label = b.label && a.unitPrice.sameAmount b.unitPrice

/-- Whether two lists have the same items, by a comparison of items. -/
def sameItems {α : Type} (same : α → α → Bool) : List α → List α → Bool
  | [], [] => true
  | a :: as, b :: bs => same a b && sameItems same as bs
  | _, _ => false

/-- Whether two configurations are the same; prices are compared as amounts. -/
def same (a b : Config) : Bool :=
  a.generation = b.generation && a.store = b.store && a.pricing = b.pricing &&
    sameItems sameTier a.tiers b.tiers && sameItems sameSupplement a.supplements b.supplements

end Config

end Joinery
