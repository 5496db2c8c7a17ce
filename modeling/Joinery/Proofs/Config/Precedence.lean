import Joinery.Config.File
import Joinery.Proofs.Json.Structures
import Joinery.Proofs.Toml.Tables
import Mathlib.Data.List.Forall2

/-!
# Which source a setting comes from

Settings come in layers: the environment sets a few of them, a file gives others, and the
rest have a standard value, each by itself. Main statement: what is checked and loaded is
the configuration made up of the layers, whatever its parts would be worth alone.
-/

namespace Joinery

open Json

/-- The value of a setting is what the environment sets it to, else what the file gives for
it, else its standard value. -/
inductive Prevails {α : Type} (sets : α → Prop) (reads : Json → α → Prop) (given : Option Json)
    (standard : α) : α → Prop
  | environment {value : α} (set : sets value) : Prevails sets reads given standard value
  | file {json : Json} {value : α} (unset : ∀ other, ¬sets other) (here : given = some json)
      (read : reads json value) : Prevails sets reads given standard value
  | standard (unset : ∀ other, ¬sets other) (missing : given = none) :
      Prevails sets reads given standard standard

/-- The environment has no say in a setting. -/
def Untouched {α : Type} (_ : α) : Prop := False

theorem untouched_iff {α : Type} (value : α) :
    Untouched value ↔ (none : Option α) = some value := by
  simp [Untouched]

section Layers

variable {α : Type} {sets : α → Prop} {reads : Json → α → Prop} {decode : Json → Option α}
  {override : Option α} {base standard value : α} {fields : Given} {name : String}

theorem prevails_of_set {set : α} (sets_iff : ∀ value, sets value ↔ set = value)
    {given : Option Json} : Prevails sets reads given standard value ↔ value = set := by
  have overridden : sets set := (sets_iff set).mpr rfl
  constructor
  · rintro (other | ⟨unset, -, -⟩ | ⟨unset, -⟩)
    · exact ((sets_iff value).mp other).symm
    · exact absurd overridden (unset set)
    · exact absurd overridden (unset set)
  · rintro rfl
    exact .environment overridden

theorem prevails_of_unset (unset : ∀ value, ¬sets value)
    (reads_iff : ∀ json value, reads json value ↔ decode json = some value) :
    Prevails sets reads (fields name) standard value ↔
      withDefault decode standard fields name = some value := by
  rw [withDefault]
  cases fields name with
  | none =>
      constructor
      · rintro (set | ⟨-, here, -⟩ | -)
        · exact absurd set (unset value)
        · exact nomatch here
        · rfl
      · intro same
        obtain rfl := Option.some.inj same
        exact .standard unset rfl
  | some json =>
      rw [← reads_iff]
      constructor
      · rintro (set | ⟨-, here, read⟩ | ⟨-, missing⟩)
        · exact absurd set (unset value)
        · obtain rfl := Option.some.inj here
          exact read
        · exact nomatch missing
      · exact fun read => .file unset rfl read

/-- The layers are tried in turn. -/
theorem prevails_iff (sets_iff : ∀ value, sets value ↔ override = some value)
    (reads_iff : ∀ json value, reads json value ↔ decode json = some value)
    (decoded : withDefault decode standard fields name = some base) :
    Prevails sets reads (fields name) standard value ↔ value = override.getD base := by
  cases override with
  | some set =>
      rw [Option.getD_some]
      exact prevails_of_set fun value => by rw [sets_iff, Option.some.injEq]
  | none =>
      have unset : ∀ value, ¬sets value := fun value set => nomatch (sets_iff value).mp set
      rw [prevails_of_unset unset reads_iff, decoded, Option.some.injEq, Option.getD_none, eq_comm]

end Layers

/-- A text that writes a number: decimal digits, after a plus sign or not. -/
def IsNumeral (text : String) (n : Nat) : Prop :=
  ∃ digits, (text.toList = digits ∨ text.toList = '+' :: digits) ∧ digits ≠ [] ∧
    (∀ c ∈ digits, c.isDigit = true) ∧ Nat.ofDigitChars 10 digits 0 = n

/-- A text without the plus sign that it may start with. -/
def withoutPlus (cs : List Char) : List Char := if cs.head? = some '+' then cs.tail else cs

theorem withoutPlus_eq_iff {cs digits : List Char} (all : ∀ c ∈ digits, c.isDigit = true) :
    withoutPlus cs = digits ↔ cs = digits ∨ cs = '+' :: digits := by
  cases cs with
  | nil => simp [withoutPlus]
  | cons c rest =>
      by_cases plus : c = '+'
      · subst plus
        have bare : '+' :: rest ≠ digits := by
          rintro rfl
          exact absurd (all '+' List.mem_cons_self) (by decide)
        simp [withoutPlus, bare]
      · simp [withoutPlus, plus]

theorem readCount?_eq_some_iff {limit n : Nat} {text : String} :
    readCount? limit text = some n ↔ IsNumeral text n ∧ n < limit := by
  have accepted : readCount? limit text = some n ↔
      withoutPlus text.toList ≠ [] ∧ (withoutPlus text.toList).all Char.isDigit = true ∧
        Nat.ofDigitChars 10 (withoutPlus text.toList) 0 = n ∧ n < limit := by
    change (if _ then _ else _) = _ ↔ _
    simp only [Option.ite_none_right_eq_some, Option.some.injEq]
    constructor
    · rintro ⟨⟨some_digit, all, fits⟩, rfl⟩
      exact ⟨some_digit, all, rfl, fits⟩
    · rintro ⟨some_digit, all, rfl, fits⟩
      exact ⟨⟨some_digit, all, fits⟩, rfl⟩
  rw [accepted, List.all_eq_true, IsNumeral]
  constructor
  · rintro ⟨some_digit, all, value, fits⟩
    exact ⟨⟨_, (withoutPlus_eq_iff all).mp rfl, some_digit, all, value⟩, fits⟩
  · rintro ⟨⟨digits, shape, some_digit, all, value⟩, fits⟩
    rw [(withoutPlus_eq_iff all).mpr shape]
    exact ⟨some_digit, all, value, fits⟩

/-- The environment sets a variable to a text that writes a number. -/
def Environment.SetsCount (environment : Environment) (name : String) (n : Nat) : Prop :=
  ∃ text, environment name = some text ∧ IsNumeral text n

/-- Texts for numbers that are too large are passed over. -/
theorem Environment.setsCount_iff {β : Type} {toNat : β → Nat} {ofNat : Nat → β} {limit : Nat}
    (small : ∀ value, toNat value < limit) (ofNat_toNat : ∀ value, ofNat (toNat value) = value)
    (toNat_ofNat : ∀ n, n < limit → toNat (ofNat n) = n) (environment : Environment)
    (name : String) (value : β) :
    environment.SetsCount name (toNat value) ↔
      ((environment name).bind (readCount? limit)).map ofNat = some value := by
  simp only [Option.map_eq_some_iff, Option.bind_eq_some_iff, readCount?_eq_some_iff, SetsCount]
  constructor
  · rintro ⟨text, set, numeral⟩
    exact ⟨_, ⟨text, set, numeral, small value⟩, ofNat_toNat value⟩
  · rintro ⟨n, ⟨text, set, numeral, fits⟩, rfl⟩
    exact ⟨text, set, (toNat_ofNat n fits).symm ▸ numeral⟩

/-- A text in a file. -/
def IsText (json : Json) (text : String) : Prop := json = .str text

/-- A whole number in a file. -/
def IsNumber (json : Json) (n : Nat) : Prop := json = .int n

/-- A list in a file, item by item. -/
def IsListOf {α : Type} (reads : Json → α → Prop) (json : Json) (values : List α) : Prop :=
  ∃ items, json = .arr items ∧ List.Forall₂ reads items values

theorem isText_iff (json : Json) (text : String) : IsText json text ↔ asText json = some text := by
  cases json <;> simp [IsText, asText]

theorem asNatBelow_eq_some_iff {limit n : Nat} {json : Json} :
    asNatBelow limit json = some n ↔ IsNumber json n ∧ n < limit := by
  cases json with
  | int m =>
      rw [asNatBelow, IsNumber, Json.int.injEq]
      constructor
      · intro found
        split at found
        · obtain rfl := Option.some.inj found
          omega
        · cases found
      · rintro ⟨rfl, fits⟩
        rw [if_pos (by omega), Int.toNat_natCast]
  | _ => simp [asNatBelow, IsNumber]

theorem isUInt64_iff (json : Json) (n : UInt64) :
    IsNumber json n.toNat ↔ asUInt64 json = some n := by
  simp only [asUInt64, Option.map_eq_some_iff, asNatBelow_eq_some_iff]
  constructor
  · exact fun number => ⟨n.toNat, ⟨number, n.toNat_lt⟩, UInt64.ofNat_toNat⟩
  · rintro ⟨m, ⟨number, fits⟩, rfl⟩
    rwa [UInt64.toNat_ofNat_of_lt' fits]

theorem isUInt32_iff (json : Json) (n : UInt32) :
    IsNumber json n.toNat ↔ asUInt32 json = some n := by
  simp only [asUInt32, Option.map_eq_some_iff, asNatBelow_eq_some_iff]
  constructor
  · exact fun number => ⟨n.toNat, ⟨number, n.toNat_lt⟩, UInt32.ofNat_toNat⟩
  · rintro ⟨m, ⟨number, fits⟩, rfl⟩
    rwa [UInt32.toNat_ofNat_of_lt' fits]

theorem isListOf_iff {α : Type} {reads : Json → α → Prop} {decode : Json → Option α}
    (reads_iff : ∀ json value, reads json value ↔ decode json = some value) (json : Json)
    (values : List α) : IsListOf reads json values ↔ asList decode json = some values := by
  cases json with
  | arr items =>
      simp only [IsListOf, Json.arr.injEq, exists_eq_left', asList]
      induction items generalizing values with
      | nil => simp [eq_comm]
      | cons item rest ih =>
          simp only [List.forall₂_cons_left_iff, reads_iff, ih, List.mapM_cons,
            Option.bind_eq_bind, Option.bind_eq_some_iff, Option.pure_def, Option.some.injEq]
          constructor
          · rintro ⟨value, others, first, later, rfl⟩
            exact ⟨value, first, others, later, rfl⟩
          · rintro ⟨value, first, others, later, rfl⟩
            exact ⟨value, others, first, later, rfl⟩
  | _ => simp [IsListOf, asList]

theorem required_eq_some_iff {α : Type} {decode : Json → Option α} {fields : Given}
    {name : String} {value : α} :
    required decode fields name = some value ↔
      ∃ json, fields name = some json ∧ decode json = some value := by
  rw [required, Option.bind_eq_some_iff]

/-- A tier in a file. Only its description may be left out. -/
def TierListing.IsRead (item : Json) (listing : TierListing) : Prop :=
  ∃ fields, given .toml ["name", "description", "price_per_cubic_meter"] item = some fields ∧
    fields "name" = some (.str listing.name) ∧
    Prevails Untouched IsText (fields "description") "" listing.description ∧
    ∃ price, fields "price_per_cubic_meter" = some price ∧
      Decimal.ofJson? price = some listing.pricePerCubicMeter

theorem untouched_unset {α : Type} (value : α) : ¬Untouched value := fun set => set

theorem TierListing.isRead_iff (item : Json) (listing : TierListing) :
    IsRead item listing ↔ ofJson? .toml item = some listing := by
  rw [ofJson?, IsRead]
  cases given .toml ["name", "description", "price_per_cubic_meter"] item with
  | none => simp
  | some fields =>
      simp only [Option.some.injEq, exists_eq_left', prevails_of_unset untouched_unset isText_iff,
        Option.bind_eq_bind, Option.bind_some, Option.bind_eq_some_iff, Option.pure_def,
        required_eq_some_iff]
      obtain ⟨name, description, price⟩ := listing
      constructor
      · rintro ⟨named, described, json, here, read⟩
        exact ⟨name, ⟨_, named, rfl⟩, description, described, price, ⟨json, here, read⟩, rfl⟩
      · rintro ⟨name', ⟨json, named, text⟩, description', described, price', priced, same⟩
        obtain ⟨rfl, rfl, rfl⟩ := TierListing.mk.inj same
        obtain rfl := (isText_iff _ _).mpr text
        exact ⟨named, described, priced⟩

/-- A supplement in a file. Only its label may be left out. -/
def SupplementListing.IsRead (item : Json) (listing : SupplementListing) : Prop :=
  ∃ fields, given .toml ["id", "kind", "label", "unit_price"] item = some fields ∧
    fields "id" = some (.str listing.id) ∧
    (∃ kind, fields "kind" = some kind ∧ SupplementKind.ofJson? .toml kind = some listing.kind) ∧
    Prevails Untouched IsText (fields "label") "" listing.label ∧
    ∃ price, fields "unit_price" = some price ∧ Decimal.ofJson? price = some listing.unitPrice

theorem SupplementListing.isRead_iff (item : Json) (listing : SupplementListing) :
    IsRead item listing ↔ ofJson? .toml item = some listing := by
  rw [ofJson?, IsRead]
  cases given .toml ["id", "kind", "label", "unit_price"] item with
  | none => simp
  | some fields =>
      simp only [Option.some.injEq, exists_eq_left', prevails_of_unset untouched_unset isText_iff,
        Option.bind_eq_bind, Option.bind_some, Option.bind_eq_some_iff, Option.pure_def,
        required_eq_some_iff]
      obtain ⟨id, kind, label, price⟩ := listing
      constructor
      · rintro ⟨identified, kinds, labelled, priced⟩
        exact ⟨id, ⟨_, identified, rfl⟩, kind, kinds, label, labelled, price, priced, rfl⟩
      · rintro ⟨id', ⟨json, identified, text⟩, kind', kinds, label', labelled, price', priced, same⟩
        obtain ⟨rfl, rfl, rfl, rfl⟩ := SupplementListing.mk.inj same
        obtain rfl := (isText_iff _ _).mpr text
        exact ⟨identified, kinds, labelled, priced⟩

/-- The environment sets a variable to a text. -/
def Environment.SetsText (environment : Environment) (name text : String) : Prop :=
  environment name = some text

theorem Environment.setsText_iff (environment : Environment) (name text : String) :
    environment.SetsText name text ↔ environment name = some text := .rfl

theorem Environment.setsUInt64_iff (environment : Environment) (name : String) (n : UInt64) :
    environment.SetsCount name n.toNat ↔
      ((environment name).bind (readCount? UInt64.size)).map UInt64.ofNat = some n :=
  setsCount_iff UInt64.toNat_lt (fun _ => UInt64.ofNat_toNat) (fun _ => UInt64.toNat_ofNat_of_lt')
    environment name n

theorem Environment.setsUInt32_iff (environment : Environment) (name : String) (n : UInt32) :
    environment.SetsCount name n.toNat ↔
      ((environment name).bind (readCount? UInt32.size)).map UInt32.ofNat = some n :=
  setsCount_iff UInt32.toNat_lt (fun _ => UInt32.ofNat_toNat) (fun _ => UInt32.toNat_ofNat_of_lt')
    environment name n

/-- The access to the generation service that the environment and the fields of a section
make up. -/
@[mk_iff]
structure GenerationAccess.IsMerged (environment : Environment) (fields : Given)
    (access : GenerationAccess) : Prop where
  baseUrl : Prevails (environment.SetsText "ATELIER_GENERATION_URL") IsText
    (fields "base_url") standard.baseUrl access.baseUrl
  requestTimeoutSecs :
    Prevails (fun n => environment.SetsCount "ATELIER_REQUEST_TIMEOUT_SECS" n.toNat)
      (fun json n => IsNumber json n.toNat) (fields "request_timeout_secs")
      standard.requestTimeoutSecs access.requestTimeoutSecs
  connectTimeoutSecs : Prevails Untouched (fun json n => IsNumber json n.toNat)
    (fields "connect_timeout_secs") standard.connectTimeoutSecs access.connectTimeoutSecs
  maxRetries : Prevails (fun n => environment.SetsCount "ATELIER_MAX_RETRIES" n.toNat)
    (fun json n => IsNumber json n.toNat) (fields "max_retries") standard.maxRetries
    access.maxRetries
  initialBackoffMs : Prevails Untouched (fun json n => IsNumber json n.toNat)
    (fields "initial_backoff_ms") standard.initialBackoffMs access.initialBackoffMs
  maxBackoffSecs : Prevails Untouched (fun json n => IsNumber json n.toNat)
    (fields "max_backoff_secs") standard.maxBackoffSecs access.maxBackoffSecs
  cacheCapacity : Prevails Untouched (fun json n => IsNumber json n.toNat)
    (fields "cache_capacity") standard.cacheCapacity access.cacheCapacity

/-- The access to the store that the environment and the fields of a section make up. -/
@[mk_iff]
structure StoreAccess.IsMerged (environment : Environment) (fields : Given)
    (access : StoreAccess) : Prop where
  baseUrl : Prevails (environment.SetsText "ATELIER_STORE_URL") IsText
    (fields "base_url") standard.baseUrl access.baseUrl
  requestTimeoutSecs : Prevails Untouched (fun json n => IsNumber json n.toNat)
    (fields "request_timeout_secs") standard.requestTimeoutSecs access.requestTimeoutSecs
  connectTimeoutSecs : Prevails Untouched (fun json n => IsNumber json n.toNat)
    (fields "connect_timeout_secs") standard.connectTimeoutSecs access.connectTimeoutSecs
  maxRetries : Prevails Untouched (fun json n => IsNumber json n.toNat)
    (fields "max_retries") standard.maxRetries access.maxRetries

/-- The defaults of quotes that the environment and the fields of a section make up. -/
@[mk_iff]
structure PricingDefaults.IsMerged (environment : Environment) (fields : Given)
    (defaults : PricingDefaults) : Prop where
  tier : Prevails (environment.SetsText "ATELIER_DEFAULT_TIER") IsText
    (fields "default_tier") standard.tier defaults.tier
  heightPolicy : Prevails Untouched
    (fun json policy => HeightPolicy.ofJson? .toml json = some policy)
    (fields "height_policy") standard.heightPolicy defaults.heightPolicy

/-- The fields of a section are read one by one. -/
structure GenerationAccess.IsDecoded (fields : Given) (access : GenerationAccess) : Prop where
  baseUrl : withDefault asText standard.baseUrl fields "base_url" = some access.baseUrl
  requestTimeoutSecs : withDefault asUInt64 standard.requestTimeoutSecs fields
    "request_timeout_secs" = some access.requestTimeoutSecs
  connectTimeoutSecs : withDefault asUInt64 standard.connectTimeoutSecs fields
    "connect_timeout_secs" = some access.connectTimeoutSecs
  maxRetries : withDefault asUInt32 standard.maxRetries fields "max_retries" =
    some access.maxRetries
  initialBackoffMs : withDefault asUInt64 standard.initialBackoffMs fields
    "initial_backoff_ms" = some access.initialBackoffMs
  maxBackoffSecs : withDefault asUInt64 standard.maxBackoffSecs fields "max_backoff_secs" =
    some access.maxBackoffSecs
  cacheCapacity : withDefault asUInt64 standard.cacheCapacity fields "cache_capacity" =
    some access.cacheCapacity

/-- The fields of a section are read one by one. -/
structure StoreAccess.IsDecoded (fields : Given) (access : StoreAccess) : Prop where
  baseUrl : withDefault asText standard.baseUrl fields "base_url" = some access.baseUrl
  requestTimeoutSecs : withDefault asUInt64 standard.requestTimeoutSecs fields
    "request_timeout_secs" = some access.requestTimeoutSecs
  connectTimeoutSecs : withDefault asUInt64 standard.connectTimeoutSecs fields
    "connect_timeout_secs" = some access.connectTimeoutSecs
  maxRetries : withDefault asUInt32 standard.maxRetries fields "max_retries" =
    some access.maxRetries

/-- The fields of a section are read one by one. -/
structure PricingDefaults.IsDecoded (fields : Given) (defaults : PricingDefaults) : Prop where
  tier : withDefault asText standard.tier fields "default_tier" = some defaults.tier
  heightPolicy : withDefault (HeightPolicy.ofJson? .toml) standard.heightPolicy fields
    "height_policy" = some defaults.heightPolicy

/-- The fields of the section for the generation service. -/
def GenerationAccess.fieldNames : List String :=
  ["base_url", "request_timeout_secs", "connect_timeout_secs", "max_retries",
    "initial_backoff_ms", "max_backoff_secs", "cache_capacity"]

/-- The fields of the section for the store. -/
def StoreAccess.fieldNames : List String :=
  ["base_url", "request_timeout_secs", "connect_timeout_secs", "max_retries"]

/-- The fields of the section for quotes. -/
def PricingDefaults.fieldNames : List String := ["default_tier", "height_policy"]

theorem GenerationAccess.exists_isDecoded (value : Json) (access : GenerationAccess)
    (read : ofJson? .toml value = some access) :
    ∃ fields, given .toml fieldNames value = some fields ∧ access.IsDecoded fields := by
  simp only [ofJson?, Option.bind_eq_bind, Option.bind_eq_some_iff, Option.pure_def,
    Option.some.injEq] at read
  obtain ⟨fields, found, _, baseUrl, _, request, _, connect, _, retries, _, initial, _, most, _,
    capacity, rfl⟩ := read
  exact ⟨fields, found, baseUrl, request, connect, retries, initial, most, capacity⟩

theorem StoreAccess.exists_isDecoded (value : Json) (access : StoreAccess)
    (read : ofJson? .toml value = some access) :
    ∃ fields, given .toml fieldNames value = some fields ∧ access.IsDecoded fields := by
  simp only [ofJson?, Option.bind_eq_bind, Option.bind_eq_some_iff, Option.pure_def,
    Option.some.injEq] at read
  obtain ⟨fields, found, _, baseUrl, _, request, _, connect, _, retries, rfl⟩ := read
  exact ⟨fields, found, baseUrl, request, connect, retries⟩

theorem PricingDefaults.exists_isDecoded (value : Json) (defaults : PricingDefaults)
    (read : ofJson? .toml value = some defaults) :
    ∃ fields, given .toml fieldNames value = some fields ∧ defaults.IsDecoded fields := by
  simp only [ofJson?, Option.bind_eq_bind, Option.bind_eq_some_iff, Option.pure_def,
    Option.some.injEq] at read
  obtain ⟨fields, found, _, tier, _, policy, rfl⟩ := read
  exact ⟨fields, found, tier, policy⟩

section Merged

variable (config : Config) {fields : Given} (environment : Environment)

theorem GenerationAccess.IsDecoded.isMerged_iff (decoded : config.generation.IsDecoded fields)
    (access : GenerationAccess) :
    access.IsMerged environment fields ↔ access = (config.override environment).generation := by
  rw [GenerationAccess.isMerged_iff,
    prevails_iff (environment.setsText_iff _) isText_iff decoded.baseUrl,
    prevails_iff (environment.setsUInt64_iff _) isUInt64_iff decoded.requestTimeoutSecs,
    prevails_iff untouched_iff isUInt64_iff decoded.connectTimeoutSecs,
    prevails_iff (environment.setsUInt32_iff _) isUInt32_iff decoded.maxRetries,
    prevails_iff untouched_iff isUInt64_iff decoded.initialBackoffMs,
    prevails_iff untouched_iff isUInt64_iff decoded.maxBackoffSecs,
    prevails_iff untouched_iff isUInt64_iff decoded.cacheCapacity]
  obtain ⟨⟩ := access
  exact Iff.of_eq (GenerationAccess.mk.injEq ..).symm

theorem StoreAccess.IsDecoded.isMerged_iff (decoded : config.store.IsDecoded fields)
    (access : StoreAccess) :
    access.IsMerged environment fields ↔ access = (config.override environment).store := by
  rw [StoreAccess.isMerged_iff,
    prevails_iff (environment.setsText_iff _) isText_iff decoded.baseUrl,
    prevails_iff untouched_iff isUInt64_iff decoded.requestTimeoutSecs,
    prevails_iff untouched_iff isUInt64_iff decoded.connectTimeoutSecs,
    prevails_iff untouched_iff isUInt32_iff decoded.maxRetries]
  obtain ⟨⟩ := access
  exact Iff.of_eq (StoreAccess.mk.injEq ..).symm

theorem PricingDefaults.IsDecoded.isMerged_iff (decoded : config.pricing.IsDecoded fields)
    (defaults : PricingDefaults) :
    defaults.IsMerged environment fields ↔ defaults = (config.override environment).pricing := by
  rw [PricingDefaults.isMerged_iff,
    prevails_iff (environment.setsText_iff _) isText_iff decoded.tier,
    prevails_iff untouched_iff (fun _ _ => .rfl) decoded.heightPolicy]
  obtain ⟨⟩ := defaults
  exact Iff.of_eq (PricingDefaults.mk.injEq ..).symm

end Merged

namespace Config

/-- What a document gives under its headings. -/
def givenSections (document : Json) : Given := fun heading =>
  (given .toml ["generation", "store", "pricing", "tiers", "supplements"] document).bind (· heading)

/-- What a document gives for the settings of a section. -/
def givenSettings (document : Json) (heading : String) (names : List String) : Given :=
  fun name => (givenSections document heading).bind fun value =>
    (given .toml names value).bind (· name)

/-- The configuration that the environment and a document make up, setting by setting. -/
@[mk_iff]
structure IsMerged (environment : Environment) (document : Json) (config : Config) : Prop where
  generation : config.generation.IsMerged environment
    (givenSettings document "generation" GenerationAccess.fieldNames)
  store : config.store.IsMerged environment
    (givenSettings document "store" StoreAccess.fieldNames)
  pricing : config.pricing.IsMerged environment
    (givenSettings document "pricing" PricingDefaults.fieldNames)
  tiers : Prevails Untouched (IsListOf TierListing.IsRead) (givenSections document "tiers")
    TierListing.standard config.tiers
  supplements : Prevails Untouched (IsListOf SupplementListing.IsRead)
    (givenSections document "supplements") SupplementListing.standard config.supplements

/-- A section that is left out is one without fields. -/
theorem decoded_givenSettings {α : Type} {decode : Json → Option α} {standard value : α}
    {decoded : Given → α → Prop} {names : List String} {document : Json} {heading : String}
    (each : ∀ json x, decode json = some x →
      ∃ fields, given .toml names json = some fields ∧ decoded fields x)
    (none : decoded (fun _ => none) standard)
    (read : withDefault decode standard (givenSections document) heading = some value) :
    decoded (givenSettings document heading names) value := by
  unfold givenSettings
  rw [withDefault] at read
  cases found : givenSections document heading with
  | none =>
      rw [found] at read
      obtain rfl := Option.some.inj read
      exact none
  | some json =>
      rw [found] at read
      obtain ⟨fields, shape, here⟩ := each json value read
      simpa [shape] using here

theorem isMerged_iff_override {config : Config} {document : Json}
    (read : ofJson? .toml document = some config) (environment : Environment) (merged : Config) :
    merged.IsMerged environment document ↔ merged = config.override environment := by
  simp only [ofJson?, Option.bind_eq_bind, Option.bind_eq_some_iff, Option.pure_def,
    Option.some.injEq] at read
  obtain ⟨fields, shape, generation, generated, store, stored, pricing, priced, tiers, listed,
    supplements, supplied, rfl⟩ := read
  obtain rfl : fields = givenSections document := by
    funext heading
    rw [givenSections, shape, Option.bind_some]
  have generation_decoded := decoded_givenSettings GenerationAccess.exists_isDecoded
    ⟨rfl, rfl, rfl, rfl, rfl, rfl, rfl⟩ generated
  have store_decoded :=
    decoded_givenSettings StoreAccess.exists_isDecoded ⟨rfl, rfl, rfl, rfl⟩ stored
  have pricing_decoded :=
    decoded_givenSettings PricingDefaults.exists_isDecoded ⟨rfl, rfl⟩ priced
  have tiers_decoded : withDefault (asList (TierListing.ofJson? .toml)) TierListing.standard
    (givenSections document) "tiers" = some tiers := listed
  have supplements_decoded : withDefault (asList (SupplementListing.ofJson? .toml))
    SupplementListing.standard (givenSections document) "supplements" = some supplements := supplied
  generalize same : Config.mk generation store pricing tiers supplements = config
  obtain ⟨rfl, rfl, rfl, rfl, rfl⟩ : generation = config.generation ∧ store = config.store ∧
      pricing = config.pricing ∧ tiers = config.tiers ∧ supplements = config.supplements := by
    subst same
    exact ⟨rfl, rfl, rfl, rfl, rfl⟩
  rw [isMerged_iff,
    GenerationAccess.IsDecoded.isMerged_iff config environment generation_decoded,
    StoreAccess.IsDecoded.isMerged_iff config environment store_decoded,
    PricingDefaults.IsDecoded.isMerged_iff config environment pricing_decoded,
    prevails_iff untouched_iff (isListOf_iff TierListing.isRead_iff) tiers_decoded,
    prevails_iff untouched_iff (isListOf_iff SupplementListing.isRead_iff) supplements_decoded]
  obtain ⟨⟩ := merged
  exact Iff.of_eq (Config.mk.injEq ..).symm

end Config

/-- A file that is missing holds nothing; any other holds a document, which has to describe a
configuration. -/
inductive ConfigFile.Holds : ConfigFile → Json → Prop
  | nothing : Holds .missing (.obj [])
  | document {contents : String} {document : Json} {config : Config}
      (parsed : Toml.parse? contents = some document)
      (decodes : Config.ofJson? .toml document = some config) : Holds (.text contents) document

namespace Config

/-- What a file holds is read before the environment has its say. -/
theorem load_eq_finish {file : ConfigFile} {document : Json} (held : file.Holds document)
    (environment : Environment) :
    ∃ config, ofJson? .toml document = some config ∧
      load file environment = config.finish environment := by
  cases held with
  | nothing => exact ⟨standard, rfl, rfl⟩
  | @document contents document config parsed decodes =>
      refine ⟨config, decodes, ?_⟩
      rw [load, ofText?, parsed, Option.bind_some, decodes]

/-- A file that is missing or describes a configuration and an environment make up a single
configuration: the environment sets five of its settings, of which two only to texts that
write numbers of 64 and 32 bits, the file gives others, and the rest have their standard
values. Loading checks this configuration alone: it ends in it if it is valid, and otherwise
with what is wrong with it. -/
theorem load_eq_merged {file : ConfigFile} {document : Json} (held : file.Holds document)
    (environment : Environment) :
    ∃ merged : Config, (∀ config, IsMerged environment document config ↔ config = merged) ∧
      (∀ config, load file environment = .ok config ↔ config = merged ∧ merged.validate = .ok ()) ∧
      ∀ fault, load file environment = .error fault ↔ merged.validate = .error fault := by
  obtain ⟨config, read, loaded⟩ := load_eq_finish held environment
  refine ⟨config.override environment, isMerged_iff_override read environment, ?_, ?_⟩
  · intro other
    rw [loaded, finish]
    cases (config.override environment).validate with
    | error fault => simp
    | ok _ => simp [eq_comm]
  · intro fault
    rw [loaded, finish]
    cases (config.override environment).validate <;> simp

/-- A document that asks for a tier that is not on offer. -/
def walnutDocument : List (String × Json) :=
  [("pricing", .obj [("default_tier", .str "walnut")])]

/-- A file that asks for a tier that is not on offer. -/
def walnutFile : ConfigFile := .text "[pricing]\ndefault_tier = \"walnut\"\n"

/-- The environment asks for a usual tier. -/
def asksFor (tier : String) : Environment := fun name =>
  if name = "ATELIER_DEFAULT_TIER" then some tier else none

theorem holds_walnutFile : walnutFile.Holds (.obj walnutDocument) := by
  have plain : Toml.IsPlainDocument walnutDocument := by
    refine ⟨⟨by decide, by decide⟩, ?_, ?_⟩
    · intro name inner mem
      obtain ⟨-, same⟩ := Prod.mk.inj (List.mem_singleton.mp mem)
      obtain rfl := Json.obj.inj same
      exact ⟨by decide, by decide⟩
    · intro name items mem
      exact nomatch (Prod.mk.inj (List.mem_singleton.mp mem)).2
  have written : Toml.write? (.obj walnutDocument) =
      some "[pricing]\ndefault_tier = \"walnut\"\n" := by rfl
  exact .document (Toml.parse?_write? plain written) rfl

/-- The file is refused by itself, but not where the environment asks for oak; and where it
asks for walnut, even the standard configuration is refused. -/
theorem load_eq_merged_walnut :
    load walnutFile (fun _ => none) = .error (.pricing (.unknownTier "walnut")) ∧
      (∃ config, load walnutFile (asksFor "oak") = .ok config ∧ config.pricing.tier = "oak") ∧
        load .missing (asksFor "walnut") = .error (.pricing (.unknownTier "walnut")) := by
  have read : ofJson? .toml (.obj walnutDocument) =
      some { standard with pricing := ⟨"walnut", .declaredHeight⟩ } := by rfl
  refine ⟨?_, ?_, ?_⟩
  · obtain ⟨merged, only, -, refused⟩ := load_eq_merged holds_walnutFile fun _ => none
    obtain rfl := (isMerged_iff_override read _ merged).mp ((only merged).mpr rfl)
    exact (refused _).mpr (by rfl)
  · obtain ⟨merged, only, accepted, -⟩ := load_eq_merged holds_walnutFile (asksFor "oak")
    obtain rfl := (isMerged_iff_override read _ merged).mp ((only merged).mpr rfl)
    exact ⟨_, (accepted _).mpr ⟨rfl, by rfl⟩, by rfl⟩
  · obtain ⟨merged, only, -, refused⟩ := load_eq_merged .nothing (asksFor "walnut")
    have nothing : ofJson? .toml (.obj []) = some standard := by rfl
    obtain rfl := (isMerged_iff_override nothing _ merged).mp ((only merged).mpr rfl)
    exact (refused _).mpr (by rfl)

end Config

end Joinery
