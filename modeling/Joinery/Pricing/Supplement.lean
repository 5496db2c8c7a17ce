import Joinery.Index
import Joinery.Money
import Joinery.Pricing.Fault

/-!
# Supplements

A supplement is an extra with a price per piece. A selection lists supplements
with quantities; it is drawn from a catalog, which refuses negative prices and
repeated ids.
-/

namespace Joinery

/-- What a supplement adds to a piece of furniture. -/
inductive SupplementKind where
  | material
  | base
  | drawer
  | wardrobeRail
deriving DecidableEq

namespace SupplementKind

/-- The word for a kind. -/
def text : SupplementKind → String
  | material => "material"
  | base => "base"
  | drawer => "drawer"
  | wardrobeRail => "wardrobe_rail"

/-- All kinds. -/
def all : List SupplementKind := [material, base, drawer, wardrobeRail]

/-- The kind that a word names. -/
def ofString? (word : String) : Option SupplementKind := all.find? (·.text = word)

theorem ofString?_text (kind : SupplementKind) : ofString? kind.text = some kind := by
  cases kind <;> decide

end SupplementKind

/-- An entry of a catalog. -/
structure Supplement where
  id : String
  kind : SupplementKind
  label : String
  unitPrice : Money
deriving DecidableEq

/-- A supplement chosen in some quantity. -/
structure SupplementLine where
  id : String
  kind : SupplementKind
  unitPrice : Money
  quantity : UInt32
deriving DecidableEq

/-- The price of the quantity chosen. -/
def SupplementLine.total (line : SupplementLine) : Except PricingFault Money :=
  match line.unitPrice.times? line.quantity with
  | some total => .ok total
  | none => .error (.overflow s!"supplement '{line.id}' × {line.quantity}")

/-- Supplements chosen, in order. -/
structure Selection where
  lines : List SupplementLine
deriving DecidableEq

namespace Selection

/-- Adds the totals of lines to a sum, from the first line on. -/
def addTotals (sum : Money) : List SupplementLine → Except PricingFault Money
  | [] => .ok sum
  | line :: rest =>
    match line.total with
    | .error fault => .error fault
    | .ok total =>
      match sum.add? total with
      | none => .error (.overflow "supplements total")
      | some sum => addTotals sum rest

/-- The price of everything chosen. -/
def total (selection : Selection) : Except PricingFault Money :=
  addTotals .zero selection.lines

end Selection

/-- Supplements on offer, under their ids. -/
structure SupplementCatalog where
  entries : Index Supplement

namespace SupplementCatalog

/-- The catalog without supplements. -/
def empty : SupplementCatalog := ⟨.empty⟩

/-- Adds a supplement. A negative price is refused before a repeated id. -/
def insert (catalog : SupplementCatalog) (supplement : Supplement) :
    Except PricingFault SupplementCatalog :=
  if supplement.unitPrice.amount.isNegative then
    .error (.negativeSupplementPrice supplement.id supplement.unitPrice.amount.text)
  else
    match catalog.entries.add? supplement.id supplement with
    | some entries => .ok ⟨entries⟩
    | none => .error (.duplicateSupplement supplement.id)

/-- The supplement of an id. -/
def find? (catalog : SupplementCatalog) (id : String) : Option Supplement :=
  catalog.entries.get? id

/-- The supplements in the order of their ids. -/
def toList (catalog : SupplementCatalog) : List Supplement := catalog.entries.values

/-- Chooses a quantity of one supplement. An unknown id is refused before an
empty quantity, and that before a total that does not fit. -/
def select (catalog : SupplementCatalog) (id : String) (quantity : UInt32) :
    Except PricingFault SupplementLine :=
  match catalog.find? id with
  | none => .error (.unknownSupplement id)
  | some entry =>
    if quantity = 0 then .error (.zeroQuantity id)
    else
      let line : SupplementLine := ⟨entry.id, entry.kind, entry.unitPrice, quantity⟩
      match line.total with
      | .error fault => .error fault
      | .ok _ => .ok line

/-- Chooses each pick in turn, up to the first that is refused. -/
def selectAll (catalog : SupplementCatalog) :
    List (String × UInt32) → Except PricingFault (List SupplementLine)
  | [] => .ok []
  | (id, quantity) :: rest =>
    match catalog.select id quantity with
    | .error fault => .error fault
    | .ok line =>
      match catalog.selectAll rest with
      | .error fault => .error fault
      | .ok lines => .ok (line :: lines)

/-- The selection of a list of picks. -/
def selection (catalog : SupplementCatalog) (picks : List (String × UInt32)) :
    Except PricingFault Selection :=
  match catalog.selectAll picks with
  | .error fault => .error fault
  | .ok lines => .ok ⟨lines⟩

end SupplementCatalog

end Joinery
