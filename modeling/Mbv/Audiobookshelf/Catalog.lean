import Mathlib.Data.Finset.Basic
import Mathlib.Order.Basic
import Mbv.Sequence.Gathering

/-! What the podcast and the book browse state share: a published list loaded page by page, and a
    replacement for it staged beside it. -/

namespace Mbv.Audiobookshelf

structure RowKind (Row : Type) where
  Rank : Type
  order : LinearOrder Rank
  id : Row → String
  rank : Row → Rank

attribute [instance] RowKind.order

def RowKind.before {Row : Type} (kind : RowKind Row) (left right : Row) : Bool :=
  decide (kind.rank left ≤ kind.rank right)

structure Page (Row : Type) where
  page : Nat
  total : Nat
  items : List Row

/-- A list under load. The pages it counts are those answered, `usize` in the source: a result whose
    page is `usize::MAX` is outside the model. -/
structure Listing (Row : Type) where
  rows : List Row := []
  total : Nat := 0
  nextPage : Nat := 0
  loadingPages : Finset Nat := ∅

structure CatalogReplacement (Row : Type) extends Listing Row where
  request : Nat

structure Catalog (Row : Type) extends Listing Row where
  selectedId : Option String := none
  error : Option String := none
  replacement : Option (CatalogReplacement Row) := none
  nextCatalogRequest : Nat := 0
  catalogRequest : Nat := 0

variable {Row : Type} (kind : RowKind Row)

namespace Listing

def lists (listing : Listing Row) (id : String) : Bool :=
  listing.rows.any fun row => kind.id row == id

def sortRows (listing : Listing Row) : Listing Row :=
  { listing with rows := listing.rows.mergeSort kind.before }

/-- The part of `append_page` and `append_replacement_page` that both make. -/
def land (listing : Listing Row) (page : Page Row) : Listing Row :=
  sortRows kind
    { rows := Gathering.gather kind.id listing.rows page.items
      total := page.total
      nextPage := max listing.nextPage (page.page + 1)
      loadingPages := listing.loadingPages.erase page.page }

def needsPage (listing : Listing Row) : Option Nat :=
  if listing.rows.length < listing.total ∧ listing.loadingPages = ∅ then some listing.nextPage else none

end Listing

def CatalogReplacement.land (staged : CatalogReplacement Row) (page : Page Row) :
    CatalogReplacement Row :=
  { staged with toListing := staged.toListing.land kind page }

namespace Catalog

def cursor (catalog : Catalog Row) : Nat :=
  (catalog.selectedId.bind fun id => catalog.rows.findIdx? fun row => kind.id row == id).getD 0

def select (catalog : Catalog Row) (cursor : Nat) : Catalog Row :=
  { catalog with selectedId := catalog.rows[cursor]?.map kind.id }

def needsPage (catalog : Catalog Row) : Option Nat := catalog.toListing.needsPage

def beginCatalogReplacement (catalog : Catalog Row) : Catalog Row :=
  { catalog with
    nextCatalogRequest := catalog.nextCatalogRequest + 1
    catalogRequest := catalog.nextCatalogRequest + 1
    replacement := some { request := catalog.nextCatalogRequest + 1, loadingPages := {0} }
    loadingPages := ∅ }

def appendReplacementPage (catalog : Catalog Row) (request : Nat) (page : Page Row) :
    Catalog Row × Bool :=
  if catalog.catalogRequest ≠ request then (catalog, false)
  else
    match catalog.replacement with
    | none => (catalog, false)
    | some staged =>
      ({ catalog with replacement := some (staged.land kind page) }, true)

def replacementNeedsPage (catalog : Catalog Row) (request : Nat) : Option Nat :=
  if catalog.catalogRequest ≠ request then none
  else catalog.replacement.bind fun staged => staged.toListing.needsPage

/-- What `commit_catalog_replacement` makes of the rows and the selection: a selected entry that is
    still present stays, else the first is selected. -/
def publish (catalog : Catalog Row) (staged : CatalogReplacement Row) : Catalog Row :=
  { catalog with
    toListing := staged.sortRows kind
    replacement := none
    selectedId :=
      if catalog.selectedId.any ((staged.sortRows kind).lists kind) then catalog.selectedId
      else (staged.sortRows kind).rows.head?.map kind.id }

def abortCatalogReplacement (catalog : Catalog Row) (request : Nat) : Catalog Row × Bool :=
  if catalog.catalogRequest ≠ request then (catalog, false)
  else ({ catalog with replacement := none }, catalog.replacement.isSome)

end Catalog

end Mbv.Audiobookshelf
