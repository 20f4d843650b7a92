import MediaCatalog.Error
import MediaCatalog.Text.Case

/-!
# Suppliers of cover art

Where the cover of an album is fetched from: nowhere, or from the cover art archive. A supplier has
a code and a label. Settings name it leniently, by text or by code, and anything that names no
supplier stands for a default. A truth value is no code, even where it counts as a number.
-/

namespace MediaCatalog

/-- A code for a supplier, with the label it is shown under. -/
structure SupplierCode where
  /-- The code. -/
  code : Int
  /-- The label. -/
  label : Text
deriving DecidableEq, Repr

/-- The code of “no supplier”. -/
def SupplierCode.noneCode : Int := 0

/-- The code of the cover art archive. -/
def SupplierCode.archiveCode : Int := 1

/-- The number that a code is stored as. A code without a meaning is refused. -/
def SupplierCode.toStored (c : SupplierCode) : Except Error Int :=
  if c.code = noneCode then .ok noneCode
  else if c.code = archiveCode then .ok archiveCode
  else .error (.unknownSupplier c.label c.code)

/-- A supplier of cover art. -/
inductive Supplier
  | none
  | coverArtArchive
deriving DecidableEq, Repr

/-- The value of a setting that should name a supplier. -/
inductive SupplierSetting
  | text (value : Text)
  | integer (value : Int)
  | truth (value : Bool)
  /-- The setting has no value. -/
  | missing
  /-- A value of any other type. -/
  | other
deriving DecidableEq, Repr

namespace Supplier

/-- The suppliers. -/
def all : List Supplier := [none, coverArtArchive]

/-- The name of a supplier in the list of suppliers. -/
def name : Supplier → Text
  | none => "NONE".toList
  | coverArtArchive => "COVER_ART_ARCHIVE".toList

/-- The code and the label of a supplier. -/
def entry : Supplier → SupplierCode
  | none => ⟨SupplierCode.noneCode, "None".toList⟩
  | coverArtArchive => ⟨SupplierCode.archiveCode, "Cover Art Archive".toList⟩

/-- The code of a supplier. -/
def code (s : Supplier) : Int := s.entry.code

/-- The label of a supplier. -/
def label (s : Supplier) : Text := s.entry.label

/-- The number that a supplier is stored as. -/
def toStored (s : Supplier) : Except Error Int := s.entry.toStored

/-- Storing a supplier never fails: it is stored as its code. -/
theorem toStored_eq (s : Supplier) : s.toStored = .ok s.code := by
  cases s <;> rfl

/-- The texts that name a supplier, in lower case. -/
def spellings : List (Text × Supplier) :=
  [("none".toList, none),
   ("coverartarchive".toList, coverArtArchive),
   ("coverartarchive.org".toList, coverArtArchive),
   ("cover art archive".toList, coverArtArchive)]

/-- The supplier that a setting names. -/
def recognise : SupplierSetting → Option Supplier
  | .text value => spellings.lookup (Text.lower value)
  | .integer value =>
    if value = SupplierCode.noneCode then some none
    else if value = SupplierCode.archiveCode then some coverArtArchive
    else Option.none
  | .truth _ | .missing | .other => Option.none

/-- The supplier that a setting names, or the default. -/
def ofSetting (value : SupplierSetting) (default : Supplier) : Supplier :=
  (recognise value).getD default

end Supplier

end MediaCatalog
