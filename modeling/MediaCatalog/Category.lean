import MediaCatalog.Text.Basic

/-!
# Media categories and category masks

The coarse category of a format is a mask with one bit for each category. Tests look at single
bits, so that a composite mask belongs to several categories; the label and the MIME type look at
the whole mask, so that a composite mask has neither. A mask may be any integer: bits above the
defined ones are kept, and a negative mask stands for its two's-complement bits.
-/

namespace MediaCatalog

/-- A coarse media category. -/
inductive Category
  | audio
  | image
  | video
  | unknown
  | playlist
  | iso
  | subtitle
deriving DecidableEq, Repr

namespace Category

/-- The categories, by rising bit. -/
def all : List Category := [audio, image, video, unknown, playlist, iso, subtitle]

/-- The mask with the bit of this category only. -/
def weight : Category → Nat
  | audio => 1
  | image => 2
  | video => 4
  | unknown => 8
  | playlist => 16
  | iso => 32
  | subtitle => 64

/-- The name of a category. -/
def label : Category → Text
  | audio => "AUDIO".toList
  | image => "IMAGE".toList
  | video => "VIDEO".toList
  | unknown => "UNKNOWN".toList
  | playlist => "PLAYLIST".toList
  | iso => "ISO".toList
  | subtitle => "SUBTITLE".toList

/-- The MIME type that a category stands for, where there is one. -/
def mimeType : Category → Option Text
  | audio => some "audio/mpeg".toList
  | image => some "image/jpeg".toList
  | video => some "video/mpeg".toList
  | playlist => some "audio/x-mpegurl".toList
  | subtitle => some "text/plain".toList
  | unknown | iso => none

end Category

/-- A set of categories as an integer, one bit for each. -/
abbrev Mask := Int

namespace Mask

/-- Whether the bit of a category is set. Division rounds down, so that this reads the
two's-complement bits of a negative mask. -/
def has (mask : Mask) (c : Category) : Bool := mask / (c.weight : Int) % 2 == 1

/-- The categories whose bits are set. -/
def categories (mask : Mask) : List Category := Category.all.filter mask.has

/-- The category whose mask this is, if it is that of a single one. -/
def single? (mask : Mask) : Option Category :=
  Category.all.find? fun c => mask == (c.weight : Int)

/-- The label of a mask that is not that of a single category. -/
def noLabel : Text := "NOT DEFINED".toList

/-- The label of a mask. -/
def label (mask : Mask) : Text := (mask.single?.map Category.label).getD noLabel

/-- The MIME type of a mask without one of its own. -/
def fallbackMimeType : Text := "application/octet-stream".toList

/-- The MIME type of a mask. -/
def mimeType (mask : Mask) : Text := (mask.single?.bind Category.mimeType).getD fallbackMimeType

/-- The defined masks by name: the empty one and that of every category. -/
def named : List (Text × Nat) :=
  ("UNSET".toList, 0) :: Category.all.map fun c => (c.label, c.weight)

end Mask

end MediaCatalog
