import MediaCatalog.Category
import MediaCatalog.Error
import MediaCatalog.Format
import MediaCatalog.SkipList
import MediaCatalog.Text.Quoted

/-!
# Probes

A probe is a working copy of a format. It tests resources against the format and keeps what it
matched last, so that a skip list can be consulted afterwards; and it carries a category, which
starts with that of the format and can be assigned once.

The category of a probe is **open** while it has not been assigned, or while it has the bit of the
unknown category. An open category takes any assignment, also that of the empty mask, which counts
as assigned from then on; a closed one ignores them. A negative mask is refused either way.
-/

namespace MediaCatalog

/-- A reference to a probe. -/
abbrev ProbeRef := Nat

/-- A working copy of a format. -/
structure Probe where
  /-- The format, which never changes. -/
  format : Format
  /-- The mask of the categories. -/
  mask : Nat
  /-- Whether the mask has been assigned. -/
  assigned : Bool
  /-- The extension or scheme of the last resource that matched. -/
  matched : Option Text
  /-- The probe of an alternate format, which is only referred to. -/
  secondary : Option ProbeRef
deriving DecidableEq, Repr

/-- A mask that is refused because it is negative. -/
structure NegativeMask where
  /-- The mask. -/
  mask : Int
deriving DecidableEq, Repr

/-- What is said about a mask that is refused. -/
def NegativeMask.message (n : NegativeMask) : Text :=
  "Type mask must not be negative: ".toList ++ Text.ofInt n.mask

/-- What can be seen of a probe beside its links. -/
structure Description where
  /-- The name of the format. -/
  name : Text
  /-- The identifier of the format. -/
  id : FormatId
  /-- The extensions of the format, as declared. -/
  extensions : List Text
  /-- The icon of the format. -/
  icon : Option Text
  /-- The mask of the categories. -/
  mask : Nat
  /-- The categories. -/
  categories : List Category
  /-- The MIME type. -/
  mimeType : Text
  /-- Whether media in the format can be transcoded. -/
  transcodable : Bool
  /-- What matched last. -/
  matched : Option Text
  /-- The summary of the probe. -/
  summary : Text
deriving DecidableEq, Repr

namespace Probe

/-- A new probe of a format. -/
def ofFormat (f : Format) : Probe where
  format := f
  mask := f.category
  assigned := f.category != 0
  matched := none
  secondary := none

/-- The label of the category of a probe. -/
def label (p : Probe) : Text := Mask.label p.mask

/-- The MIME type of the category of a probe. -/
def mimeType (p : Probe) : Text := Mask.mimeType p.mask

/-- Whether the category of a probe can still be assigned. -/
def isOpen (p : Probe) : Bool := !p.assigned || Mask.has p.mask .unknown

/-- A probe in one line. -/
def summary (p : Probe) : Text :=
  ['<'] ++ p.format.name ++ " type=".toList ++ p.label ++ " matched=".toList
    ++ (p.matched.map Text.quote).getD "None".toList ++ ['>']

/-- What can be seen of a probe. -/
def describe (p : Probe) : Description where
  name := p.format.name
  id := p.format.id
  extensions := p.format.extensions
  icon := p.format.icon
  mask := p.mask
  categories := Mask.categories p.mask
  mimeType := p.mimeType
  transcodable := p.format.transcodable
  matched := p.matched
  summary := p.summary

/-- What the format of a probe recognises a resource by. The probe stays as it is. -/
def find (p : Probe) (name : Option Text) : Option Text := p.format.find name

/-- Records what matched. -/
def remember (p : Probe) (matched : Option Text) : Probe := { p with matched }

/-- Whether a resource matches. If it does, the probe records what it matched by; if not, it keeps
what it has. -/
def test (p : Probe) (name : Option Text) : Bool × Probe :=
  match p.find name with
  | some found => (true, p.remember (some found))
  | none => (false, p)

/-- Whether skip lists skip what matched last. -/
def skips (p : Probe) (groups : List (Option Text)) : Bool := SkipList.skips p.matched groups

/-- The log record of an assignment that a closed category ignores. -/
def ignored (p : Probe) (mask : Nat) : LogRecord where
  level := .debug
  source := .formats
  message := "Ignoring re-classification of ".toList ++ p.format.name ++ " from ".toList ++ p.label
    ++ " to ".toList ++ Mask.label mask

/-- Assigns a category. -/
def assign (p : Probe) (mask : Int) : Except NegativeMask (Probe × List LogRecord) :=
  match mask with
  | .negSucc _ => .error ⟨mask⟩
  | .ofNat m =>
    if p.isOpen then .ok ({ p with mask := m, assigned := true }, [])
    else .ok (p, [p.ignored m])

/-- Sets the link to the probe of an alternate format. -/
def link (p : Probe) (secondary : Option ProbeRef) : Probe := { p with secondary }

/-- The log record of a failed copy. -/
def copyFailed (p : Probe) : LogRecord where
  level := .error
  source := .formats
  message := "Failed to duplicate format ".toList ++ p.format.name

/-- A copy of a probe, which has the same format, the same category, open or closed, the same last
match and refers to the same alternate probe. Some formats cannot be copied. -/
def copy (p : Probe) : Except Error Probe :=
  match p.format.copyFault with
  | none => .ok p
  | some reason => .error (.notCopied p.format.name reason)

end Probe

end MediaCatalog
