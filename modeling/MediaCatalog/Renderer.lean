import MediaCatalog.Format
import MediaCatalog.FormatSet
import MediaCatalog.Text.Quoted

/-!
# Renderers

A renderer plays media, and for a resource in a given format it says whether it plays it as it is
or whether the media have to be transcoded first. The profile of a device lists the identifiers it
plays. Any other renderer is known by a name and by its answers: it has rulings on some resources
and formats, and one verdict on all others. So its answer is a matter of the resource and the
format. A renderer that looks at what else is known of a probe, or that changes its mind between
two questions, is not among these.
-/

namespace MediaCatalog

/-- The profile of a device. -/
structure Profile where
  /-- The name shown to the user. -/
  name : Text
  /-- The formats that are played as they are. -/
  supported : FormatSet
deriving DecidableEq

namespace Profile

/-- The profile that plays the formats of a list. -/
def ofList (name : Text) (ids : List FormatId) : Profile := ⟨name, FormatSet.ofList ids⟩

/-- A profile as it is written in a log. -/
def written (p : Profile) : Text :=
  "RendererConfiguration(name=".toList ++ Text.quote p.name ++ ", supported=".toList
    ++ p.supported.written ++ [')']

end Profile

/-- What a renderer says to one question. -/
structure Ruling where
  /-- The resource. -/
  resource : Option Text
  /-- The format. -/
  format : Format
  /-- What is said. -/
  verdict : Bool
deriving DecidableEq

/-- A renderer. -/
inductive Renderer
  /-- A device with a profile. -/
  | device (profile : Profile)
  /-- A renderer that is no device, with its rulings on some questions and its verdict on all
  others. -/
  | custom (id : Text) (rulings : List Ruling) (otherwise : Bool)
deriving DecidableEq

namespace Renderer

/-- A renderer that answers every question alike. -/
def fixed (id : Text) (verdict : Bool) : Renderer := custom id [] verdict

/-- Whether a renderer plays a resource of the given format as it is. -/
def plays (r : Renderer) (resource : Option Text) (f : Format) : Bool :=
  match r with
  | device p => p.supported.contains f.id
  | custom _ rulings otherwise =>
    match rulings.find? fun ruling => ruling.resource = resource ∧ ruling.format = f with
    | some ruling => ruling.verdict
    | none => otherwise

/-- A renderer as it is written in a log. -/
def written : Renderer → Text
  | device p => p.written
  | custom id _ _ => "StubRenderer(".toList ++ id ++ [')']

end Renderer

end MediaCatalog
