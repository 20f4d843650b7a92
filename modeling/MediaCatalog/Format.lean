import MediaCatalog.FormatId
import MediaCatalog.Scheme

/-!
# Formats

A format is what is known in advance about a kind of media: its identifier, the extensions of its
files, its icon, the category it starts with and whether it can be transcoded. Nothing in it
changes.

How a format recognises a resource is part of the declaration. Most go by the extension of the file
name, where neither the name nor the declaration minds the case; a resource with a scheme never
matches that way, even when its path ends in a known extension. A format of network streams goes by
the scheme instead.
-/

namespace MediaCatalog

/-- How a format recognises a resource. -/
inductive MatchRule
  /-- By one of the declared extensions. -/
  | extension
  /-- By one of the given schemes. -/
  | scheme (accepted : List Text)
deriving DecidableEq, Repr

/-- A declared format. -/
structure Format where
  /-- The name under which the format appears in listings. -/
  name : Text
  /-- The identifier of the format. -/
  id : FormatId
  /-- The extensions of its files, without the dot. -/
  extensions : List Text := []
  /-- The resource that shows the format, if there is one. -/
  icon : Option Text := none
  /-- The mask of the categories that the format starts with. -/
  category : Nat := 0
  /-- Whether media in this format can be transcoded. -/
  transcodable : Bool := false
  /-- How a resource is recognised. -/
  rule : MatchRule := .extension
  /-- Why probes of this format cannot be copied, for a format of which they cannot. -/
  copyFault : Option Text := none
deriving DecidableEq, Repr

namespace Format

/-- The first of the extensions that a file name ends in after a dot, in lower case. -/
def findExtension (extensions : List Text) (name : Text) : Option Text :=
  if (Scheme.ofText (Text.lower name)).isSome then none
  else (extensions.map Text.lower).find? fun e => ('.' :: e).isSuffixOf (Text.lower name)

/-- The scheme of a resource, if it is one of the accepted ones. -/
def findScheme (accepted : List Text) (name : Text) : Option Text :=
  (Scheme.ofText name).filter fun scheme => accepted.contains scheme

/-- The extension or scheme by which a format recognises a resource, which may have no name. -/
def find (f : Format) (name : Option Text) : Option Text :=
  match f.rule with
  | .extension => name.bind (findExtension f.extensions)
  | .scheme accepted => name.bind (findScheme accepted)

end Format

end MediaCatalog
