import MediaCatalog.Text.Blank
import MediaCatalog.Text.Case

/-!
# Skip lists

A user names the extensions to be skipped in groups, each a list separated by commas such as
`mp4, mkv`. White space after a comma belongs to the comma; white space elsewhere belongs to the
entry. An entry is compared without regard to case, and a blank one stands for nothing. The group
`*` skips everything, even where nothing has been matched.
-/

namespace MediaCatalog.SkipList

/-- The group that skips everything. -/
def everything : Text := ['*']

/-- The entries of a group; `afterComma` says whether leading white space still belongs to a
comma. -/
def entriesFrom (afterComma : Bool) : Text → List Text
  | [] => [[]]
  | c :: rest =>
    if afterComma ∧ Text.isBlank c then entriesFrom true rest
    else if c = ',' then [] :: entriesFrom true rest
    else match entriesFrom false rest with
      | entry :: entries => (c :: entry) :: entries
      | [] => [[c]]

/-- The entries of a group. -/
def entries (group : Text) : List Text := entriesFrom false group

/-- Whether an entry names an extension. -/
def names (entry extension : Text) : Bool :=
  !Text.isBlankText entry && Text.lower entry == Text.lower extension

/-- Whether a group skips what has been matched. -/
def groupSkips (matched : Option Text) (group : Text) : Bool :=
  if group = everything then true
  else match matched with
    | none => false
    | some extension => (entries group).any fun entry => names entry extension

/-- Whether one of the groups skips what has been matched. A group that is missing skips nothing. -/
def skips (matched : Option Text) (groups : List (Option Text)) : Bool :=
  groups.any fun group => group.any (groupSkips matched)

end MediaCatalog.SkipList
