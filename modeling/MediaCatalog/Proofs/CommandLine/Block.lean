import MediaCatalog.Proofs.CommandLine.Start
import Mathlib.Data.List.Basic

/-!
# Arguments in blocks

The arguments of a test come in blocks: the name that is tested stands alone, a format or a skip
list follows its switch, which may be spelled by its letter or by its word
(`MediaCatalog.CommandLine.SpellOut`). As long as no text begins with a dash, no text is taken for a
switch, and reading the arguments is reading the blocks one after the other
(`MediaCatalog.CommandLine.scan_of_spellOut`). What has been read in the end is up to what the
blocks hold of each kind (`MediaCatalog.CommandLine.foldl_note`); the order between the kinds is
lost, so that blocks in another order ask for the same, up to the order of the skip lists
(`MediaCatalog.CommandLine.ofArgs_of_spellOut`).
-/

namespace MediaCatalog.CommandLine

/-! ### Blocks -/

/-- A block of the arguments of a test. -/
inductive Block
  /-- The name that is tested. -/
  | operand (name : Text)
  /-- The format, after its switch. -/
  | format (name : Text)
  /-- A skip list, after its switch. -/
  | skip (group : Text)
deriving DecidableEq, Repr

namespace Block

/-- The text that a block brings. -/
def text : Block → Text
  | operand t | format t | skip t => t

/-- A block as arguments. -/
def args : Block → List Text
  | operand t => [t]
  | format t => [Switch.format.short, t]
  | skip t => [Switch.skip.short, t]

/-- The name that is tested, in a block that brings it. -/
def operand? : Block → Option Text
  | operand t => some t
  | format _ | skip _ => none

/-- The format, in a block that brings it. -/
def format? : Block → Option Text
  | format t => some t
  | operand _ | skip _ => none

/-- The skip list, in a block that brings one. -/
def skip? : Block → Option Text
  | skip t => some t
  | operand _ | format _ => none

/-- The switch that a block follows, if it follows one. -/
def switch? : Block → Option Switch
  | operand _ => none
  | format _ => some .format
  | skip _ => some .skip

theorem eq_format_or_skip {b : Block} {s : Switch} (h : b.switch? = some s) :
    s = .format ∨ s = .skip := by
  cases b with
  | operand t => exact nomatch h
  | format t => exact Or.inl (Option.some.inj h).symm
  | skip t => exact Or.inr (Option.some.inj h).symm

end Block

/-- A switch is spelled by its letter or by its word. -/
def Switch.IsSpelling (s : Switch) (arg : Text) : Prop := arg = s.short ∨ arg = s.long

/-- Arguments **spell out** blocks, one after the other, each switch in either way. -/
inductive SpellOut : List Text → List Block → Prop
  | nil : SpellOut [] []
  | operand (t : Text) {args : List Text} {blocks : List Block} (h : SpellOut args blocks) :
      SpellOut (t :: args) (.operand t :: blocks)
  | switched {b : Block} {s : Switch} (hb : b.switch? = some s) {arg : Text}
      (harg : s.IsSpelling arg) {args : List Text} {blocks : List Block}
      (h : SpellOut args blocks) : SpellOut (arg :: b.text :: args) (b :: blocks)

/-- Takes note of a block. A second name has no place. -/
def Findings.note (found : Findings) : Block → Findings
  | .operand t =>
    if found.operand.isNone then { found with operand := some t } else found.setAside [t]
  | .format t => found.value (some t) .format
  | .skip t => found.value (some t) .skip

theorem Findings.note_of_switch? {b : Block} {s : Switch} (h : b.switch? = some s)
    (found : Findings) : found.note b = found.value (some b.text) s := by
  cases b with
  | operand t => exact nomatch h
  | format t | skip t =>
    obtain rfl := Option.some.inj h
    rfl

/-! ### Reading blocks -/

/-- The page of the command that tests. -/
abbrev matchPage : Page := .command .matching

/-- A place at which a block can begin. -/
def Place.isBetween (place : Place) : Prop := place = .free ∨ place = .afterOperand

theorem scan_nil {place : Place} (hplace : place.isBetween) (found : Findings) :
    scan matchPage found place [] = .ok found := by
  rcases hplace with rfl | rfl <;> rfl

/-- A switch takes the text that follows it as its value. -/
theorem scan_switch {place : Place} (hplace : place.isBetween) (found : Findings) {s : Switch}
    (hs : s = .format ∨ s = .skip) {arg : Text} (harg : s.IsSpelling arg) {t : Text}
    (ht : Undashed t) (rest : List Text) :
    scan matchPage found place (arg :: t :: rest) =
      scan matchPage (found.value (some t) s) .free rest := by
  have htoken : Token.ofArg matchPage arg = .switches [] s none := by
    rcases hs with rfl | rfl <;> rcases harg with rfl | rfl <;> decide
  have hvalue : s.takesValue = true := by
    rcases hs with rfl | rfl <;> rfl
  have hfirst : scan matchPage found place (arg :: t :: rest) =
      scan matchPage found (.beforeValue [] s) (t :: rest) := by
    rcases hplace with rfl | rfl <;> simp only [scan, htoken, hvalue, if_true]
  rw [hfirst, scan, Token.ofArg_of_undashed ht]
  rfl

/-- A text that stands alone is the name that is tested, or has no place. -/
theorem scan_operand {place : Place} (hplace : place.isBetween) (found : Findings) {t : Text}
    (ht : Undashed t) (rest : List Text) :
    ∃ next : Place, next.isBetween ∧ scan matchPage found place (t :: rest) =
      scan matchPage (found.note (.operand t)) next rest := by
  have htoken := Token.ofArg_of_undashed ht matchPage
  cases hoperand : found.operand with
  | none =>
    refine ⟨.afterOperand, Or.inr rfl, ?_⟩
    rcases hplace with rfl | rfl <;> simp [scan, htoken, Findings.note, hoperand, Page.operand]
  | some held =>
    refine ⟨.free, Or.inl rfl, ?_⟩
    rcases hplace with rfl | rfl <;> simp [scan, htoken, Findings.note, hoperand]

/-- **Reading blocks takes note of one after the other.** -/
theorem scan_of_spellOut {args : List Text} {blocks : List Block} (hargs : SpellOut args blocks)
    {place : Place} (hplace : place.isBetween) (found : Findings)
    (h : ∀ b ∈ blocks, Undashed b.text) :
    scan matchPage found place args = .ok (blocks.foldl Findings.note found) := by
  -- The place is generalised as well: after a name it is another one, though no block tells.
  induction hargs generalizing found place with
  | nil => exact scan_nil hplace found
  | @operand t args blocks _ ih =>
    obtain ⟨ht, hblocks⟩ := List.forall_mem_cons.mp h
    obtain ⟨next, hnext, hscan⟩ := scan_operand hplace found ht args
    exact hscan.trans (ih hnext _ hblocks)
  | @switched b s hb arg harg args blocks _ ih =>
    obtain ⟨ht, hblocks⟩ := List.forall_mem_cons.mp h
    rw [scan_switch hplace found (Block.eq_format_or_skip hb) harg ht, List.foldl_cons,
      Findings.note_of_switch? hb]
    exact ih (Or.inl rfl) _ hblocks

/-- **What has been read** is up to what the blocks hold of each kind: the first name, the last
format, all skip lists in their order; names beyond the first have no place. -/
theorem foldl_note (found : Findings) (blocks : List Block) :
    blocks.foldl Findings.note found =
      { verbose := found.verbose
        operand := found.operand.or (blocks.filterMap Block.operand?).head?
        format := ((blocks.filterMap Block.format?).getLast?.map some).or found.format
        groups := found.groups ++ (blocks.filterMap Block.skip?).map some
        extras := found.extras ++ if found.operand.isNone then
          (blocks.filterMap Block.operand?).tail else blocks.filterMap Block.operand? } := by
  induction blocks generalizing found with
  | nil => cases found; simp
  | cons b blocks ih =>
    rw [List.foldl_cons, ih, List.filterMap_cons, List.filterMap_cons, List.filterMap_cons]
    cases b with
    | operand t =>
      cases hoperand : found.operand with
      | none => simp [Findings.note, hoperand, Block.operand?, Block.format?, Block.skip?]
      | some held =>
        simp [Findings.note, hoperand, Findings.setAside, Block.operand?, Block.format?,
          Block.skip?]
    | format t =>
      cases hlast : (blocks.filterMap Block.format?).getLast? <;>
        simp [Findings.note, Findings.value, Block.operand?, Block.format?, Block.skip?,
          List.getLast?_cons, hlast, -List.getLast?_filterMap]
    | skip t =>
      simp [Findings.note, Findings.value, Block.operand?, Block.format?, Block.skip?]

/-! ### Blocks in any order -/

section Perm

variable {name format : Text} {groups : List Text} {blocks : List Block}

/-- The name, the format and the skip lists as blocks, in one of their orders. -/
def Block.list (name format : Text) (groups : List Text) : List Block :=
  .operand name :: .format format :: groups.map .skip

/-- Skip lists hold nothing of another kind. -/
theorem filterMap_map_skip {kind : Block → Option Text} (h : ∀ group, kind (.skip group) = none) :
    (groups.map Block.skip).filterMap kind = [] := by
  rw [List.filterMap_map, List.filterMap_eq_nil_iff]
  exact fun group _ => h group

theorem filterMap_operand?_list :
    (Block.list name format groups).filterMap Block.operand? = [name] :=
  congrArg (name :: ·) (filterMap_map_skip fun _ => rfl)

theorem filterMap_format?_list :
    (Block.list name format groups).filterMap Block.format? = [format] :=
  congrArg (format :: ·) (filterMap_map_skip fun _ => rfl)

theorem filterMap_skip?_list :
    (Block.list name format groups).filterMap Block.skip? = groups := by
  change (groups.map Block.skip).filterMap Block.skip? = groups
  rw [List.filterMap_map]
  exact List.filterMap_some

/-- **The order of the blocks does not matter**, except for that of the skip lists. -/
theorem foldl_note_of_perm (h : blocks.Perm (Block.list name format groups)) :
    ∃ groups' : List Text, groups'.Perm groups ∧ blocks.foldl Findings.note {} =
      { operand := some name, format := some (some format), groups := groups'.map some } := by
  have hoperand := h.filterMap Block.operand?
  have hformat := h.filterMap Block.format?
  have hskip := h.filterMap Block.skip?
  rw [filterMap_operand?_list, List.perm_singleton] at hoperand
  rw [filterMap_format?_list, List.perm_singleton] at hformat
  rw [filterMap_skip?_list] at hskip
  refine ⟨_, hskip, ?_⟩
  rw [foldl_note, hoperand, hformat]
  rfl

/-- Arguments none of which is an ambiguous abbreviation hold none. -/
theorem ambiguity_eq_none {p : Page} {args : List Text}
    (h : ∀ arg ∈ args, ∀ candidates, Token.ofArg p arg ≠ .ambiguous candidates) :
    ambiguity p args = none := by
  induction args with
  | nil => rfl
  | cons arg args ih =>
    obtain ⟨harg, hargs⟩ := List.forall_mem_cons.mp h
    rw [ambiguity]
    split
    · rfl
    · next candidates hambiguous => exact absurd hambiguous (harg candidates)
    · exact ih hargs

/-- An argument that spells out blocks is the text of one or spells a switch of one. -/
theorem SpellOut.eq_text_or_spelling {args : List Text} (hargs : SpellOut args blocks) {arg : Text}
    (h : arg ∈ args) : ∃ b ∈ blocks, arg = b.text ∨ ∃ s, b.switch? = some s ∧ s.IsSpelling arg := by
  induction hargs with
  | nil => exact absurd h List.not_mem_nil
  | operand t _ ih =>
    rcases List.mem_cons.mp h with rfl | h
    · exact ⟨_, List.mem_cons_self, Or.inl rfl⟩
    · obtain ⟨b, hb, hcases⟩ := ih h
      exact ⟨b, List.mem_cons_of_mem _ hb, hcases⟩
  | switched hb hswitch _ ih =>
    rcases List.mem_cons.mp h with rfl | h
    · exact ⟨_, List.mem_cons_self, Or.inr ⟨_, hb, hswitch⟩⟩
    rcases List.mem_cons.mp h with rfl | h
    · exact ⟨_, List.mem_cons_self, Or.inl rfl⟩
    · obtain ⟨b, hb, hcases⟩ := ih h
      exact ⟨b, List.mem_cons_of_mem _ hb, hcases⟩

/-- Blocks hold no ambiguous abbreviation, on either page that looks for one. -/
theorem ambiguity_of_spellOut {args : List Text} (hargs : SpellOut args blocks) {p : Page}
    (hp : p = .program ∨ p = matchPage) (h : ∀ b ∈ blocks, Undashed b.text) :
    ambiguity p args = none := by
  refine ambiguity_eq_none fun arg harg candidates hambiguous => ?_
  obtain ⟨b, hb, rfl | ⟨s, hs, hspelling⟩⟩ := hargs.eq_text_or_spelling harg
  · rw [Token.ofArg_of_undashed (h b hb)] at hambiguous
    exact nomatch hambiguous
  · rcases Block.eq_format_or_skip hs with rfl | rfl <;> rcases hspelling with rfl | rfl <;>
      rcases hp with rfl | rfl <;> exact nomatch hambiguous

/-- **Blocks in any order ask for the test that they describe**, however the switches are spelled,
up to the order of the skip lists. -/
theorem ofArgs_of_spellOut {args : List Text} (hargs : SpellOut args blocks)
    (h : blocks.Perm (Block.list name format groups))
    (hdash : ∀ t ∈ name :: format :: groups, Undashed t) :
    ∃ groups' : List Text, groups'.Perm groups ∧
      Request.ofArgs (CommandName.matching.spelling :: args) =
        .ok ⟨false, .matching name (some format) (groups'.map some)⟩ := by
  have hblocks : ∀ b ∈ blocks, Undashed b.text := by
    intro b hb
    have hmem := h.mem_iff.mp hb
    simp only [Block.list, List.mem_cons, List.mem_map] at hmem
    rcases hmem with rfl | rfl | ⟨group, hgroup, rfl⟩
    · exact hdash _ (by simp [Block.text])
    · exact hdash _ (by simp [Block.text])
    · exact hdash _ (by simp [Block.text, hgroup])
  have hprogram := ambiguity_of_spellOut hargs (Or.inl (Eq.refl Page.program)) hblocks
  have hpage := ambiguity_of_spellOut hargs (Or.inr (Eq.refl matchPage)) hblocks
  obtain ⟨groups', hperm, hnote⟩ := foldl_note_of_perm h
  have hread : readPage .matching args =
      .ok (.matching name (some format) (groups'.map some), []) := by
    rw [readPage, checkAbbreviations, hpage, scan_of_spellOut hargs (Or.inl rfl) {} hblocks, hnote]
    rfl
  have hstart : Request.ofArgs (verboseArgs false ++ CommandName.matching.spelling :: args) =
      .ok ⟨false, .matching name (some format) (groups'.map some)⟩ := by
    refine ofArgs_start_eq_ok_iff.mpr ⟨?_, hread, rfl⟩
    rw [checkAbbreviations, hprogram]
  exact ⟨groups', hperm, hstart⟩

end Perm

end MediaCatalog.CommandLine
