import MediaCatalog.Proofs.CommandLine.Match
import MediaCatalog.Proofs.CommandLine.Run

/-!
# Values without a text

The value of a switch has a text, with one exception: a value that is attached to its switch and
reads `--` has none. A command is not prepared for that. It breaks off where it looks up a format
without a text, and where it comes to a skip list without a text while it still has something to
skip (`MediaCatalog.CommandLine.Command.BreaksOff`).

Reading the arguments makes values of nothing but arguments, one at a time, so that a text can only
be missing where an argument attaches the mark
(`MediaCatalog.CommandLine.exists_attachesMark_of_breaksOff`).
-/

namespace MediaCatalog.CommandLine

/-! ### Breaking off -/

/-- A skip list without a text comes up before any list that skips what has matched. -/
def ComesUpMissing (matched : Option Text) (groups : List (Option Text)) : Prop :=
  ∃ (before : List Text) (after : List (Option Text)), groups = before.map some ++ none :: after ∧
    SkipList.skips matched (before.map some) = false

theorem comesUpMissing_none_cons (matched : Option Text) (groups : List (Option Text)) :
    ComesUpMissing matched (none :: groups) := ⟨[], groups, rfl, rfl⟩

theorem comesUpMissing_some_cons_iff {matched : Option Text} {group : Text}
    {groups : List (Option Text)} :
    ComesUpMissing matched (some group :: groups) ↔
      SkipList.skips matched [some group] = false ∧ ComesUpMissing matched groups := by
  constructor
  · rintro ⟨before, after, heq, hskip⟩
    cases before with
    | nil => exact nomatch heq
    | cons first before =>
      obtain ⟨hgroup, hgroups⟩ := List.cons_eq_cons.mp heq
      obtain rfl := Option.some.inj hgroup
      rw [List.map_cons, SkipList.skips_cons, Bool.or_eq_false_iff] at hskip
      exact ⟨hskip.1, before, after, hgroups, hskip.2⟩
  · rintro ⟨hgroup, before, after, rfl, hskip⟩
    refine ⟨group :: before, after, rfl, ?_⟩
    rw [List.map_cons, SkipList.skips_cons, hgroup, hskip]
    rfl

namespace Report

/-- Where nothing has matched, no skip list has to be split. -/
theorem skipVerdict_of_matched_none {p : Probe} (h : p.matched = none)
    (groups : List (Option Text)) : ∃ skipped, skipVerdict p groups = .ok skipped := by
  induction groups with
  | nil => exact ⟨false, rfl⟩
  | cons group groups ih =>
    cases group with
    | none =>
      simpa only [skipVerdict, h, Option.isSome_none, Bool.false_eq_true, if_false] using ih
    | some group =>
      rw [skipVerdict]
      split
      · exact ⟨true, rfl⟩
      · exact ih

/-- **Where something has matched**, consulting the skip lists breaks off if one without a text
comes up. -/
theorem skipVerdict_of_matched_some {p : Probe} {found : Text} (h : p.matched = some found)
    (groups : List (Option Text)) :
    ComesUpMissing (some found) groups ∧ skipVerdict p groups = .error skipTextMissing ∨
      ¬ ComesUpMissing (some found) groups ∧ ∃ skipped, skipVerdict p groups = .ok skipped := by
  induction groups with
  | nil =>
    refine Or.inr ⟨?_, false, rfl⟩
    rintro ⟨before, after, heq, -⟩
    cases before <;> exact nomatch heq
  | cons group groups ih =>
    cases group with
    | none =>
      refine Or.inl ⟨comesUpMissing_none_cons _ _, ?_⟩
      simp only [skipVerdict, h, Option.isSome_some, if_true]
    | some group =>
      rw [comesUpMissing_some_cons_iff, skipVerdict, Probe.skips, h]
      cases SkipList.skips (some found) [some group] with
      | true => exact Or.inr ⟨fun hmissing => absurd hmissing.1 (by decide), true, rfl⟩
      | false => simpa using ih

end Report

/-- A command comes upon a value without a text. -/
inductive Command.BreaksOff : Command → Prop
  /-- It looks up a format without a text. -/
  | format {c : Command} (hformat : c.format? = some none) : BreaksOff c
  /-- It comes to a skip list without a text, while there is something to skip. -/
  | skip {name format : Text} {groups : List (Option Text)} {f : Format} {found : Text}
    (hlookup : Catalog.lookup format = .ok f) (hfound : f.find (some name) = some found)
    (hmissing : ComesUpMissing (some found) groups) :
    BreaksOff (.matching name (some format) groups)

/-! ### Where a text gets lost -/

/-- Whether an argument attaches the mark to a switch as its value. -/
def attachesMark (p : Page) (arg : Text) : Bool :=
  match Token.ofArg p arg with
  | .switches _ _ (some value) => value = Token.mark
  | _ => false

namespace Findings

/-- All values that have been found have a text. -/
structure HasTexts (found : Findings) : Prop where
  /-- The format has one. -/
  format : found.format ≠ some none
  /-- The skip lists have one. -/
  groups : none ∉ found.groups

theorem hasTexts_default : HasTexts {} := ⟨nofun, List.not_mem_nil⟩

variable {found next : Findings}

theorem HasTexts.value (h : found.HasTexts) (t : Text) (s : Switch) :
    (found.value (some t) s).HasTexts := by
  cases s with
  | format => exact ⟨by simp [Findings.value], h.groups⟩
  | skip => exact ⟨h.format, by simpa [Findings.value] using h.groups⟩
  | help => exact h
  | version => exact h
  | verbose => exact h

theorem HasTexts.flags (h : found.HasTexts) {p : Page} {switches : List Switch}
    (hflags : found.flags p switches = .ok next) : next.HasTexts := by
  induction switches generalizing found with
  | nil =>
    obtain rfl := Except.ok.inj hflags
    exact h
  | cons s switches ih =>
    cases s with
    | help => exact nomatch hflags
    | version => exact nomatch hflags
    | verbose =>
      have hverbose : HasTexts { found with verbose := true } := ⟨h.format, h.groups⟩
      exact ih hverbose hflags
    | format => exact ih h hflags
    | skip => exact ih h hflags

end Findings

/-- A computation that gives something passed each of its steps. -/
theorem exists_of_bind_eq_ok {ε α β : Type} {x : Except ε α} {f : α → Except ε β} {b : β}
    (h : x >>= f = .ok b) : ∃ a, x = .ok a ∧ f a = .ok b := by
  cases x with
  | error e => exact nomatch h
  | ok a => exact ⟨a, rfl, h⟩

/-- A value that is attached to a switch has a text, unless it is the mark. -/
theorem Findings.HasTexts.value_attachedText {found : Findings} (h : found.HasTexts) {p : Page}
    {arg : Text} (harg : attachesMark p arg = false) {flags : List Switch} {s : Switch} {v : Text}
    (htoken : Token.ofArg p arg = .switches flags s (some v)) :
    (found.value (Token.attachedText v) s).HasTexts := by
  have hv : v ≠ Token.mark := by simpa [attachesMark, htoken] using harg
  rw [Token.attachedText, if_neg hv]
  exact h.value v s

/-- **Reading a page finds texts** as long as no argument attaches the mark. -/
theorem hasTexts_scan {p : Page} {found result : Findings} {place : Place} {args : List Text}
    (hargs : ∀ arg ∈ args, attachesMark p arg = false) (hfound : found.HasTexts)
    (hscan : scan p found place args = .ok result) : result.HasTexts := by
  -- What has been found only changes where a value is taken note of, in two of the cases.
  fun_induction scan p found place args with
  | case1 | case3 | case15 | case16 => exact nomatch hscan
  | case4 | case7 | case8 | case9 | case10 =>
    obtain rfl := Except.ok.inj hscan
    exact ⟨hfound.format, hfound.groups⟩
  | case5 _ _ _ _ _ _ _ _ ih | case6 _ _ _ _ _ _ _ _ ih | case11 _ _ _ _ _ _ _ ih
  | case12 _ _ _ _ _ _ _ _ _ ih =>
    exact ih (List.forall_mem_cons.mp hargs).2 ⟨hfound.format, hfound.groups⟩ hscan
  | case2 found flags s arg rest v htoken ih =>
    obtain ⟨next, hflags, hnext⟩ := exists_of_bind_eq_ok hscan
    exact ih next (List.forall_mem_cons.mp hargs).2 ((hfound.flags hflags).value v s) hnext
  | case13 found place arg rest hplace flags s htoken hvalue ih =>
    obtain ⟨next, hflags, hnext⟩ := exists_of_bind_eq_ok hscan
    exact ih next (List.forall_mem_cons.mp hargs).2 (hfound.flags hflags) hnext
  | case14 found place arg rest hplace flags s v htoken ih =>
    obtain ⟨harg, hrest⟩ := List.forall_mem_cons.mp hargs
    obtain ⟨next, hflags, hnext⟩ := exists_of_bind_eq_ok hscan
    exact ih next hrest ((hfound.flags hflags).value_attachedText harg htoken) hnext

/-- What follows the command is part of the arguments. -/
theorem mem_of_divide {found : Findings} {args : List Text} {division : Division}
    (h : divide found args = .ok division) {name : Text} {rest : List Text}
    (hcommand : division.command = some (name, rest)) {arg : Text} (harg : arg ∈ rest) :
    arg ∈ args := by
  fun_induction divide found args with
  | case1 | case3 =>
    obtain rfl := Except.ok.inj h
    exact nomatch hcommand
  | case2 | case4 =>
    obtain rfl := Except.ok.inj h
    obtain ⟨-, rfl⟩ := Prod.mk.inj (Option.some.inj hcommand)
    exact List.mem_cons_of_mem _ harg
  | case5 found first others t htoken ih => exact List.mem_cons_of_mem _ (ih h)
  | case6 found first others flags s value htoken ih =>
    obtain ⟨next, -, hnext⟩ := exists_of_bind_eq_ok h
    exact List.mem_cons_of_mem _ (ih next hnext)
  | case7 | case8 => exact nomatch h

/-- What is asked for by what was found has texts if that has. -/
theorem not_breaksOff_of_hasTexts {found : Findings} (h : found.HasTexts) {c : CommandName}
    {command : Command} (hcommand : Command.ofFindings? found c = some command) :
    ¬ command.BreaksOff := by
  have htexts : command.format? ≠ some none ∧
      ∀ name format groups, command = .matching name format groups → none ∉ groups := by
    cases c with
    | matching =>
      simp only [Command.ofFindings?, Option.bind_eq_bind, Option.bind_eq_some_iff] at hcommand
      obtain ⟨name, -, format, hformat, hsome⟩ := hcommand
      obtain rfl := Option.some.inj hsome
      refine ⟨fun hnone => h.format (hformat.trans hnone), ?_⟩
      rintro _ _ groups hmatching
      obtain ⟨-, -, rfl⟩ := Command.matching.inj hmatching
      exact h.groups
    | compatible =>
      simp only [Command.ofFindings?, Option.bind_eq_bind, Option.bind_eq_some_iff] at hcommand
      obtain ⟨name, -, format, hformat, hsome⟩ := hcommand
      obtain rfl := Option.some.inj hsome
      exact ⟨fun hnone => h.format (hformat.trans hnone), fun _ _ _ hmatching => nomatch hmatching⟩
    | types =>
      obtain rfl := Option.some.inj hcommand
      exact ⟨nofun, nofun⟩
    | coverSupplier =>
      obtain ⟨value, -, rfl⟩ := Option.map_eq_some_iff.mp hcommand
      exact ⟨nofun, nofun⟩
  intro hbreaks
  cases hbreaks with
  | format hformat => exact htexts.1 hformat
  | skip hlookup hfound hmissing =>
    obtain ⟨before, after, rfl, -⟩ := hmissing
    exact htexts.2 _ _ _ rfl (List.mem_append_right _ List.mem_cons_self)

/-- **A command only breaks off where an argument attaches the mark** to a switch. -/
theorem exists_attachesMark_of_breaksOff {args : List Text} {request : Request}
    (hargs : Request.ofArgs args = .ok request) (hbreaks : request.command.BreaksOff) :
    ∃ c, ∃ arg ∈ args, attachesMark (.command c) arg = true := by
  obtain ⟨-, -, hdivide⟩ := exists_of_bind_eq_ok hargs
  obtain ⟨division, hdivision, hrest⟩ := exists_of_bind_eq_ok hdivide
  cases hcommand : division.command with
  | none =>
    rw [hcommand] at hrest
    obtain ⟨-, -, hthrow⟩ := exists_of_bind_eq_ok hrest
    exact nomatch hthrow
  | some named =>
    obtain ⟨name, rest⟩ := named
    rw [hcommand] at hrest
    obtain ⟨⟨command, extras⟩, hread, hrequest⟩ := exists_of_bind_eq_ok hrest
    obtain ⟨-, -, hpure⟩ := exists_of_bind_eq_ok hrequest
    obtain rfl := Except.ok.inj hpure
    rw [readCommand] at hread
    split at hread
    · next c hc =>
      refine ⟨c, ?_⟩
      by_contra hnone
      push Not at hnone
      obtain ⟨-, -, hscan⟩ := exists_of_bind_eq_ok hread
      obtain ⟨found, hfound, hpage⟩ := exists_of_bind_eq_ok hscan
      have htexts : found.HasTexts := hasTexts_scan
        (fun arg harg => Bool.eq_false_iff.mpr (hnone arg (mem_of_divide hdivision hcommand harg)))
        Findings.hasTexts_default hfound
      split at hpage
      · next command' hfindings =>
        obtain ⟨rfl, -⟩ := Prod.mk.inj (Except.ok.inj hpage)
        exact not_breaksOff_of_hasTexts htexts hfindings hbreaks
      · cases hpage
    · cases hread

end MediaCatalog.CommandLine
