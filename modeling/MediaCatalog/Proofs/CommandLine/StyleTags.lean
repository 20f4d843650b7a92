import MediaCatalog.Proofs.CommandLine.Drawing
import MediaCatalog.Proofs.Text.Cut

/-!
# Style tags in what the user is told about an ending

What the user is told about an ending is marked with style tags. The library that draws takes them
for what they are and displays the rest of the message
(`MediaCatalog.Text.withoutTags`). Where the library is not installed, the same message is printed
as it is. So the user reads the tags, and reads the same in both cases only if there is nothing to
be told (`MediaCatalog.CommandLine.printed_eq_withoutTags_iff`).
-/

namespace MediaCatalog

namespace Text

/-! ### Messages without their tags -/

/-- Whether a style tag can begin like this: with a small letter, or with the slash of a closing
tag. -/
def opensTag : Text → Bool
  | [] => false
  | c :: _ => c.isLower || c == '/'

/-- What is displayed of an opening bracket and the piece of a message that follows it, up to the
next opening bracket. If the piece opens a tag and closes it, this is what comes after the tag. -/
def displayPiece (piece : Text) : Text :=
  if opensTag piece && piece.contains ']' then (piece.dropWhile (· != ']')).tail else '[' :: piece

/-- A message without its style tags. -/
def withoutTags (message : Text) : Text :=
  match cut '[' message with
  | [] => []
  | piece :: pieces => piece ++ pieces.flatMap displayPiece

section Tags

variable {t p content r : Text}

theorem withoutTags_of_cut {piece : Text} {pieces : List Text} (h : cut '[' t = piece :: pieces) :
    withoutTags t = piece ++ pieces.flatMap displayPiece := by
  rw [withoutTags, h]

/-- A message without opening brackets has no tags. -/
theorem withoutTags_of_not_mem (ht : '[' ∉ t) : withoutTags t = t := by
  rw [withoutTags_of_cut (cut_of_not_mem ht), List.flatMap_nil, List.append_nil]

/-- What stands between the brackets of a style tag. -/
structure IsTag (content : Text) : Prop where
  opens : opensTag content
  unopened : '[' ∉ content
  unclosed : ']' ∉ content

instance : DecidablePred IsTag := fun content =>
  decidable_of_iff (opensTag content ∧ '[' ∉ content ∧ ']' ∉ content)
    ⟨fun ⟨h, h', h''⟩ => ⟨h, h', h''⟩, fun ⟨h, h', h''⟩ => ⟨h, h', h''⟩⟩

theorem IsTag.displayPiece_append (h : IsTag content) (r : Text) :
    displayPiece (content ++ ']' :: r) = r := by
  have hopens : opensTag (content ++ ']' :: r) := by
    obtain ⟨c, rest, rfl⟩ : ∃ c rest, content = c :: rest :=
      List.exists_cons_of_ne_nil fun hnil => absurd h.opens (by rw [hnil]; decide)
    exact h.opens
  have hcloses : (content ++ ']' :: r).contains ']' :=
    List.contains_iff_mem.mpr (List.mem_append_right _ List.mem_cons_self)
  have hbefore : ∀ c ∈ content, (c != ']') = true := fun c hc =>
    bne_iff_ne.mpr fun heq => h.unclosed (heq ▸ hc)
  rw [displayPiece, hopens, hcloses, Bool.and_self, if_pos rfl,
    List.dropWhile_append_of_pos hbefore]
  rfl

/-- **The first tag of a message is dropped**, and the message goes on after it. -/
theorem withoutTags_tag (hp : '[' ∉ p) (h : IsTag content) (r : Text) :
    withoutTags (p ++ '[' :: (content ++ ']' :: r)) = p ++ withoutTags r := by
  obtain ⟨piece, pieces, hcut⟩ := List.exists_cons_of_ne_nil (cut_ne_nil '[' r)
  have hclosed : '[' ∉ content ++ [']'] := fun hmem =>
    (List.mem_append.mp hmem).elim h.unopened (by decide)
  have hrest : cut '[' (content ++ ']' :: r) = (content ++ ']' :: piece) :: pieces := by
    have happend := cut_append_of_not_mem hclosed hcut
    rwa [List.append_assoc, List.append_assoc] at happend
  have hwhole : cut '[' (p ++ '[' :: (content ++ ']' :: r)) =
      p :: (content ++ ']' :: piece) :: pieces := by
    rw [cut_append, cut_of_not_mem hp, hrest]
    rfl
  rw [withoutTags_of_cut hwhole, withoutTags_of_cut hcut, List.flatMap_cons,
    h.displayPiece_append]

theorem displayPiece_sublist (piece : Text) : (displayPiece piece).Sublist ('[' :: piece) := by
  rw [displayPiece]
  split
  · exact ((List.tail_sublist _).trans (List.dropWhile_sublist _)).cons _
  · exact List.Sublist.refl _

/-- Nothing is displayed that does not stand in the message. -/
theorem withoutTags_sublist (t : Text) : (withoutTags t).Sublist t := by
  suffices hcut : ∀ piece pieces, cut '[' t = piece :: pieces →
      (piece ++ pieces.flatMap displayPiece).Sublist t by
    obtain ⟨piece, pieces, h⟩ := List.exists_cons_of_ne_nil (cut_ne_nil '[' t)
    rw [withoutTags_of_cut h]
    exact hcut piece pieces h
  induction t with
  | nil =>
    rintro _ _ ⟨rfl, rfl⟩
    exact List.Sublist.refl _
  | cons c t ih =>
    obtain ⟨first, rest, h⟩ := List.exists_cons_of_ne_nil (cut_ne_nil '[' t)
    have htail := ih first rest h
    intro piece pieces hpieces
    by_cases hc : c = '['
    · rw [hc, cut_cons_separator, h] at hpieces
      obtain ⟨rfl, rfl⟩ := List.cons.inj hpieces
      rw [List.nil_append, List.flatMap_cons, hc]
      exact ((displayPiece_sublist first).append_right _).trans (htail.cons_cons _)
    · rw [cut_cons_of_ne hc h] at hpieces
      obtain ⟨rfl, rfl⟩ := List.cons.inj hpieces
      exact htail.cons_cons _

/-- A text marked with a style, and what follows it. -/
def marked (style t rest : Text) : Text :=
  '[' :: (style ++ ']' :: (t ++ '[' :: ('/' :: style ++ ']' :: rest)))

theorem IsTag.closing (h : IsTag content) : IsTag ('/' :: content) where
  opens := rfl
  unopened := List.not_mem_cons_of_ne_of_not_mem (by decide) h.unopened
  unclosed := List.not_mem_cons_of_ne_of_not_mem (by decide) h.unclosed

/-- **A marked text is displayed without its marks.** -/
theorem withoutTags_marked (hp : '[' ∉ p) (h : IsTag content) (ht : '[' ∉ t) (rest : Text) :
    withoutTags (p ++ marked content t rest) = p ++ (t ++ withoutTags rest) := by
  rw [marked, withoutTags_tag hp h, withoutTags_tag ht h.closing]

theorem withoutTags_marked_of_not_mem (hp : '[' ∉ p) (h : IsTag content) (ht : '[' ∉ t)
    (hr : '[' ∉ r) : withoutTags (p ++ marked content t r) = p ++ (t ++ r) := by
  rw [withoutTags_marked hp h ht, withoutTags_of_not_mem hr]

/-- A message with a marked text is not displayed as it is. -/
theorem withoutTags_marked_ne (hp : '[' ∉ p) (h : IsTag content) (ht : '[' ∉ t) (rest : Text) :
    withoutTags (p ++ marked content t rest) ≠ p ++ marked content t rest := by
  intro heq
  have hlength := congrArg List.length ((withoutTags_marked hp h ht rest).symm.trans heq)
  have hrest := (withoutTags_sublist rest).length_le
  simp only [marked, List.length_append, List.length_cons] at hlength
  omega

end Tags

/-! ### Screens without tags -/

theorem printed_ofLines_cons (line : Text) (lines : List Text) :
    (Screen.ofLines (line :: lines)).printed = line ++ '\n' :: (Screen.ofLines lines).printed := by
  rw [Screen.ofLines, List.flatMap_cons, List.append_assoc]
  rfl

theorem length_withoutTags_le (lines : List Text) :
    (Screen.ofLines (lines.map withoutTags)).printed.length ≤
      (Screen.ofLines lines).printed.length := by
  induction lines with
  | nil => exact Nat.le_refl _
  | cons line lines ih =>
    have hline := (withoutTags_sublist line).length_le
    rw [List.map_cons, printed_ofLines_cons, printed_ofLines_cons]
    simp only [List.length_append, List.length_cons]
    omega

/-- **Lines are printed as they are displayed** exactly if no tag is dropped from any of them. -/
theorem ofLines_withoutTags_iff {lines : List Text} :
    (Screen.ofLines lines).printed = (Screen.ofLines (lines.map withoutTags)).printed ↔
      ∀ line ∈ lines, withoutTags line = line := by
  refine ⟨fun h => ?_, fun h => by rw [List.map_congr_left h, List.map_id']⟩
  induction lines with
  | nil => exact fun line hline => absurd hline List.not_mem_nil
  | cons line lines ih =>
    rw [List.map_cons, printed_ofLines_cons, printed_ofLines_cons] at h
    -- Nothing gets longer, so that the first line has to keep its length.
    have hline : (withoutTags line).length = line.length := by
      have hle := (withoutTags_sublist line).length_le
      have hrest := length_withoutTags_le lines
      have hlength := congrArg List.length h
      simp only [List.length_append, List.length_cons] at hlength
      omega
    have hsame := (withoutTags_sublist line).eq_of_length hline
    rw [hsame] at h
    exact List.forall_mem_cons.mpr ⟨hsame, ih (List.cons.inj (List.append_cancel_left h)).2⟩

end Text

namespace CommandLine

open Text

namespace Ending

/-! ### What the user is told -/

/-- The texts that an ending comes with. -/
def texts : Ending → List Text
  | finished _ | interrupted => []
  | refused message hint => message :: hint.toList
  | crashed c => [c.kind, c.text]

/-- The message about a hint, with its style tags. An empty hint is none. -/
def hintMessage : Option Text → List Text
  | none | some [] => []
  | some hint => [marked "yellow".toList "Hint:".toList (' ' :: hint)]

/-- The messages about an ending, with their style tags. -/
def messages : Ending → List Text
  | finished _ => []
  | refused message hint =>
    marked "bold red".toList "Error:".toList (' ' :: message) :: hintMessage hint
  | interrupted => ['\n' :: marked "yellow".toList "Aborted by user.".toList []]
  | crashed c => [marked "bold red".toList "Unexpected error.".toList
      (" Please report this issue.\n  ".toList ++ c.kind ++ ": ".toList ++ c.text)]

/-- What the user is to read about a hint. -/
def hintTold : Option Text → List Text
  | none | some [] => []
  | some hint => ["Hint: ".toList ++ hint]

/-- What the user is to read about an ending. -/
def told : Ending → List Text
  | finished _ => []
  | refused message hint => ("Error: ".toList ++ message) :: hintTold hint
  | interrupted => ["\nAborted by user.".toList]
  | crashed c => ["Unexpected error. Please report this issue.\n  ".toList ++ c.kind ++ ": ".toList
      ++ c.text]

theorem shown_eq (e : Ending) : e.shown = e.messages.map .message := by
  cases e with
  | finished code => rfl
  | refused message hint => rcases hint with _ | _ | ⟨c, hint⟩ <;> rfl
  | interrupted => rfl
  | crashed c => rfl

theorem isTag_styles : IsTag "bold red".toList ∧ IsTag "yellow".toList := by decide

/-- Whatever is told about an ending, its first message has a tag. -/
theorem forall_withoutTags_eq_iff (e : Ending) :
    (∀ message ∈ e.messages, withoutTags message = message) ↔ ∃ code, e = finished code := by
  obtain ⟨hred, hyellow⟩ := isTag_styles
  cases e with
  | finished code => exact iff_of_true (fun _ h => absurd h List.not_mem_nil) ⟨code, rfl⟩
  | refused message hint =>
    refine iff_of_false (fun h => ?_) (by simp)
    exact withoutTags_marked_ne (p := []) (by decide) hred (by decide) _
      (h _ List.mem_cons_self)
  | interrupted =>
    refine iff_of_false (fun h => ?_) (by simp)
    exact withoutTags_marked_ne (p := ['\n']) (by decide) hyellow (by decide) _
      (h _ List.mem_cons_self)
  | crashed c =>
    refine iff_of_false (fun h => ?_) (by simp)
    exact withoutTags_marked_ne (p := []) (by decide) hred (by decide) _
      (h _ List.mem_cons_self)

theorem map_withoutTags_hintMessage {hint : Option Text} (h : ∀ t ∈ hint, '[' ∉ t) :
    (hintMessage hint).map withoutTags = hintTold hint := by
  rcases hint with _ | _ | ⟨c, hint⟩
  · rfl
  · rfl
  · have hrest : '[' ∉ ' ' :: c :: hint :=
      List.not_mem_cons_of_ne_of_not_mem (by decide) (h _ rfl)
    exact congrArg ([·]) (withoutTags_marked_of_not_mem (p := []) (by decide) isTag_styles.2
      (by decide : '[' ∉ "Hint:".toList) hrest)

/-- **Without their tags the messages are what the user is to read**, if no opening bracket comes
from the ending itself. -/
theorem map_withoutTags_messages {e : Ending} (h : ∀ t ∈ e.texts, '[' ∉ t) :
    e.messages.map withoutTags = e.told := by
  obtain ⟨hred, hyellow⟩ := isTag_styles
  cases e with
  | finished code => rfl
  | refused message hint =>
    obtain ⟨hmessage, hhint⟩ := List.forall_mem_cons.mp h
    have hrest : '[' ∉ ' ' :: message := List.not_mem_cons_of_ne_of_not_mem (by decide) hmessage
    have hfirst := withoutTags_marked_of_not_mem (p := []) (by decide) hred
      (by decide : '[' ∉ "Error:".toList) hrest
    have hsecond := map_withoutTags_hintMessage fun t ht => hhint t (Option.mem_toList.mpr ht)
    exact congrArg₂ List.cons hfirst hsecond
  | interrupted =>
    exact congrArg ([·]) (withoutTags_marked_of_not_mem (p := ['\n']) (by decide) hyellow
      (by decide : '[' ∉ "Aborted by user.".toList) List.not_mem_nil)
  | crashed c =>
    obtain ⟨hkind, htext⟩ := List.forall_mem_cons.mp h
    have hrest : '[' ∉
        " Please report this issue.\n  ".toList ++ c.kind ++ ": ".toList ++ c.text := by
      simp only [List.mem_append, not_or]
      exact ⟨⟨⟨by decide, hkind⟩, by decide⟩, htext _ List.mem_cons_self⟩
    exact congrArg ([·]) (withoutTags_marked_of_not_mem (p := []) (by decide) hred
      (by decide : '[' ∉ "Unexpected error.".toList) hrest)

end Ending

/-! ### The statement -/

theorem allLines?_messages (texts : List Text) :
    Print.allLines? (texts.map .message) = some texts := by
  induction texts with
  | nil => rfl
  | cons t texts ih =>
    exact Print.allLines?_append (rfl : Print.allLines? [.message t] = some [t]) ih

theorem flatMap_calls_shown (e : Ending) :
    e.shown.flatMap Display.calls = e.messages.map .printMessage := by
  rw [e.shown_eq, List.flatMap_map, ← List.flatMap_pure_eq_map]
  rfl

/-- **An ending is told in its messages**, which are handed to the library, as long as it draws
them, or printed as they are. -/
theorem ofEnding_eq {e : Ending} {mode : DrawingMode}
    (hdraws : mode.Draws (Transcript.ofEnding mode e).drawn) :
    Transcript.ofEnding mode e = .ofConclusion
      ⟨e.code, mode.screen (e.messages.map .printMessage) e.messages, none⟩ := by
  have hnone : ∀ d ∈ ([] : List Display), d.IsPresentable := fun _ hd => absurd hd List.not_mem_nil
  obtain ⟨lines, hlines, hconclude⟩ := conclude_eq hnone e
  have hprints : ([] ++ e.shown).flatMap Display.prints = e.messages.map .message := by
    rw [List.nil_append, e.shown_eq, List.flatMap_map, ← List.flatMap_pure_eq_map]
    rfl
  rw [hprints, allLines?_messages] at hlines
  obtain rfl := Option.some.inj hlines
  rw [List.nil_append, flatMap_calls_shown] at hconclude
  have hall := (draws_conclude_iff mode [] e).mp hdraws
  rw [List.nil_append, flatMap_calls_shown] at hall
  exact congrArg Transcript.ofConclusion (hconclude mode hall)

/-- **The style tags are printed where nothing draws them.** A library is handed the messages about
an ending, all of them if it raises no error, and displays them without their tags. If no opening
bracket comes from the ending itself, this is what the user is to read. Where the library is not
installed the same messages are printed with their tags, so that the user reads the same in both
cases exactly if nothing is told, that is if the run has just finished. -/
theorem printed_eq_withoutTags_iff (library : DrawingLibrary) (e : Ending) :
    let plain := Transcript.ofEnding .absent e
    let rich := Transcript.ofEnding (.present library) e
    ∃ handed : List Text,
      (rich.drawn <+: handed.map .printMessage ∧
        (library.Draws [] rich.drawn → rich.drawn = handed.map .printMessage) ∧
        rich.printed = library.writes [] rich.drawn) ∧
      (plain.printed = (Screen.ofLines handed).printed ∧ plain.drawn = []) ∧
      (plain.printed = (Screen.ofLines (handed.map withoutTags)).printed ↔
        ∃ code, e = .finished code) ∧
      ((∀ t ∈ e.texts, '[' ∉ t) → handed.map withoutTags = e.told) := by
  intro plain rich
  have habsent : plain = _ := ofEnding_eq (DrawingMode.draws_absent _)
  have hplain : plain.printed = (Screen.ofLines e.messages).printed := by
    rw [habsent]
    rfl
  refine ⟨e.messages, ⟨?_, fun hdraws => ?_, ?_⟩, ⟨hplain, ?_⟩, ?_, Ending.map_withoutTags_messages⟩
  · rw [← flatMap_calls_shown]
    exact isPrefix_drawn_ofEnding library e
  · have hpresent : rich = _ := ofEnding_eq (DrawingMode.draws_present_iff.mpr hdraws)
    rw [hpresent]
    rfl
  · exact (drawn_conclude library [] e).printed_eq
  · rw [habsent]
    rfl
  · rw [hplain, ofLines_withoutTags_iff, e.forall_withoutTags_eq_iff]

/-- A closing bracket of its own and an empty hint: the error is displayed without the tags. -/
theorem printed_eq_withoutTags_bracket :
    let e : Ending := .refused "no ]".toList (some [])
    let rich := Transcript.ofEnding (.present .silent) e
    DrawingLibrary.silent.Draws [] rich.drawn ∧ (∀ t ∈ e.texts, '[' ∉ t) ∧
      ∃ handed : List Text,
        rich.drawn = handed.map .printMessage ∧
        handed.map withoutTags = ["Error: no ]".toList] ∧
        (Transcript.ofEnding .absent e).printed ≠
          (Screen.ofLines (handed.map withoutTags)).printed := by
  intro e rich
  have hdraws : DrawingLibrary.silent.Draws [] rich.drawn := DrawingLibrary.draws_silent [] _
  obtain ⟨handed, ⟨-, hdrawn, -⟩, -, hiff, htold⟩ := printed_eq_withoutTags_iff .silent e
  have htexts : ∀ t ∈ e.texts, '[' ∉ t := by decide
  refine ⟨hdraws, htexts, handed, hdrawn hdraws, htold htexts, fun h => ?_⟩
  obtain ⟨code, hcode⟩ := hiff.mp h
  exact nomatch hcode

/-- An error with a hint, neither with a bracket: without the library, the user reads the tags of
both messages. -/
theorem tags_read_as_text :
    let e : Ending := .refused "boom".toList (some "try this".toList)
    let handed : List Text := ["[bold red]Error:[/bold red] boom".toList,
      "[yellow]Hint:[/yellow] try this".toList]
    (∀ t ∈ e.texts, '[' ∉ t) ∧
    (Transcript.ofEnding (.present .silent) e).drawn = handed.map .printMessage ∧
    (Screen.ofLines (handed.map withoutTags)).printed =
      "Error: boom\nHint: try this\n".toList ∧
    (Transcript.ofEnding .absent e).printed =
      "[bold red]Error:[/bold red] boom\n[yellow]Hint:[/yellow] try this\n".toList ∧
    ¬∀ e : Ending, (∀ t ∈ e.texts, '[' ∉ t) → ∀ handed : List Text,
      (Transcript.ofEnding (.present .silent) e).drawn = handed.map .printMessage →
      (Transcript.ofEnding .absent e).printed =
        (Screen.ofLines (handed.map withoutTags)).printed := by
  intro e handed
  have htexts : ∀ t ∈ e.texts, '[' ∉ t := by decide
  have hdrawn : (Transcript.ofEnding (.present .silent) e).drawn = handed.map .printMessage := by
    decide +kernel
  have hdisplayed : (Screen.ofLines (handed.map withoutTags)).printed =
      "Error: boom\nHint: try this\n".toList := by decide +kernel
  have hprinted : (Transcript.ofEnding .absent e).printed =
      "[bold red]Error:[/bold red] boom\n[yellow]Hint:[/yellow] try this\n".toList := by
    decide +kernel
  refine ⟨htexts, hdrawn, hdisplayed, hprinted, fun halways => ?_⟩
  have hsame := halways e htexts handed hdrawn
  rw [hprinted, hdisplayed] at hsame
  exact absurd hsame (by decide +kernel)

end CommandLine

end MediaCatalog
