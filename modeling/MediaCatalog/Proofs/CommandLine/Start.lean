import MediaCatalog.CommandLine.Request

/-!
# Arguments that start with a command

Where the arguments start with the name of a command, all the others are for the page of that
command. The switch for a verbose log can come before the name, and has no part in what is read
after it (`MediaCatalog.CommandLine.ofArgs_start_eq_ok_iff`). The page of the program is asked about
the arguments once more: none of them may be an ambiguous abbreviation there.
-/

namespace MediaCatalog.CommandLine

/-! ### Texts and switches -/

/-- A text that does not begin with a dash, and is not taken for a switch. -/
def Undashed (t : Text) : Prop := t.head? ≠ some '-'

instance : DecidablePred Undashed := fun t => inferInstanceAs (Decidable (t.head? ≠ some '-'))

namespace Token

theorem ofArg_of_undashed {t : Text} (h : Undashed t) (p : Page) : ofArg p t = .plain t := by
  rw [ofArg.eq_def]
  split
  · exact absurd rfl h
  · exact absurd rfl h
  · exact absurd rfl h
  · rfl

end Token

/-- The name of the command divides the arguments of the program. -/
theorem divide_command {t : Text} (ht : Undashed t) (found : Findings) (rest : List Text) :
    divide found (t :: rest) = .ok ⟨found, some (t, rest)⟩ := by
  simp only [divide, Token.ofArg_of_undashed ht]

/-! ### The start -/

/-- The switch for a verbose log, if it is given. -/
def verboseArgs : Bool → List Text
  | true => [Switch.verbose.short]
  | false => []

theorem undashed_spelling (c : CommandName) : Undashed c.spelling := by
  cases c <;> decide

theorem ofSpelling?_spelling (c : CommandName) : CommandName.ofSpelling? c.spelling = some c := by
  cases c <;> rfl

theorem ofArg_verbose : Token.ofArg .program Switch.verbose.short = .switches [] .verbose none := by
  decide

/-- The start of the arguments is not an ambiguous abbreviation. -/
theorem checkAbbreviations_start (verbose : Bool) (c : CommandName) (rest : List Text) :
    checkAbbreviations .program (verboseArgs verbose ++ c.spelling :: rest) =
      checkAbbreviations .program rest := by
  have hspelling := Token.ofArg_of_undashed (undashed_spelling c) .program
  cases verbose <;>
    simp only [verboseArgs, List.nil_append, List.cons_append, checkAbbreviations, ambiguity,
      ofArg_verbose, hspelling]

/-- The start of the arguments divides them at the command. -/
theorem divide_start (verbose : Bool) (c : CommandName) (rest : List Text) :
    divide {} (verboseArgs verbose ++ c.spelling :: rest) =
      .ok ⟨{ verbose := verbose }, some (c.spelling, rest)⟩ := by
  cases verbose with
  | false => exact divide_command (undashed_spelling c) _ _
  | true =>
    rw [verboseArgs, List.cons_append, List.nil_append, divide, ofArg_verbose]
    exact divide_command (undashed_spelling c) _ _

/-- **Arguments that start with a command** ask for what its page reads in the others, with the log
verbose or not. -/
theorem ofArgs_start_eq_ok_iff {verbose : Bool} {c : CommandName} {rest : List Text}
    {request : Request} :
    Request.ofArgs (verboseArgs verbose ++ c.spelling :: rest) = .ok request ↔
      checkAbbreviations .program rest = .ok () ∧ readPage c rest = .ok (request.command, []) ∧
        request.verbose = verbose := by
  have hread : readCommand c.spelling rest = readPage c rest := by
    rw [readCommand, ofSpelling?_spelling]
  rw [Request.ofArgs, checkAbbreviations_start, divide_start]
  simp only [bind, Except.bind, hread]
  -- What can still go wrong is an ambiguous abbreviation, the page itself, or what it leaves over.
  cases checkAbbreviations .program rest with
  | error halt => simp
  | ok u =>
    cases readPage c rest with
    | error halt => simp
    | ok read =>
      obtain ⟨command, extras⟩ := read
      obtain ⟨verbose', command'⟩ := request
      cases extras with
      | nil =>
        simp only [List.append_nil, refuseExtras, pure, Except.pure, Except.ok.injEq,
          Request.mk.injEq, Prod.mk.injEq, true_and, and_true]
        exact ⟨fun ⟨hverbose, hcommand⟩ => ⟨hcommand, hverbose.symm⟩,
          fun ⟨hcommand, hverbose⟩ => ⟨hverbose.symm, hcommand⟩⟩
      | cons extra extras => simp [refuseExtras]

end MediaCatalog.CommandLine
