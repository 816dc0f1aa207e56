import LayoutLang.Proofs.Compile
import LayoutLang.Proofs.Resolution.Unplaced
import LayoutLang.Proofs.Token.Spaced

/-!
# Blanks between tokens carry no meaning

Two texts of the same words compile to the same constraint, or are rejected for the same reason at
another place.  Each stage gives its part: texts of the same words have the same tokens, the same
tokens are the same statement, and the same statement is resolved to the same.  What is only equal
up to places is handed from one stage to the next.
-/

namespace LayoutLang

open Resolution (Failure)
open Statement (IsStatement)
open Token (Spaced)

/-- The reason for a rejection, but not its place. -/
def Rejection.unplaced : Rejection → Rejection
  | .lexical u => .lexical ⟨0, u.character⟩
  | .syntactic e => .syntactic e.unplaced
  | .resolution f => .resolution f.unplaced

variable {View : Type} {settings : Settings} {tables : Tables View}
variable {words : List (List Char)} {text text' : String}

/-! ## From stage to stage -/

/-- What is a statement stays one, and what comes of it stays the same but for places. -/
theorem exists_statement_of_spaced (settings : Settings) (tables : Tables View)
    (h : Spaced words text.toList) (h' : Spaced words text'.toList) {ts : List Token.Placed}
    {s : Statement} (hts : Token.tokenize text = .ok ts) (hs : IsStatement ts s) :
    ∃ ts' s', Token.tokenize text' = .ok ts' ∧ IsStatement ts' s'
      ∧ (s'.resolve settings tables).mapError Failure.unplaced
        = (s.resolve settings tables).mapError Failure.unplaced := by
  obtain ⟨ts', hts', htokens⟩ := Token.tokenize_eq_ok_of_spaced h h' hts
  obtain ⟨s', hs', hunplaced⟩ := hs.replaced htokens
  refine ⟨ts', s', hts', hs', ?_⟩
  rw [s'.resolve_unplaced, s.resolve_unplaced, hunplaced]

/-- A text compiles as the other of the same words does. -/
theorem compile_eq_ok_of_spaced (h : Spaced words text.toList) (h' : Spaced words text'.toList)
    {c : Constraint View} (hc : compile settings tables text = .ok c) :
    compile settings tables text' = .ok c := by
  obtain ⟨ts, s, r, hts, hs, hr, rfl⟩ := compile_eq_ok.mp hc
  obtain ⟨ts', s', hts', hs', hresolve⟩ := exists_statement_of_spaced settings tables h h' hts hs
  rw [hr] at hresolve
  exact compile_eq_ok.mpr ⟨ts', s', r, hts', hs', Outcome.mapError_eq_ok.mp hresolve, rfl⟩

/-- It is rejected as the other is. -/
theorem compile_eq_error_of_spaced (h : Spaced words text.toList) (h' : Spaced words text'.toList)
    {e : Rejection} (he : compile settings tables text = .error e) :
    ∃ e', compile settings tables text' = .error e' ∧ e'.unplaced = e.unplaced := by
  rcases compile_eq_error.mp he with
    ⟨u, hu, rfl⟩ | ⟨ts, se, hts, hse, rfl⟩ | ⟨ts, s, f, hts, hs, hf, rfl⟩
  · obtain ⟨u', hu', hcharacter⟩ := Token.tokenize_eq_error_of_spaced h h' hu
    refine ⟨.lexical u', compile_eq_error.mpr (.inl ⟨u', hu', rfl⟩), ?_⟩
    rw [Rejection.unplaced, Rejection.unplaced, hcharacter]
  · obtain ⟨ts', hts', htokens⟩ := Token.tokenize_eq_ok_of_spaced h h' hts
    obtain ⟨se', hse', hunplaced⟩ := Statement.ofTokens_error_replaced hse htokens
    exact ⟨.syntactic se', compile_eq_error.mpr (.inr (.inl ⟨ts', se', hts', hse', rfl⟩)),
      congrArg Rejection.syntactic hunplaced⟩
  · obtain ⟨ts', s', hts', hs', hresolve⟩ := exists_statement_of_spaced settings tables h h' hts hs
    rw [hf] at hresolve
    obtain ⟨f', hf', hunplaced⟩ := Outcome.mapError_eq_error.mp hresolve
    exact ⟨.resolution f', compile_eq_error.mpr (.inr (.inr ⟨ts', s', f', hts', hs', hf', rfl⟩)),
      congrArg Rejection.resolution hunplaced⟩

/-! ## Texts of the same words -/

/-- Every text has words with gaps of blanks between them, and what is compiled depends on the words
alone.  With other gaps, and with any at the ends, the same constraint is compiled, or the text is
rejected for the same reason at another place. -/
theorem compile_of_spaced (settings : Settings) (tables : Tables View) :
    (∀ text : String, ∃ words, Spaced words text.toList)
      ∧ ∀ (words : List (List Char)) (text text' : String), Spaced words text.toList →
          Spaced words text'.toList →
          (compile settings tables text).mapError Rejection.unplaced
            = (compile settings tables text').mapError Rejection.unplaced := by
  refine ⟨fun text => Token.exists_spaced text.toList, ?_⟩
  intro words text text' h h'
  cases hcompile : compile settings tables text with
  | ok c => rw [compile_eq_ok_of_spaced h h' hcompile]
  | error e =>
      obtain ⟨e', he', hunplaced⟩ := compile_eq_error_of_spaced h h' hcompile
      rw [he']
      exact congrArg Except.error hunplaced.symm

/-- A text that ends behind the sign of an addend. -/
def unfinished : String := "v.width = - 4 *s +"

/-- The same words, each on a line. -/
def unfinishedLines : String := "\tv.width\r\n=\n-\n4\n*s\n+\x0c"

def unfinishedWords : List (List Char) :=
  ["v.width", "=", "-", "4", "*s", "+"].map String.toList

theorem compile_of_spaced_unfinished :
    (Spaced unfinishedWords unfinished.toList ∧ Spaced unfinishedWords unfinishedLines.toList)
      ∧ compile {} ({} : Tables Nat) unfinished
        = .error (.syntactic ⟨18, [.number, .identifier], .endOfInput⟩)
      ∧ compile {} ({} : Tables Nat) unfinishedLines
        = .error (.syntactic ⟨20, [.number, .identifier], .endOfInput⟩)
      ∧ (compile {} ({} : Tables Nat) unfinished).mapError Rejection.unplaced
        = (compile {} ({} : Tables Nat) unfinishedLines).mapError Rejection.unplaced := by
  have hspaced : Spaced unfinishedWords unfinished.toList := by decide +kernel
  have hlines : Spaced unfinishedWords unfinishedLines.toList := by decide +kernel
  exact ⟨⟨hspaced, hlines⟩, by decide +kernel, by decide +kernel,
    (compile_of_spaced {} {}).2 unfinishedWords unfinished unfinishedLines hspaced hlines⟩

end LayoutLang
