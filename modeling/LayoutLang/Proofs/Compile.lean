import LayoutLang.Compile
import LayoutLang.Proofs.Resolution
import LayoutLang.Proofs.Statement.Grammar

/-!
# When a text compiles

A text compiles if it has tokens, these are a statement of the grammar, and the statement is
resolved; the constraint is then built from the resolution.  Whatever is proved about compiled texts
starts from `compile_eq_ok`, so that it rests on the grammar and the checks and not on the order in
which compiling runs them.  What is proved about rejected texts starts from `compile_eq_error`.
-/

namespace LayoutLang

open Statement (IsStatement)

theorem Statement.ofText_eq_ok {text : String} {s : Statement} :
    Statement.ofText text = .ok s ↔
      ∃ tokens, Token.tokenize text = .ok tokens ∧ IsStatement tokens s := by
  simp only [Statement.ofText, Outcome.bind_eq_ok, Outcome.mapError_eq_ok, Statement.ofTokens_eq_ok]

/-- The three stages of compiling, and what is built from the last. -/
theorem compile_eq_ok {View : Type} {settings : Settings} {tables : Tables View} {text : String}
    {c : Constraint View} :
    compile settings tables text = .ok c ↔ ∃ tokens s r, Token.tokenize text = .ok tokens
      ∧ IsStatement tokens s ∧ s.resolve settings tables = .ok r
      ∧ Constraint.ofResolution settings r = c := by
  simp only [compile, Outcome.bind_eq_ok, Outcome.mapError_eq_ok, Statement.ofText_eq_ok]
  constructor
  · rintro ⟨s, ⟨tokens, htokens, hs⟩, r, hr, h⟩
    exact ⟨tokens, s, r, htokens, hs, hr, Except.ok.inj h⟩
  · rintro ⟨tokens, s, r, htokens, hs, hr, rfl⟩
    exact ⟨s, ⟨tokens, htokens, hs⟩, r, hr, rfl⟩

/-- The three reasons for which a text may be rejected, each behind the stages that succeed. -/
theorem compile_eq_error {View : Type} {settings : Settings} {tables : Tables View} {text : String}
    {e : Rejection} :
    compile settings tables text = .error e ↔
      (∃ u, Token.tokenize text = .error u ∧ .lexical u = e)
      ∨ (∃ tokens se, Token.tokenize text = .ok tokens ∧ Statement.ofTokens tokens = .error se
        ∧ .syntactic se = e)
      ∨ ∃ tokens s f, Token.tokenize text = .ok tokens ∧ IsStatement tokens s
        ∧ s.resolve settings tables = .error f ∧ .resolution f = e := by
  have htext : Statement.ofText text = .error e ↔
      (∃ u, Token.tokenize text = .error u ∧ .lexical u = e)
        ∨ ∃ tokens se, Token.tokenize text = .ok tokens ∧ Statement.ofTokens tokens = .error se
          ∧ .syntactic se = e := by
    simp only [Statement.ofText, Outcome.bind_eq_error, Outcome.mapError_eq_error,
      Outcome.mapError_eq_ok, exists_and_left]
  simp only [compile, Outcome.bind_eq_error, htext, Statement.ofText_eq_ok,
    Outcome.mapError_eq_error, or_assoc]
  refine or_congr_right (or_congr_right ?_)
  constructor
  · rintro ⟨s, ⟨tokens, htokens, hs⟩, ⟨f, hf, he⟩ | ⟨r, -, hr⟩⟩
    · exact ⟨tokens, s, f, htokens, hs, hf, he⟩
    · cases hr
  · rintro ⟨tokens, s, f, htokens, hs, hf, he⟩
    exact ⟨s, ⟨tokens, htokens, hs⟩, .inl ⟨f, hf, he⟩⟩

end LayoutLang
