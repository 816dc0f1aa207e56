import LayoutLang.Proofs.Compile
import LayoutLang.Proofs.Resolution.Checks
import LayoutLang.Proofs.Statement.Expected
import LayoutLang.Proofs.Statement.Written

/-!
# A rejection points at its cause

The span of a rejection selects a piece of the text that was compiled, and this piece is what the
rejection is about: the character that starts no token, the place in front of the token that cannot
follow, or the name or number that fails a check.  `Rejection.Located` says this for each reason.

For the checks it rests on two facts.  What is reported is one of the checks of the statement, and
these blame its names and operands and nothing else, also where a sum or a quotient is what fails.
And the names and operands of a statement stand in the text where their spans say.
-/

namespace LayoutLang

open Resolution (Check Failure Kind)
open Statement (IsStatement)
open Token (IsIdentifier Placed ReadFrom)

variable {View : Type} {tables : Tables View} {metrics : Table Binary64} {settings : Settings}
  {text : List Char}

/-! ## What is located where -/

/-- The kinds that blame a name for standing for nothing.  The others blame the value of an
operand. -/
def Resolution.Kind.isUnknown : Kind → Bool
  | .unknownView => true
  | .unknownAttribute => true
  | .unknownMetric => true
  | _ => false

/-- The span of a failure selects what is blamed: the name that is unknown, the name of a metric, or
what is written for a number. -/
inductive Resolution.Failure.Located (metrics : Table Binary64) (text : List Char) : Failure → Prop
  | unknown {kind : Kind} {n : String} {span : Span} : kind.isUnknown = true →
      span.Selects text n.toList → Located metrics text ⟨kind, n, span⟩
  | metric {kind : Kind} {n : String} {span : Span} : kind.isUnknown = false →
      span.Selects text n.toList → IsIdentifier n.toList → (metrics.find? n).isSome = true →
      Located metrics text ⟨kind, n, span⟩
  | number {kind : Kind} {w : List Char} {x : Binary64} {span : Span} : kind.isUnknown = false →
      span.Selects text w → IsLiteral w x → Located metrics text ⟨kind, x.text, span⟩

/-- The span of a rejection selects its cause.  A syntax error lies in front of the token that was
found, or behind the last one, and selects nothing. -/
inductive Rejection.Located (tables : Tables View) (text : String) : Rejection → Prop
  | lexical {u : Token.Unexpected} : u.span.Selects text.toList [u.character] →
      Located tables text (.lexical u)
  | token {e : SyntaxError} {tokens : List Placed} {t : Placed} :
      Token.tokenize text = .ok tokens → t ∈ tokens → e.found = t.token.kind →
      e.position = t.span.start → e.span.Selects text.toList [] →
      Located tables text (.syntactic e)
  | ending {e : SyntaxError} {tokens : List Placed} : Token.tokenize text = .ok tokens →
      e.found = .endOfInput → e.position = Statement.endOffset tokens →
      e.span.Selects text.toList [] → Located tables text (.syntactic e)
  | resolution {f : Failure} : f.Located tables.metrics text.toList →
      Located tables text (.resolution f)

theorem Resolution.Failure.Located.exists_piece {f : Failure} (h : f.Located metrics text) :
    ∃ piece, f.span.Selects text piece := by
  cases h with
  | unknown _ hspan => exact ⟨_, hspan⟩
  | metric _ hspan _ _ => exact ⟨_, hspan⟩
  | number _ hspan _ => exact ⟨_, hspan⟩

theorem Rejection.Located.exists_piece {text : String} {e : Rejection} (h : e.Located tables text) :
    ∃ piece, e.span.Selects text.toList piece := by
  cases h with
  | lexical hspan => exact ⟨_, hspan⟩
  | token _ _ _ _ hspan => exact ⟨_, hspan⟩
  | ending _ _ _ hspan => exact ⟨_, hspan⟩
  | resolution hf => exact hf.exists_piece

/-! ## Checks -/

/-- Whatever check of a list fails, what it blames is located. -/
def Resolution.AllLocated (metrics : Table Binary64) (text : List Char) (cs : List Check) : Prop :=
  ∀ c ∈ cs, ¬ c.Passes → c.failure.Located metrics text

namespace Resolution.AllLocated

variable {cs ds : List Check}

theorem nil : AllLocated metrics text [] := by simp [AllLocated]

theorem append (hcs : AllLocated metrics text cs) (hds : AllLocated metrics text ds) :
    AllLocated metrics text (cs ++ ds) := by
  intro c hc
  rcases List.mem_append.mp hc with hc | hc
  · exact hcs c hc
  · exact hds c hc

theorem cons {c : Check} (hc : ¬ c.Passes → c.failure.Located metrics text)
    (hcs : AllLocated metrics text cs) : AllLocated metrics text (c :: cs) := by
  intro d hd
  rcases List.mem_cons.mp hd with rfl | hd
  · exact hc
  · exact hcs d hd

/-- Checks of a part that may be missing. -/
theorem elim {α : Type} {o : Option α} {f : α → List Check}
    (h : ∀ a ∈ o, AllLocated metrics text (f a)) : AllLocated metrics text (o.elim [] f) := by
  cases o with
  | none => exact nil
  | some a => exact h a rfl

end Resolution.AllLocated

open Resolution (AllLocated)

/-- A check of a value fails only if there is a value, so that the name of an operand is known. -/
theorem Operand.located_of_check {o : Operand} (ho : o.Written text) {kind : Kind}
    (hkind : kind.isUnknown = false) {p : Binary64 → Prop} (h : ¬ (o.check metrics kind p).Passes) :
    (o.check metrics kind p).failure.Located metrics text := by
  cases o with
  | number x span =>
      obtain ⟨w, hspan, hw⟩ := ho
      exact .number hkind hspan hw
  | name n =>
      have hknown : (metrics.find? n.text).isSome = true := by
        by_contra hnone
        rw [Option.not_isSome_iff_eq_none] at hnone
        exact h (by simp [check, value?, hnone])
      exact .metric hkind ho.selects ho.identifier hknown

theorem Operand.allLocated {o : Operand} (ho : o.Written text) :
    AllLocated metrics text (o.checks metrics) := by
  refine .cons ?_ (.cons (located_of_check ho rfl) .nil)
  intro hunknown
  cases o with
  | number x span => exact absurd rfl hunknown
  | name n => exact .unknown rfl ho.selects

theorem Operand.allLocated_check {o : Operand} (ho : o.Written text) {kind : Kind}
    (hkind : kind.isUnknown = false) (p : Binary64 → Prop) :
    AllLocated metrics text [o.check metrics kind p] :=
  .cons (located_of_check ho hkind) .nil

theorem Term.allLocated {t : Term} (ht : t.Written text) :
    AllLocated tables.metrics text (t.checks tables) := by
  refine .cons (fun _ => .unknown rfl ht.object.selects) (.append (.elim ?_) (.elim ?_))
  · intro n hn
    exact .cons (fun _ => .unknown rfl (ht.part n hn).selects) .nil
  · intro o ho
    exact Operand.allLocated (ht.multiplier o ho)

theorem RightSide.allLocated {rs : RightSide} (hrs : rs.Written text) :
    AllLocated tables.metrics text (rs.checks tables) := by
  cases rs with
  | term t => exact Term.allLocated hrs
  | value o =>
      cases o with
      | number x span => exact Operand.allLocated hrs
      | name n =>
          rw [checks]
          split
          · exact .nil
          · exact Operand.allLocated hrs

theorem Statement.allLocated {s : Statement} (hs : s.Written text) :
    AllLocated tables.metrics text (s.checks settings tables) := by
  have hfactor := hs.first.multiplier
  refine .append (Term.allLocated hs.first) (.append (.elim fun o ho => ?_)
    (.append (RightSide.allLocated hs.second) (.append (.elim fun a ha => ?_)
      (.append (.elim fun o ho => ?_) (.elim fun o ho => ?_)))))
  · exact Operand.allLocated_check (hfactor o ho) rfl _
  · exact .append (Operand.allLocated (hs.constant a ha))
      (Operand.allLocated_check (hs.constant a ha) rfl _)
  · exact Operand.allLocated_check (hfactor o ho) rfl _
  · exact .append (Operand.allLocated (hs.priority o ho))
      (Operand.allLocated_check (hs.priority o ho) rfl _)

theorem Statement.located_of_resolve_error {s : Statement} {f : Failure} (hs : s.Written text)
    (h : s.resolve settings tables = .error f) : f.Located tables.metrics text := by
  obtain ⟨before, c, after, hchecks, -, hfails, rfl⟩ :=
    (Statement.makes_checks settings tables s).eq_error_iff.mp h
  have hmem : c ∈ s.checks settings tables := by
    rw [hchecks]
    exact List.mem_append_right _ List.mem_cons_self
  exact Statement.allLocated hs c hmem hfails

/-! ## Whole texts -/

/-- The end of the last token is a place in the text, and so is the start of a text without any. -/
theorem selects_endOffset {tokens : List Placed} (h : ReadFrom text tokens) :
    Span.Selects ⟨Statement.endOffset tokens, Statement.endOffset tokens⟩ text [] := by
  unfold Statement.endOffset
  split
  · next t ht =>
    obtain ⟨w, hspan, -⟩ := h.piece t (List.mem_of_getLast? ht)
    exact hspan.at_stop
  · exact ⟨[], text, rfl, rfl⟩

theorem located_of_syntaxError {text : String} {tokens : List Placed} {e : SyntaxError}
    (htokens : Token.tokenize text = .ok tokens) (h : Statement.ofTokens tokens = .error e) :
    (Rejection.syntactic e).Located tables text := by
  have hread := Token.readFrom_of_tokenize htokens
  obtain ⟨used, rest, rfl, htrue⟩ := Statement.exists_isTrueOf_of_error h
  have hposition := htrue.position
  cases rest with
  | nil =>
      rw [List.append_nil] at htokens hread
      refine .ending htokens htrue.found hposition ?_
      rw [SyntaxError.span, hposition]
      exact selects_endOffset hread
  | cons t rest =>
      have ht : t ∈ used ++ t :: rest := List.mem_append_right _ List.mem_cons_self
      obtain ⟨w, hspan, -⟩ := hread.piece t ht
      refine .token htokens ht htrue.found hposition ?_
      rw [SyntaxError.span, hposition]
      exact hspan.at_start

/-- A view whose name has characters of more than one byte. -/
def sizedTables : Tables Nat where
  views := ⟨[("größe", 0)]⟩

end LayoutLang
