import LayoutLang.Proofs.Token.Spaced
import Mathlib.Data.List.Chain

/-!
# Tokens laid down one behind another

A text is written down lexeme by lexeme: the text of a token, some blanks behind it, then the next
one.  The blanks may be missing, except where the two lexemes would run together.  Only names and
numbers can: a name takes in the letters and digits behind it, and a number the digits.

The tokens of such a text are those that were laid down, at the offsets where they were
(`tokenize_spelled`), because nothing that stands behind a lexeme continues it (`ends_of_spells`).
And every text that has tokens is such a text (`exists_lexemes_of_scanned`): without a blank, two
lexemes that run together would not be the longest match (`Spells.concat`).
-/

namespace LayoutLang.Token

open Decimal (IsDigits IsNumeral)
open Text (byteLength)

/-! ## Lexemes -/

/-- A text of a token and the blanks behind it. -/
structure Lexeme where
  token : Token
  text : List Char
  gap : List Char
  spells : Spells text token
  isGap : IsGap gap

/-- Whether the tokens of a kind start with a letter or a digit. -/
def Kind.isWord : Kind → Bool
  | .identifier => true
  | .dotted => true
  | .number => true
  | _ => false

/-- Whether a token of the one kind takes in the start of a token of the other, if no blank is
between them. -/
def Kind.runsInto : Kind → Kind → Bool
  | .identifier, k => k.isWord
  | .dotted, k => k.isWord
  | .number, .number => true
  | _, _ => false

/-- A blank stands between two lexemes if they would run together without it. -/
def Lexeme.Apart (l l' : Lexeme) : Prop :=
  l.token.kind.runsInto l'.token.kind = true → l.gap ≠ []

/-- The text of some lexemes. -/
def spelled (ls : List Lexeme) : List Char := ls.flatMap fun l => l.text ++ l.gap

/-- The tokens of some lexemes that are laid down from an offset on. -/
def laidDown : Nat → List Lexeme → List Placed
  | _, [] => []
  | offset, l :: ls =>
    ⟨l.token, ⟨offset, offset + byteLength l.text⟩⟩
      :: laidDown (offset + byteLength l.text + byteLength l.gap) ls

theorem spelled_cons (l : Lexeme) (ls : List Lexeme) :
    spelled (l :: ls) = l.text ++ (l.gap ++ spelled ls) := by
  rw [spelled, List.flatMap_cons, List.append_assoc]
  rfl

/-! ## What a lexeme starts with -/

/-- No operator continues an identifier, and none starts with a point. -/
theorem not_continuesIdentifier_of_mem_operatorHeads {c : Char} (h : c ∈ operatorHeads) :
    continuesIdentifier c = false ∧ c ≠ '.' := by
  simp only [operatorHeads, List.mem_cons, List.not_mem_nil, or_false] at h
  rcases h with rfl | rfl | rfl | rfl | rfl | rfl | rfl <;> decide +kernel

namespace Kind.StartsWith

variable {k : Kind} {c : Char}

/-- Digits are what numbers take in. -/
theorem isDigit_eq (h : k.StartsWith c) : c.isDigit = Kind.number.runsInto k := by
  cases k with
  | number => exact h
  | identifier => exact not_isDigit_of_startsIdentifier h
  | dotted => exact not_isDigit_of_startsIdentifier h
  | _ => exact (of_mem_operatorHeads h).1

/-- Letters and digits are what names take in. -/
theorem continuesIdentifier_eq (h : k.StartsWith c) : continuesIdentifier c = k.isWord := by
  cases k with
  | number => exact continuesIdentifier_of_isDigit h
  | identifier => exact continuesIdentifier_of_startsIdentifier h
  | dotted => exact continuesIdentifier_of_startsIdentifier h
  | _ => exact (not_continuesIdentifier_of_mem_operatorHeads h).1

theorem ne_point (h : k.StartsWith c) : c ≠ '.' := by
  have hstart : startsIdentifier '.' = false := not_startsIdentifier_of_lt (by decide)
  rintro rfl
  cases k with
  | number => cases h
  | identifier => cases hstart.symm.trans h
  | dotted => cases hstart.symm.trans h
  | _ => exact (not_continuesIdentifier_of_mem_operatorHeads h).2 rfl

end Kind.StartsWith

/-! ## Where a lexeme ends -/

/-- The start of a lexeme ends every token that does not run into it. -/
theorem ends_of_spells {w after : List Char} {t t' : Token} (hw : Spells w t')
    (h : t.kind.runsInto t'.kind = false) : Ends t (w ++ after) := by
  obtain ⟨c, rest, rfl, hc⟩ := hw.startsWith
  cases t with
  | number x =>
      have hdigit := hc.isDigit_eq.trans h
      simpa [Ends] using And.intro hdigit hc.ne_point
  | identifier n =>
      have hcontinues := hc.continuesIdentifier_eq.trans h
      simpa [Ends] using And.intro hcontinues hc.ne_point
  | dotted owner member =>
      have hcontinues := hc.continuesIdentifier_eq.trans h
      simpa [Ends] using hcontinues
  | _ => trivial

theorem isDigits_concat {ds : List Char} {c : Char} (hds : IsDigits ds) (hc : c.isDigit = true) :
    IsDigits (ds ++ [c]) :=
  ⟨by simp, List.forall_mem_append.mpr ⟨hds.2, List.forall_mem_singleton.mpr hc⟩⟩

theorem isIdentifier_concat {w : List Char} {c : Char} (hw : IsIdentifier w)
    (hc : continuesIdentifier c = true) : IsIdentifier (w ++ [c]) := by
  cases hw with
  | mk hhead hrest =>
      exact .mk hhead (List.forall_mem_append.mpr ⟨hrest, List.forall_mem_singleton.mpr hc⟩)

/-- A token that runs into a lexeme is longer with the first character of it. -/
theorem Spells.concat {w : List Char} {t : Token} {k : Kind} {c : Char} (h : Spells w t)
    (hk : t.kind.runsInto k = true) (hc : k.StartsWith c) : ∃ u, Spells (w ++ [c]) u := by
  cases h with
  | number hw _ =>
      have hdigit := hc.isDigit_eq.trans hk
      cases hw with
      | whole hds =>
          have hlonger := isDigits_concat hds hdigit
          exact ⟨_, .number (.whole hlonger) (Binary64.ofText_whole hlonger)⟩
      | point hds hfs =>
          have hlonger := isDigits_concat hfs hdigit
          rw [List.append_assoc, List.cons_append]
          exact ⟨_, .number (.point hds hlonger) (Binary64.ofText_point hds hlonger)⟩
  | identifier hw =>
      have hcontinues := hc.continuesIdentifier_eq.trans hk
      exact ⟨_, .identifier (isIdentifier_concat hw hcontinues)⟩
  | dotted ho hm =>
      have hcontinues := hc.continuesIdentifier_eq.trans hk
      rw [List.append_assoc, List.cons_append]
      exact ⟨_, .dotted ho (isIdentifier_concat hm hcontinues)⟩
  | _ => cases hk

/-- The longest match does not run into what follows it. -/
theorem IsLongest.runsInto_eq {w w' after : List Char} {t t' : Token}
    (h : IsLongest (w ++ (w' ++ after)) w t) (hw' : Spells w' t') :
    t.kind.runsInto t'.kind = false := by
  rw [Bool.eq_false_iff]
  intro hruns
  obtain ⟨c, rest, rfl, hc⟩ := hw'.startsWith
  obtain ⟨u, hu⟩ := h.spells.concat hruns hc
  have hfront : w ++ [c] <+: w ++ (c :: rest ++ after) := ⟨rest ++ after, by simp⟩
  have hle := h.longest hfront hu
  rw [List.length_append, List.length_singleton] at hle
  omega

/-! ## Laying out and scanning -/

theorem LaidOut.gap_append {gap cs : List Char} {offset : Nat} {ts : List Placed} (hgap : IsGap gap)
    (h : LaidOut (offset + byteLength gap) cs ts) : LaidOut offset (gap ++ cs) ts := by
  induction gap generalizing offset with
  | nil => exact h
  | cons c gap ih =>
      obtain ⟨hc, hgap⟩ := isGap_cons.mp hgap
      rw [Text.byteLength_cons, ← Nat.add_assoc] at h
      exact .blank hc (ih hgap h)

/-- A lexeme ends where its gap starts, or where the next lexeme does. -/
theorem Lexeme.ends {l : Lexeme} {ls : List Lexeme} (h : ∀ l' ∈ ls.head?, l.Apart l') :
    Ends l.token (l.gap ++ spelled ls) := by
  cases hgap : l.gap with
  | cons c gap =>
      refine ends_of_isBlank ?_ _
      have hblank := l.isGap
      rw [hgap] at hblank
      simpa using hblank c List.mem_cons_self
  | nil =>
      cases ls with
      | nil => exact ends_nil _
      | cons l' ls =>
          have hruns : l.token.kind.runsInto l'.token.kind = false := by
            rw [Bool.eq_false_iff]
            intro hruns
            exact h l' rfl hruns hgap
          rw [List.nil_append, spelled_cons]
          exact ends_of_spells l'.spells hruns

theorem laidOut_spelled {ls : List Lexeme} (h : ls.IsChain Lexeme.Apart) (offset : Nat) :
    LaidOut offset (spelled ls) (laidDown offset ls) := by
  induction ls generalizing offset with
  | nil => exact .nil offset
  | cons l ls ih =>
      obtain ⟨hapart, hchain⟩ := List.isChain_cons.mp h
      rw [spelled_cons]
      exact .token l.spells (Lexeme.ends hapart) (.gap_append l.isGap (ih hchain _))

/-- Tokens that were scanned are lexemes that were laid down. -/
theorem exists_lexemes_of_scanned {offset : Nat} {cs : List Char}
    {items : List (Except Unexpected Placed)} (h : Scanned offset cs items) :
    ∀ ts : List Placed, items = ts.map .ok → ∃ gap ls, IsGap gap ∧ ls.IsChain Lexeme.Apart
      ∧ cs = gap ++ spelled ls ∧ ts = laidDown (offset + byteLength gap) ls := by
  induction h with
  | nil offset =>
      intro ts hts
      obtain rfl := List.map_eq_nil_iff.mp hts.symm
      exact ⟨[], [], isGap_nil, .nil, rfl, rfl⟩
  | @blank offset c cs items hc _ ih =>
      intro ts hts
      obtain ⟨gap, ls, hgap, hchain, rfl, rfl⟩ := ih ts hts
      refine ⟨c :: gap, ls, isGap_cons.mpr ⟨hc, hgap⟩, hchain, rfl, ?_⟩
      rw [Text.byteLength_cons, Nat.add_assoc]
  | @item offset c piece after item items _ hspan hreports _ ih =>
      intro ts hts
      obtain ⟨⟨t, span⟩, ts, rfl, rfl, rfl⟩ := List.map_eq_cons_iff.mp hts.symm
      obtain ⟨gap, ls, hgap, hchain, rfl, rfl⟩ := ih ts rfl
      obtain rfl : span = _ := hspan
      let l : Lexeme := ⟨t, c :: piece, gap, hreports.1.spells, hgap⟩
      refine ⟨[], l :: ls, isGap_nil, List.isChain_cons.mpr ⟨?_, hchain⟩, ?_, rfl⟩
      · intro l' hl' hruns hempty
        obtain ⟨ls, rfl⟩ := List.head?_eq_some_iff.mp hl'
        obtain rfl : gap = [] := hempty
        have hlongest := hreports.1
        rw [List.nil_append, spelled_cons] at hlongest
        rw [hlongest.runsInto_eq l'.spells] at hruns
        cases hruns
      · rw [spelled_cons]
        rfl

theorem tokenize_spelled {gap : List Char} {ls : List Lexeme} (hgap : IsGap gap)
    (h : ls.IsChain Lexeme.Apart) :
    tokenize (.ofList (gap ++ spelled ls)) = .ok (laidDown (byteLength gap) ls) := by
  have hlaid := (laidOut_spelled h (0 + byteLength gap)).gap_append hgap
  refine Outcome.mapM_id_eq_ok.mpr ?_
  rw [scan, String.toList_ofList, scanFrom_of_laidOut hlaid, Nat.zero_add]

/-- The tokens of a text are those of which it was spelled, where they were laid down, and there
have to be blanks only between two that would run together. -/
theorem tokenize_eq_ok_iff_spelled (text : String) (ts : List Placed) :
    tokenize text = .ok ts ↔ ∃ gap ls, IsGap gap ∧ ls.IsChain Lexeme.Apart
      ∧ text = .ofList (gap ++ spelled ls) ∧ ts = laidDown (byteLength gap) ls := by
  constructor
  · intro h
    have hscan := scanned_scan text
    rw [Outcome.mapM_id_eq_ok.mp h] at hscan
    obtain ⟨gap, ls, hgap, hchain, htext, hts⟩ := exists_lexemes_of_scanned hscan ts rfl
    rw [Nat.zero_add] at hts
    exact ⟨gap, ls, hgap, hchain, by rw [← htext, String.ofList_toList], hts⟩
  · rintro ⟨gap, ls, hgap, hchain, rfl, rfl⟩
    exact tokenize_spelled hgap hchain

/-- Seven lexemes and no blank. -/
example : tokenize "2v.w<==1.5ü-" = .ok
    [⟨.number (.ofInt 2), ⟨0, 1⟩⟩, ⟨.dotted "v" "w", ⟨1, 4⟩⟩, ⟨.relation .lessOrEqual, ⟨4, 6⟩⟩,
      ⟨.relation .equal, ⟨6, 7⟩⟩, ⟨.number (.ofRat (3 / 2)), ⟨7, 10⟩⟩, ⟨.identifier "ü", ⟨10, 12⟩⟩,
      ⟨.minus, ⟨12, 13⟩⟩] := by
  decide +kernel

end LayoutLang.Token
