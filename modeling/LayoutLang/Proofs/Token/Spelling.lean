import LayoutLang.Proofs.Outcome
import LayoutLang.Proofs.Token.Pattern

/-!
# Tokens written out are read back

`LaidOut` says that a text is some tokens written out: a text of the pattern for each of them,
where nothing stands behind it that would continue it, and blanks anywhere between.  A scan of such
a text gives these tokens at the offsets where they were laid down (`scanFrom_of_laidOut`).

Where the offsets do not matter, `Lexes` forgets them.  Its closure facts are all that a text
made of several pieces needs, piece after piece from the end.
-/

namespace LayoutLang.Token

open Text (byteLength)

/-! ## Blanks -/

theorem of_isBlank {c : Char} (h : isBlank c = true) :
    c.isDigit = false ∧ continuesIdentifier c = false ∧ c ≠ '.' := by
  simp only [isBlank, Bool.or_eq_true, decide_eq_true_eq] at h
  rcases h with (((rfl | rfl) | rfl) | rfl) | rfl <;> decide +kernel

/-- A blank ends every token. -/
theorem ends_of_isBlank {after : List Char} (h : ∀ c ∈ after.head?, isBlank c = true) (t : Token) :
    Ends t after := by
  cases t with
  | number _ =>
      intro c hc
      obtain ⟨hdigit, -, hpoint⟩ := of_isBlank (h c hc)
      exact ⟨hdigit, hpoint⟩
  | identifier _ =>
      intro c hc
      obtain ⟨-, hcontinues, hpoint⟩ := of_isBlank (h c hc)
      exact ⟨hcontinues, hpoint⟩
  | dotted _ _ =>
      intro c hc
      exact (of_isBlank (h c hc)).2.1
  | _ => trivial

theorem isBlank_of_continuesIdentifier {c : Char} (h : continuesIdentifier c = true) :
    isBlank c = false := by
  cases hb : isBlank c with
  | false => rfl
  | true =>
      rw [(of_isBlank hb).2.1] at h
      cases h

theorem isBlank_of_isDigit {c : Char} (h : c.isDigit = true) : isBlank c = false :=
  isBlank_of_continuesIdentifier (continuesIdentifier_of_isDigit h)

theorem IsIdentifier.not_isBlank {w : List Char} (h : IsIdentifier w) :
    ∀ c ∈ w, isBlank c = false := by
  intro c hc
  exact isBlank_of_continuesIdentifier (h.continues c hc)

/-- No token has a blank in it. -/
theorem Spells.not_isBlank {w : List Char} {t : Token} (h : Spells w t) :
    ∀ c ∈ w, isBlank c = false := by
  cases h with
  | number hw _ =>
      intro c hc
      rcases hw.isDigit_or_point c hc with hdigit | rfl
      · exact isBlank_of_isDigit hdigit
      · rfl
  | identifier hw => exact hw.not_isBlank
  | dotted ho hm =>
      intro c hc
      rcases List.mem_append.mp hc with hc | hc
      · exact ho.not_isBlank c hc
      · rcases List.mem_cons.mp hc with rfl | hc
        · rfl
        · exact hm.not_isBlank c hc
  | _ => simp [isBlank]

/-! ## What a token starts with -/

/-- The characters that tokens of a kind start with. -/
def Kind.StartsWith : Kind → Char → Prop
  | .number, c => c.isDigit = true
  | .identifier, c => startsIdentifier c = true
  | .dotted, c => startsIdentifier c = true
  | _, c => c ∈ operatorHeads

theorem Spells.startsWith {w : List Char} {t : Token} (h : Spells w t) :
    ∃ c rest, w = c :: rest ∧ t.kind.StartsWith c := by
  cases h with
  | number hw _ => exact hw.head
  | identifier hw => exact hw.head
  | dotted ho _ =>
      obtain ⟨c, rest, rfl, hc⟩ := ho.head
      exact ⟨c, _, rfl, hc⟩
  | _ => exact ⟨_, _, rfl, by simp [Kind.StartsWith, kind, operatorHeads]⟩

/-- No token starts with a blank. -/
theorem Spells.head {w : List Char} {t : Token} (h : Spells w t) :
    ∃ c rest, w = c :: rest ∧ isBlank c = false := by
  obtain ⟨c, rest, rfl, -⟩ := h.startsWith
  exact ⟨c, rest, rfl, h.not_isBlank c List.mem_cons_self⟩

/-! ## The steps of the scanner -/

section Steps

variable {offset : Nat} {c : Char} {cs : List Char}

theorem scanFrom_nil (offset : Nat) : scanFrom offset [] = [] := by rw [scanFrom]

theorem scanFrom_of_isBlank (hc : isBlank c = true) :
    scanFrom offset (c :: cs) = scanFrom (offset + c.utf8Size) cs := by
  rw [scanFrom, if_pos hc]

theorem scanFrom_of_next? (hc : isBlank c = false) {m : Match} (hm : next? (c :: cs) = some m) :
    scanFrom offset (c :: cs)
      = .ok ⟨m.token, ⟨offset, offset + byteLength m.lexeme⟩⟩
        :: scanFrom (offset + byteLength m.lexeme) m.rest := by
  rw [scanFrom, if_neg (by simp [hc])]
  split
  · next m' hm' =>
    cases hm.symm.trans hm'
    rfl
  · next hnone => cases hm.symm.trans hnone

theorem scanFrom_of_next?_eq_none (hc : isBlank c = false) (hm : next? (c :: cs) = none) :
    scanFrom offset (c :: cs) = .error ⟨offset, c⟩ :: scanFrom (offset + c.utf8Size) cs := by
  rw [scanFrom, if_neg (by simp [hc])]
  split
  · next m' hm' => cases hm.symm.trans hm'
  · rfl

end Steps

/-! ## Laying out -/

/-- A text that starts at an offset, and the tokens that it is made of. -/
inductive LaidOut : Nat → List Char → List Placed → Prop
  | nil (offset : Nat) : LaidOut offset [] []
  | blank {offset : Nat} {c : Char} {cs : List Char} {ts : List Placed} :
      isBlank c = true → LaidOut (offset + c.utf8Size) cs ts → LaidOut offset (c :: cs) ts
  | token {offset : Nat} {w after : List Char} {t : Token} {ts : List Placed} :
      Spells w t → Ends t after → LaidOut (offset + byteLength w) after ts →
      LaidOut offset (w ++ after) (⟨t, ⟨offset, offset + byteLength w⟩⟩ :: ts)

/-- A scan undoes the laying out. -/
theorem scanFrom_of_laidOut {offset : Nat} {cs : List Char} {ts : List Placed}
    (h : LaidOut offset cs ts) : scanFrom offset cs = ts.map .ok := by
  induction h with
  | nil offset => rw [scanFrom_nil, List.map_nil]
  | blank hblank _ ih => rw [scanFrom_of_isBlank hblank, ih]
  | @token offset w after t ts hw hends _ ih =>
      have hnext := next?_of_ends hw hends
      obtain ⟨c, rest, rfl, hc⟩ := hw.head
      rw [List.cons_append] at hnext ⊢
      rw [scanFrom_of_next? hc hnext, List.map_cons, ← ih]

/-! ## Without offsets -/

/-- A text is made of these tokens, wherever it starts. -/
def Lexes (cs : List Char) (ts : List Token) : Prop :=
  ∀ offset, ∃ placed : List Placed, LaidOut offset cs placed ∧ placed.map (·.token) = ts

theorem Lexes.nil : Lexes [] [] := fun offset => ⟨[], .nil offset, rfl⟩

variable {w after cs : List Char} {t : Token} {ts : List Token}

theorem Lexes.blank {c : Char} (hc : isBlank c = true) (h : Lexes cs ts) : Lexes (c :: cs) ts := by
  intro offset
  obtain ⟨placed, hlaid, hmap⟩ := h (offset + c.utf8Size)
  exact ⟨placed, .blank hc hlaid, hmap⟩

theorem Lexes.token (hw : Spells w t) (hends : Ends t after) (h : Lexes after ts) :
    Lexes (w ++ after) (t :: ts) := by
  intro offset
  obtain ⟨placed, hlaid, rfl⟩ := h (offset + byteLength w)
  exact ⟨_, .token hw hends hlaid, rfl⟩

/-- A sign with a blank on either side. -/
theorem Lexes.sign {c : Char} (hc : Spells [c] t) (hends : ∀ cs, Ends t cs) (h : Lexes after ts) :
    Lexes (' ' :: c :: ' ' :: after) (t :: ts) := by
  have hsign : Lexes ([c] ++ ' ' :: after) (t :: ts) := .token hc (hends _) (.blank rfl h)
  exact .blank rfl hsign

theorem tokenize_of_lexes {text : String} (h : Lexes text.toList ts) :
    ∃ placed, tokenize text = .ok placed ∧ placed.map (·.token) = ts := by
  obtain ⟨placed, hlaid, hmap⟩ := h 0
  exact ⟨placed, Outcome.mapM_id_eq_ok.mpr (scanFrom_of_laidOut hlaid), hmap⟩

/-- Tokens that are placed have a first one if the tokens have. -/
theorem exists_placed {placed : List Placed}
    (h : placed.map (·.token) = t :: ts) :
    ∃ span rest, placed = ⟨t, span⟩ :: rest ∧ rest.map (·.token) = ts := by
  obtain ⟨⟨token, span⟩, rest, rfl, rfl, hrest⟩ := List.map_eq_cons_iff.mp h
  exact ⟨span, rest, rfl, hrest⟩

theorem exists_placed_single {placed : List Placed} (h : placed.map (·.token) = [t]) :
    ∃ span, placed = [⟨t, span⟩] := by
  obtain ⟨span, rest, rfl, hrest⟩ := exists_placed h
  obtain rfl := List.map_eq_nil_iff.mp hrest
  exact ⟨span, rfl⟩

end LayoutLang.Token
