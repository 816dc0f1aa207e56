import LayoutLang.Proofs.Decimal.Literal
import LayoutLang.Token.Lexer
import Mathlib.Data.List.TakeWhile

/-!
# The patterns of tokens, and the longest match

`Spells` says which texts are tokens, pattern by pattern, and which token each of them is.  It says
nothing of where a token ends inside a longer text.  That is the rule of the longest match, and
`IsLongest` states it over all patterns at once: no prefix of the text that matches any pattern is
longer than the token taken.

`next?` tries operators, then numbers, then names, and takes runs greedily.  The patterns can be
told apart by their first character, and a point belongs to no run, so this order finds the longest
match: whatever prefix matches a pattern, `next?` takes at least as much (`next?_of_spells`).  From
this come both main statements, that what it takes is the longest match (`next?_isLongest`) and that
it takes nothing only where no pattern matches (`next?_eq_none`).  Conversely, a text of a pattern
is taken as its token where nothing stands behind it that continues it (`next?_of_ends`).
-/

namespace LayoutLang.Token

open Decimal (IsDigits IsNumeral)

/-! ## The patterns -/

/-- A character that starts identifiers and then characters that continue them. -/
inductive IsIdentifier : List Char → Prop
  | mk {c : Char} {cs : List Char} : startsIdentifier c = true →
      (∀ d ∈ cs, continuesIdentifier d = true) → IsIdentifier (c :: cs)

instance : DecidablePred IsIdentifier
  | [] => .isFalse (by intro h; cases h)
  | c :: cs =>
    decidable_of_iff (startsIdentifier c = true ∧ cs.all continuesIdentifier = true) (by
      rw [List.all_eq_true]
      constructor
      · rintro ⟨hc, hcs⟩
        exact .mk hc hcs
      · intro h
        cases h with
        | mk hc hcs => exact ⟨hc, hcs⟩)

/-- The ten patterns, and the token that a text of each pattern is. -/
inductive Spells : List Char → Token → Prop
  | equal : Spells ['='] (.relation .equal)
  | lessOrEqual : Spells ['<', '='] (.relation .lessOrEqual)
  | greaterOrEqual : Spells ['>', '='] (.relation .greaterOrEqual)
  | star : Spells ['*'] .star
  | plus : Spells ['+'] .plus
  | minus : Spells ['-'] .minus
  | atSign : Spells ['@'] .atSign
  | number {cs : List Char} {x : Binary64} :
      IsNumeral cs → Binary64.ofText (.ofList cs) = .ok x → Spells cs (.number x)
  | identifier {w : List Char} : IsIdentifier w → Spells w (.identifier (.ofList w))
  | dotted {owner member : List Char} : IsIdentifier owner → IsIdentifier member →
      Spells (owner ++ '.' :: member) (.dotted (.ofList owner) (.ofList member))

/-- The rule of the longest match, for a text and what is taken from its front. -/
structure IsLongest (text lexeme : List Char) (token : Token) : Prop where
  front : lexeme <+: text
  spells : Spells lexeme token
  longest : ∀ {w : List Char} {t : Token}, w <+: text → Spells w t → w.length ≤ lexeme.length

/-! ## Classes of characters -/

/-- Identifiers start above the digits and the operators. -/
theorem not_startsIdentifier_of_lt {c : Char} (h : c.toNat < 0x41) : startsIdentifier c = false := by
  have hstart : Unicode.isIdentifierStart c = false := by
    show (if c.toNat < 0x41 then false else _) = false
    rw [if_pos h]
  have hlow : c ≠ '_' := by
    rintro rfl
    exact absurd h (by decide)
  simp [startsIdentifier, hstart, hlow]

theorem not_startsIdentifier_of_isDigit {c : Char} (h : c.isDigit = true) :
    startsIdentifier c = false := by
  have hle : c.toNat ≤ 57 := (Char.isDigit_iff_toNat.mp h).2
  exact not_startsIdentifier_of_lt (by omega)

theorem not_isDigit_of_startsIdentifier {c : Char} (h : startsIdentifier c = true) :
    c.isDigit = false := by
  cases hd : c.isDigit with
  | false => rfl
  | true =>
      rw [not_startsIdentifier_of_isDigit hd] at h
      cases h

/-- A point ends an identifier. -/
theorem not_continuesIdentifier_point : continuesIdentifier '.' = false := by decide +kernel

/-- Where an identifier may start it may go on. -/
theorem continuesIdentifier_of_startsIdentifier {c : Char} (h : startsIdentifier c = true) :
    continuesIdentifier c = true := by
  rcases Bool.or_eq_true_iff.mp h with hstart | hlow
  · exact Bool.or_eq_true_iff.mpr (.inl hstart)
  · obtain rfl := of_decide_eq_true hlow
    decide +kernel

theorem continuesIdentifier_of_isDigit {c : Char} (h : c.isDigit = true) :
    continuesIdentifier c = true := by
  refine Bool.or_eq_true_iff.mpr (.inr ?_)
  rw [Unicode.inRanges_iff Unicode.ascending_identifierExtraRanges]
  exact ⟨(0x30, 0x39), by decide, Char.isDigit_iff_toNat.mp h⟩

theorem IsIdentifier.head {w : List Char} (h : IsIdentifier w) :
    ∃ c rest, w = c :: rest ∧ startsIdentifier c = true := by
  cases h with
  | mk hc _ => exact ⟨_, _, rfl, hc⟩

theorem IsIdentifier.continues {w : List Char} (h : IsIdentifier w) :
    ∀ c ∈ w, continuesIdentifier c = true := by
  cases h with
  | mk hc hcs =>
      exact List.forall_mem_cons.mpr ⟨continuesIdentifier_of_startsIdentifier hc, hcs⟩

theorem IsIdentifier.point_not_mem {w : List Char} (h : IsIdentifier w) : '.' ∉ w := by
  intro hmem
  have hpoint := h.continues '.' hmem
  rw [not_continuesIdentifier_point] at hpoint
  cases hpoint

/-- The characters that operators start with. -/
def operatorHeads : List Char := ['=', '<', '>', '*', '+', '-', '@']

theorem operator?_of_not_mem {c : Char} (h : c ∉ operatorHeads) (cs : List Char) :
    operator? (c :: cs) = none := by
  unfold operator?
  split
  case h_8 => rfl
  all_goals
    next heq =>
      rw [(List.cons.inj heq).1] at h
      exact absurd (by decide) h

theorem of_mem_operatorHeads {c : Char} (h : c ∈ operatorHeads) :
    c.isDigit = false ∧ c.toNat < 0x41 := by
  simp only [operatorHeads, List.mem_cons, List.not_mem_nil, or_false] at h
  rcases h with rfl | rfl | rfl | rfl | rfl | rfl | rfl <;> decide

theorem not_mem_operatorHeads_of_isDigit {c : Char} (h : c.isDigit = true) : c ∉ operatorHeads := by
  intro hmem
  rw [(of_mem_operatorHeads hmem).1] at h
  cases h

theorem not_mem_operatorHeads_of_startsIdentifier {c : Char} (h : startsIdentifier c = true) :
    c ∉ operatorHeads := by
  intro hmem
  rw [not_startsIdentifier_of_lt (of_mem_operatorHeads hmem).2] at h
  cases h

/-! ## Runs at the front of a longer text

What a greedy reader takes contains every run that the text starts with. -/

/-- An identifier is taken with all that continues it. -/
theorem identifier?_append {w : List Char} (h : IsIdentifier w) (after : List Char) :
    identifier? (w ++ after)
      = some (w ++ after.takeWhile continuesIdentifier, after.dropWhile continuesIdentifier) := by
  cases h with
  | @mk c cs hc hcs =>
      show (if startsIdentifier c = true then
          some (c :: (cs ++ after).takeWhile _, (cs ++ after).dropWhile _) else none) = _
      rw [if_pos hc, List.takeWhile_append_of_pos hcs, List.dropWhile_append_of_pos hcs]
      rfl

/-- A point ends an identifier, so that what stands before it is taken alone. -/
theorem identifier?_append_point {w : List Char} (h : IsIdentifier w) (after : List Char) :
    identifier? (w ++ '.' :: after) = some (w, '.' :: after) := by
  rw [identifier?_append h]
  simp [not_continuesIdentifier_point]

/-- Digits and a fraction are taken with all digits that follow. -/
theorem number?_append_point {ds fs : List Char} (hds : IsDigits ds) (hfs : IsDigits fs)
    (after : List Char) :
    number? (ds ++ '.' :: fs ++ after)
      = some ⟨ofDigits ds (fs ++ after.takeWhile Char.isDigit),
          ds ++ '.' :: (fs ++ after.takeWhile Char.isDigit), after.dropWhile Char.isDigit⟩ := by
  have hpoint : ∀ c ∈ ('.' :: (fs ++ after)).head?, c.isDigit = false := by simp [Char.isDigit]
  have hne : fs ++ after.takeWhile Char.isDigit ≠ [] := by simp [hfs.1]
  have hfraction : fraction? ('.' :: (fs ++ after))
      = some (fs ++ after.takeWhile Char.isDigit, after.dropWhile Char.isDigit) := by
    simp only [fraction?, List.takeWhile_append_of_pos hfs.2, List.dropWhile_append_of_pos hfs.2]
    rw [if_neg hne]
  rw [List.append_assoc, List.cons_append]
  simp only [number?, Text.takeWhile_run hds.2 hpoint, Text.dropWhile_run hds.2 hpoint, hfraction]
  rw [if_neg hds.1]

/-- Digits are taken with all digits that follow, and perhaps more. -/
theorem number?_append {ds : List Char} (hds : IsDigits ds) (after : List Char) :
    ∃ m, number? (ds ++ after) = some m ∧ ds.length ≤ m.lexeme.length := by
  have hne : ds ++ after.takeWhile Char.isDigit ≠ [] := by simp [hds.1]
  simp only [number?, List.takeWhile_append_of_pos hds.2, List.dropWhile_append_of_pos hds.2]
  rw [if_neg hne]
  split
  · next fs rest _ => exact ⟨_, rfl, by simp only [List.length_append]; omega⟩
  · exact ⟨_, rfl, by simp⟩

theorem number?_of_startsIdentifier {c : Char} (h : startsIdentifier c = true) (cs : List Char) :
    number? (c :: cs) = none := by
  have hdigit := not_isDigit_of_startsIdentifier h
  simp [number?, hdigit]

/-! ## The longest match -/

/-- Which of the three readers decides, by the first character. -/
theorem next?_of_isDigit {c : Char} (h : c.isDigit = true) {cs : List Char} {m : Match}
    (hm : number? (c :: cs) = some m) : next? (c :: cs) = some m := by
  simp only [next?, operator?_of_not_mem (not_mem_operatorHeads_of_isDigit h), hm]

theorem next?_of_startsIdentifier {c : Char} (h : startsIdentifier c = true) (cs : List Char) :
    next? (c :: cs) = name? (c :: cs) := by
  simp only [next?, operator?_of_not_mem (not_mem_operatorHeads_of_startsIdentifier h),
    number?_of_startsIdentifier h]

theorem next?_numeral_append {w : List Char} (h : IsNumeral w) (after : List Char) :
    ∃ m, next? (w ++ after) = some m ∧ w.length ≤ m.lexeme.length := by
  have hnumber : ∃ m, number? (w ++ after) = some m ∧ w.length ≤ m.lexeme.length := by
    cases h with
    | whole hds => exact number?_append hds after
    | point hds hfs =>
        refine ⟨_, number?_append_point hds hfs after, ?_⟩
        simp only [List.length_append, List.length_cons]
        omega
  obtain ⟨m, hm, hle⟩ := hnumber
  obtain ⟨c, rest, rfl, hc⟩ := h.head
  exact ⟨m, next?_of_isDigit hc hm, hle⟩

theorem next?_name_append {w : List Char} (hw : IsIdentifier w) (after : List Char) {m : Match}
    (hm : name? (w ++ after) = some m) : next? (w ++ after) = some m := by
  cases hw with
  | mk hc hcs => exact (next?_of_startsIdentifier hc _).trans hm

theorem name?_append {w : List Char} (h : IsIdentifier w) (after : List Char) :
    ∃ m, name? (w ++ after) = some m ∧ w.length ≤ m.lexeme.length := by
  simp only [name?, identifier?_append h]
  split
  · next member rest _ => exact ⟨_, rfl, by simp only [List.length_append]; omega⟩
  · exact ⟨_, rfl, by simp⟩

theorem name?_append_dotted {owner member : List Char} (ho : IsIdentifier owner)
    (hm : IsIdentifier member) (after : List Char) :
    ∃ m, name? (owner ++ '.' :: member ++ after) = some m
      ∧ (owner ++ '.' :: member).length ≤ m.lexeme.length := by
  rw [List.append_assoc, List.cons_append]
  simp only [name?, identifier?_append_point ho, member?, identifier?_append hm]
  exact ⟨_, rfl, by simp⟩

/-- Whatever prefix of a text matches a pattern, a token is taken there that is at least as long. -/
theorem next?_of_spells {w : List Char} {t : Token} (h : Spells w t) (after : List Char) :
    ∃ m, next? (w ++ after) = some m ∧ w.length ≤ m.lexeme.length := by
  cases h with
  | number hw _ => exact next?_numeral_append hw after
  | identifier hw =>
      obtain ⟨m, hm, hle⟩ := name?_append hw after
      exact ⟨m, next?_name_append hw after hm, hle⟩
  | @dotted owner member ho hmember =>
      obtain ⟨m, hm, hle⟩ := name?_append_dotted ho hmember after
      rw [List.append_assoc] at hm ⊢
      exact ⟨m, next?_name_append ho _ hm, hle⟩
  | _ => exact ⟨_, rfl, Nat.le_refl _⟩

/-! ## A token that ends where the pattern does -/

/-- What stands behind the text of a token does not continue it. -/
def Ends : Token → List Char → Prop
  | .number _, after => ∀ c ∈ after.head?, c.isDigit = false ∧ c ≠ '.'
  | .identifier _, after => ∀ c ∈ after.head?, continuesIdentifier c = false ∧ c ≠ '.'
  | .dotted .., after => ∀ c ∈ after.head?, continuesIdentifier c = false
  | _, _ => True

/-- A text ends every token. -/
theorem ends_nil (t : Token) : Ends t [] := by
  cases t <;> simp [Ends]

theorem takeWhile_of_head {p : Char → Bool} {after : List Char}
    (h : ∀ c ∈ after.head?, p c = false) : after.takeWhile p = [] ∧ after.dropWhile p = after := by
  have hnone : ∀ c ∈ ([] : List Char), p c = true := by simp
  exact ⟨Text.takeWhile_run hnone h, Text.dropWhile_run hnone h⟩

theorem fraction?_of_head {after : List Char} (h : ∀ c ∈ after.head?, c ≠ '.') :
    fraction? after = none := by
  unfold fraction?
  split
  · exact absurd rfl (h '.' rfl)
  · rfl

theorem member?_of_head {after : List Char} (h : ∀ c ∈ after.head?, c ≠ '.') :
    member? after = none := by
  unfold member?
  split
  · exact absurd rfl (h '.' rfl)
  · rfl

theorem number?_of_ends {w after : List Char} {x : Binary64} (h : IsNumeral w)
    (hx : Binary64.ofText (.ofList w) = .ok x) (hends : Ends (.number x) after) :
    number? (w ++ after) = some ⟨.number x, w, after⟩ := by
  have hdigit : ∀ c ∈ after.head?, c.isDigit = false := fun c hc => (hends c hc).1
  cases h with
  | whole hds =>
      rw [Binary64.ofText_whole hds] at hx
      have hfraction := fraction?_of_head fun c hc => (hends c hc).2
      simp only [number?, Text.takeWhile_run hds.2 hdigit, Text.dropWhile_run hds.2 hdigit,
        hfraction, ofDigits, Except.ok.inj hx]
      rw [if_neg hds.1]
  | point hds hfs =>
      rw [Binary64.ofText_point hds hfs] at hx
      obtain ⟨htake, hdrop⟩ := takeWhile_of_head hdigit
      rw [number?_append_point hds hfs, htake, hdrop, List.append_nil, ofDigits, Except.ok.inj hx]

theorem name?_of_ends {w after : List Char} (h : IsIdentifier w)
    (hends : Ends (.identifier (.ofList w)) after) :
    name? (w ++ after) = some ⟨.identifier (.ofList w), w, after⟩ := by
  obtain ⟨htake, hdrop⟩ := takeWhile_of_head fun c hc => (hends c hc).1
  have hmember := member?_of_head fun c hc => (hends c hc).2
  simp only [name?, identifier?_append h, htake, hdrop, List.append_nil, hmember]

theorem name?_dotted_of_ends {owner member after : List Char} (ho : IsIdentifier owner)
    (hm : IsIdentifier member) (hends : Ends (.dotted (.ofList owner) (.ofList member)) after) :
    name? (owner ++ '.' :: (member ++ after))
      = some ⟨.dotted (.ofList owner) (.ofList member), owner ++ '.' :: member, after⟩ := by
  obtain ⟨htake, hdrop⟩ := takeWhile_of_head hends
  simp only [name?, identifier?_append_point ho, member?, identifier?_append hm, htake, hdrop,
    List.append_nil]

/-- A text that is a token is taken as this token if it ends there. -/
theorem next?_of_ends {w after : List Char} {t : Token} (h : Spells w t) (hends : Ends t after) :
    next? (w ++ after) = some ⟨t, w, after⟩ := by
  cases h with
  | number hw hx =>
      have hnumber := number?_of_ends hw hx hends
      obtain ⟨c, rest, rfl, hc⟩ := hw.head
      exact next?_of_isDigit hc hnumber
  | identifier hw => exact next?_name_append hw after (name?_of_ends hw hends)
  | dotted ho hm =>
      rw [List.append_assoc]
      exact next?_name_append ho _ (name?_dotted_of_ends ho hm hends)
  | _ => rfl

/-- A text that is a token is taken whole, as the token that it is. -/
theorem next?_eq_self {w : List Char} {t : Token} (h : Spells w t) : next? w = some ⟨t, w, []⟩ := by
  have hnext := next?_of_ends h (ends_nil t)
  rwa [List.append_nil] at hnext

/-- No text is two tokens. -/
theorem Spells.unique {w : List Char} {t t' : Token} (h : Spells w t) (h' : Spells w t') :
    t = t' := by
  have heq := (next?_eq_self h).symm.trans (next?_eq_self h')
  cases heq
  rfl

/-! ## What is taken is a token -/

theorem isDigits_of_fraction? {cs fs rest : List Char} (h : fraction? cs = some (fs, rest)) :
    IsDigits fs := by
  unfold fraction? at h
  split at h
  · dsimp only at h
    split at h
    · cases h
    · next hne =>
      obtain ⟨rfl, -⟩ := Prod.mk.inj (Option.some.inj h)
      exact ⟨hne, fun _ => List.mem_takeWhile_imp⟩
  · cases h

theorem isIdentifier_of_identifier? {cs w rest : List Char} (h : identifier? cs = some (w, rest)) :
    IsIdentifier w := by
  unfold identifier? at h
  split at h
  · cases h
  · split at h
    · next hc =>
      obtain ⟨rfl, -⟩ := Prod.mk.inj (Option.some.inj h)
      exact .mk hc fun _ => List.mem_takeWhile_imp
    · cases h

theorem isIdentifier_of_member? {cs w rest : List Char} (h : member? cs = some (w, rest)) :
    IsIdentifier w := by
  unfold member? at h
  split at h
  · exact isIdentifier_of_identifier? h
  · cases h

theorem spells_of_operator? {cs : List Char} {m : Match} (h : operator? cs = some m) :
    Spells m.lexeme m.token := by
  unfold operator? at h
  split at h <;> cases h <;> constructor

theorem spells_of_number? {cs : List Char} {m : Match} (h : number? cs = some m) :
    Spells m.lexeme m.token := by
  simp only [number?] at h
  split at h
  · cases h
  · next hne =>
    have hds : IsDigits (cs.takeWhile Char.isDigit) := ⟨hne, fun _ => List.mem_takeWhile_imp⟩
    split at h
    · next fs rest hf =>
      cases h
      have hfs := isDigits_of_fraction? hf
      exact .number (.point hds hfs) (Binary64.ofText_point hds hfs)
    · cases h
      exact .number (.whole hds) (Binary64.ofText_whole hds)

theorem spells_of_name? {cs : List Char} {m : Match} (h : name? cs = some m) :
    Spells m.lexeme m.token := by
  unfold name? at h
  split at h
  · cases h
  · next owner rest ho =>
    split at h
    · next member rest' hm =>
      cases h
      exact .dotted (isIdentifier_of_identifier? ho) (isIdentifier_of_member? hm)
    · cases h
      exact .identifier (isIdentifier_of_identifier? ho)

theorem spells_of_next? {cs : List Char} {m : Match} (h : next? cs = some m) :
    Spells m.lexeme m.token := by
  unfold next? at h
  split at h
  · next ho => exact spells_of_operator? (h ▸ ho)
  · split at h
    · next hn => exact spells_of_number? (h ▸ hn)
    · exact spells_of_name? h

/-! ## The two outcomes -/

/-- What is taken is the longest prefix that matches any pattern. -/
theorem next?_isLongest {cs : List Char} {m : Match} (h : next? cs = some m) :
    IsLongest cs m.lexeme m.token where
  front := ⟨m.rest, lexeme_append_rest h⟩
  spells := spells_of_next? h
  longest := by
    rintro w t ⟨after, rfl⟩ hw
    obtain ⟨m', hm', hle⟩ := next?_of_spells hw after
    cases h.symm.trans hm'
    exact hle

/-- Nothing is taken only where no pattern matches. -/
theorem next?_eq_none {cs : List Char} :
    next? cs = none ↔ ∀ w t, w <+: cs → ¬ Spells w t := by
  constructor
  · rintro h w t ⟨after, rfl⟩ hw
    obtain ⟨m, hm, -⟩ := next?_of_spells hw after
    rw [h] at hm
    cases hm
  · intro h
    cases hm : next? cs with
    | none => rfl
    | some m => exact absurd (spells_of_next? hm) (h m.lexeme m.token ⟨m.rest, lexeme_append_rest hm⟩)

/-- A text has one longest match. -/
theorem IsLongest.unique {cs w w' : List Char} {t t' : Token} (h : IsLongest cs w t)
    (h' : IsLongest cs w' t') : w' = w ∧ t' = t := by
  have hle := h.longest h'.front h'.spells
  have hge := h'.longest h.front h.spells
  have hfront : w' <+: w := List.prefix_of_prefix_length_le h'.front h.front hle
  obtain rfl : w' = w := hfront.eq_of_length (Nat.le_antisymm hle hge)
  exact ⟨rfl, h'.spells.unique h.spells⟩

theorem next?_of_isLongest {w after : List Char} {t : Token} (h : IsLongest (w ++ after) w t) :
    next? (w ++ after) = some ⟨t, w, after⟩ := by
  cases hm : next? (w ++ after) with
  | none => exact absurd h.spells (next?_eq_none.mp hm w t h.front)
  | some m =>
      obtain ⟨hlexeme, htoken⟩ := h.unique (next?_isLongest hm)
      have happend := lexeme_append_rest hm
      obtain ⟨token, lexeme, rest⟩ := m
      cases hlexeme
      cases htoken
      cases List.append_cancel_left happend
      rfl

/-- A character at which no token starts: an angle bracket without its equals sign, or a character
that no pattern starts with. -/
def IsStray (c : Char) (after : List Char) : Prop :=
  (c = '<' ∨ c = '>') ∧ after.head? ≠ some '='
    ∨ c ∉ operatorHeads ∧ c.isDigit = false ∧ Unicode.isIdentifierStart c = false ∧ c ≠ '_'

theorem isStray_of_next?_eq_none {c : Char} {after : List Char} (h : next? (c :: after) = none) :
    IsStray c after := by
  have hno := next?_eq_none.mp h
  have hsingle : ∀ t, ¬ Spells [c] t := fun t => hno [c] t ⟨after, rfl⟩
  have hdouble : after.head? = some '=' → ∀ t, ¬ Spells [c, '='] t := by
    intro hhead t
    obtain ⟨rest, rfl⟩ := List.head?_eq_some_iff.mp hhead
    exact hno [c, '='] t ⟨rest, rfl⟩
  have hdigit : c.isDigit = false := by
    cases hd : c.isDigit with
    | false => rfl
    | true =>
        have hds : IsDigits [c] := ⟨List.cons_ne_nil _ _, by simpa using hd⟩
        exact absurd (.number (.whole hds) (Binary64.ofText_whole hds)) (hsingle _)
  have hstart : startsIdentifier c = false := by
    cases hs : startsIdentifier c with
    | false => rfl
    | true => exact absurd (.identifier (.mk hs (by simp))) (hsingle _)
  by_cases hangle : c = '<' ∨ c = '>'
  · refine .inl ⟨hangle, ?_⟩
    intro hhead
    rcases hangle with rfl | rfl
    · exact hdouble hhead _ .lessOrEqual
    · exact hdouble hhead _ .greaterOrEqual
  · have hhead : c ∉ operatorHeads := by
      intro hmem
      simp only [operatorHeads, List.mem_cons, List.not_mem_nil, or_false] at hmem
      rcases hmem with rfl | rfl | rfl | rfl | rfl | rfl | rfl
      · exact hsingle _ .equal
      · exact hangle (.inl rfl)
      · exact hangle (.inr rfl)
      · exact hsingle _ .star
      · exact hsingle _ .plus
      · exact hsingle _ .minus
      · exact hsingle _ .atSign
    simp only [startsIdentifier, Bool.or_eq_false_iff, decide_eq_false_iff_not] at hstart
    exact .inr ⟨hhead, hdigit, hstart.1, hstart.2⟩

end LayoutLang.Token
