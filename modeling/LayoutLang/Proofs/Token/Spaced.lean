import LayoutLang.Proofs.Token.Piece
import LayoutLang.Proofs.Token.Spelling

/-!
# Blanks between words

A text is words with gaps of blanks between them.  No token reaches over a blank, and neither does
the look at a character at which none starts.  So a scan takes a text apart at every gap
(`scanFrom_append`), and all that it reports of a word, but for the place, is what it reports of the
word alone.

`Spaced` says that a text has some words, with whatever gaps.  Every text has some, and what a scan
reports without places is a function of them.
-/

namespace LayoutLang.Token

open Text (byteLength)

/-! ## A scan is taken apart at blanks -/

section Append

variable {cs after : List Char}

/-- What has no blank in it cannot reach into a text that starts with one. -/
theorem isPrefix_of_append {w : List Char} (hafter : ∀ c ∈ after.head?, isBlank c = true)
    (hw : ∀ c ∈ w, isBlank c = false) (h : w <+: cs ++ after) : w <+: cs := by
  rcases List.prefix_or_prefix_of_prefix h (List.prefix_append cs after) with hcs | ⟨beyond, rfl⟩
  · exact hcs
  · cases beyond with
    | nil => simp
    | cons c beyond =>
        obtain ⟨rest, rfl⟩ := (List.prefix_append_right_inj cs).mp h
        have hblank := hafter c rfl
        rw [hw c (by simp)] at hblank
        cases hblank

/-- What follows behind a blank changes nothing of a token. -/
theorem next?_append (hafter : ∀ c ∈ after.head?, isBlank c = true) :
    next? (cs ++ after) = (next? cs).map fun m => { m with rest := m.rest ++ after } := by
  cases hm : next? cs with
  | none =>
      rw [Option.map_none, next?_eq_none]
      intro w t hw hspells
      exact next?_eq_none.mp hm w t (isPrefix_of_append hafter hspells.not_isBlank hw) hspells
  | some m =>
      have hlongest := next?_isLongest hm
      have hcs := lexeme_append_rest hm
      have hlonger : IsLongest (m.lexeme ++ (m.rest ++ after)) m.lexeme m.token :=
        { front := List.prefix_append _ _
          spells := hlongest.spells
          longest := by
            intro w t hw hspells
            rw [← List.append_assoc, hcs] at hw
            exact hlongest.longest (isPrefix_of_append hafter hspells.not_isBlank hw) hspells }
      rw [← hcs, List.append_assoc, next?_of_isLongest hlonger, Option.map_some]

/-- A scan of what comes in front of a blank goes on behind it as if it started there. -/
theorem scanFrom_append (hafter : ∀ c ∈ after.head?, isBlank c = true) (offset : Nat) :
    scanFrom offset (cs ++ after)
      = scanFrom offset cs ++ scanFrom (offset + byteLength cs) after := by
  fun_induction scanFrom offset cs with
  | case1 offset => rfl
  | case2 offset c rest hblank ih =>
      rw [List.cons_append, scanFrom_of_isBlank hblank, ih, Text.byteLength_cons, Nat.add_assoc]
  | case3 offset c rest hblank m hm stop ih =>
      have hnext : next? (c :: (rest ++ after)) = some { m with rest := m.rest ++ after } := by
        rw [← List.cons_append, next?_append hafter, hm, Option.map_some]
      have hlength : stop + byteLength m.rest = offset + byteLength (c :: rest) := by
        rw [← lexeme_append_rest hm, Text.byteLength_append, ← Nat.add_assoc]
      rw [List.cons_append, scanFrom_of_next? (by simpa using hblank) hnext, ih, hlength]
      rfl
  | case4 offset c rest hblank hm ih =>
      have hnext : next? (c :: (rest ++ after)) = none := by
        rw [← List.cons_append, next?_append hafter, hm, Option.map_none]
      rw [List.cons_append, scanFrom_of_next?_eq_none (by simpa using hblank) hnext, ih,
        Text.byteLength_cons, Nat.add_assoc]
      rfl

/-- The steps of a scan leave no choice. -/
theorem scanFrom_of_scanned {offset : Nat} {items : List (Except Unexpected Placed)}
    (h : Scanned offset cs items) : scanFrom offset cs = items := by
  induction h with
  | nil offset => exact scanFrom_nil offset
  | blank hc _ ih => rw [scanFrom_of_isBlank hc, ih]
  | @item offset c piece rest item items hc hspan hreports _ ih =>
      cases item with
      | ok t =>
          obtain ⟨token, span⟩ := t
          obtain rfl : span = _ := hspan
          have hnext := next?_of_isLongest hreports.1
          rw [List.cons_append] at hnext ⊢
          rw [scanFrom_of_next? hc hnext, ih]
      | error u =>
          obtain ⟨offset', character⟩ := u
          obtain ⟨hpiece, hnone, -⟩ := hreports
          obtain ⟨rfl, rfl⟩ := List.cons.inj hpiece
          obtain rfl : offset' = offset := congrArg Span.start hspan
          have hnext : next? (c :: rest) = none := next?_eq_none.mpr hnone
          exact (scanFrom_of_next?_eq_none hc hnext).trans (congrArg _ ih)

/-- Behind the items that a scan gave, it goes on in the rest of the text. -/
theorem exists_front_of_scanFrom {used rest : List (Except Unexpected Placed)} {offset : Nat}
    (h : scanFrom offset cs = used ++ rest) :
    ∃ front back, cs = front ++ back ∧ scanFrom (offset + byteLength front) back = rest
      ∧ (used = [] → front = []) := by
  cases used with
  | nil => exact ⟨[], cs, rfl, h, fun _ => rfl⟩
  | cons item used =>
      have hscanned := scanned_scanFrom offset cs
      rw [h] at hscanned
      obtain ⟨front, back, hcs, hback⟩ := hscanned.drop
      exact ⟨front, back, hcs, scanFrom_of_scanned hback, nofun⟩

end Append

/-! ## Without places -/

/-- An item that lies further behind in the text. -/
def moved (k : Nat) : Except Unexpected Placed → Except Unexpected Placed
  | .ok t => .ok ⟨t.token, ⟨k + t.span.start, k + t.span.stop⟩⟩
  | .error u => .error ⟨k + u.offset, u.character⟩

/-- What an item reports, but not where. -/
def bare (item : Except Unexpected Placed) : Except Char Token :=
  (item.map (·.token)).mapError (·.character)

theorem bare_moved (k : Nat) (item : Except Unexpected Placed) :
    bare (moved k item) = bare item := by
  cases item <;> rfl

/-- Where a text starts only moves what is reported of it. -/
theorem scanFrom_add (k offset : Nat) (cs : List Char) :
    scanFrom (k + offset) cs = (scanFrom offset cs).map (moved k) := by
  fun_induction scanFrom offset cs with
  | case1 offset => rw [scanFrom_nil, List.map_nil]
  | case2 offset c rest hblank ih => rw [scanFrom_of_isBlank hblank, Nat.add_assoc, ih]
  | case3 offset c rest hblank m hm stop ih =>
      rw [scanFrom_of_next? (by simpa using hblank) hm, Nat.add_assoc, ih]
      rfl
  | case4 offset c rest hblank hm ih =>
      rw [scanFrom_of_next?_eq_none (by simpa using hblank) hm, Nat.add_assoc, ih]
      rfl

theorem map_bare_scanFrom (offset : Nat) (cs : List Char) :
    (scanFrom offset cs).map bare = (scanFrom 0 cs).map bare := by
  have hmoved := scanFrom_add offset 0 cs
  rw [Nat.add_zero] at hmoved
  rw [hmoved, List.map_map]
  exact List.map_congr_left fun item _ => bare_moved offset item

/-! ## Words and gaps -/

/-- Blanks and nothing else, perhaps none. -/
def IsGap (gap : List Char) : Prop := ∀ c ∈ gap, isBlank c = true

theorem isGap_nil : IsGap [] := fun _ h => absurd h List.not_mem_nil

theorem isGap_cons {c : Char} {gap : List Char} :
    IsGap (c :: gap) ↔ isBlank c = true ∧ IsGap gap := List.forall_mem_cons

/-- Characters that are no blanks, at least one. -/
def IsWord (word : List Char) : Prop := word ≠ [] ∧ ∀ c ∈ word, isBlank c = false

/-- A text has these words, in order.  Between two of them there is a gap that is not empty; at the
ends there may be gaps. -/
inductive Spaced : List (List Char) → List Char → Prop
  | gap {gap : List Char} : IsGap gap → Spaced [] gap
  | word {gap word after : List Char} {words : List (List Char)} : IsGap gap → IsWord word →
      (∀ c ∈ after.head?, isBlank c = true) → Spaced words after →
      Spaced (word :: words) (gap ++ (word ++ after))

variable {words : List (List Char)} {cs : List Char}

theorem Spaced.cons_blank {c : Char} (hc : isBlank c = true) (h : Spaced words cs) :
    Spaced words (c :: cs) := by
  cases h with
  | gap hgap => exact .gap (isGap_cons.mpr ⟨hc, hgap⟩)
  | @word gap _ _ _ hgap hword hafter h =>
      have hgap' : IsGap (c :: gap) := isGap_cons.mpr ⟨hc, hgap⟩
      exact .word hgap' hword hafter h

/-- A character before a gap is a word of its own; before a word it belongs to the word. -/
theorem Spaced.cons_of_not_isBlank {c : Char} (hc : isBlank c = false) (h : Spaced words cs) :
    ∃ words', Spaced words' (c :: cs) := by
  have hnil : IsGap [] := by simp [IsGap]
  have hsingle : IsWord [c] := ⟨List.cons_ne_nil _ _, by simpa using hc⟩
  cases h with
  | gap hgap =>
      have hhead : ∀ d ∈ cs.head?, isBlank d = true := fun d hd => hgap d (List.mem_of_head? hd)
      exact ⟨_, .word hnil hsingle hhead (.gap hgap)⟩
  | @word gap word after words hgap hword hafter h =>
      cases gap with
      | nil =>
          have hlonger : IsWord (c :: word) :=
            ⟨List.cons_ne_nil _ _, List.forall_mem_cons.mpr ⟨hc, hword.2⟩⟩
          exact ⟨_, .word hnil hlonger hafter h⟩
      | cons b gap =>
          have hb : ∀ d ∈ (b :: gap ++ (word ++ after)).head?, isBlank d = true := by
            simpa using hgap b List.mem_cons_self
          exact ⟨_, .word hnil hsingle hb (.word hgap hword hafter h)⟩

/-- Every text has some words. -/
theorem exists_spaced (cs : List Char) : ∃ words, Spaced words cs := by
  induction cs with
  | nil => exact ⟨[], .gap isGap_nil⟩
  | cons c cs ih =>
      obtain ⟨words, h⟩ := ih
      cases hc : isBlank c with
      | true => exact ⟨words, h.cons_blank hc⟩
      | false => exact h.cons_of_not_isBlank hc

/-! ### The words of a text -/

/-- The words of a text: its characters that are no blanks, cut where a blank stands. -/
def wordsOf : List Char → List (List Char)
  | [] => []
  | c :: cs =>
    if isBlank c then wordsOf cs
    else if cs.head?.all isBlank then [c] :: wordsOf cs
    else (wordsOf cs).modifyHead (c :: ·)

theorem wordsOf_gap_append {gap : List Char} (hgap : IsGap gap) (cs : List Char) :
    wordsOf (gap ++ cs) = wordsOf cs := by
  induction gap with
  | nil => rfl
  | cons c gap ih =>
      obtain ⟨hc, hgap⟩ := isGap_cons.mp hgap
      rw [List.cons_append, wordsOf, if_pos hc, ih hgap]

theorem wordsOf_word_append {word after : List Char} (hword : IsWord word)
    (hafter : ∀ c ∈ after.head?, isBlank c = true) :
    wordsOf (word ++ after) = word :: wordsOf after := by
  obtain ⟨hne, hword⟩ := hword
  induction word with
  | nil => exact absurd rfl hne
  | cons c word ih =>
      obtain ⟨hc, hword⟩ := List.forall_mem_cons.mp hword
      rw [List.cons_append, wordsOf, if_neg (by simp [hc])]
      cases word with
      | nil =>
          have hend : after.head?.all isBlank = true := by
            cases hhead : after.head? with
            | none => rfl
            | some d => exact hafter d hhead
          rw [List.nil_append, if_pos hend]
      | cons d word =>
          have hd : isBlank d = false := hword d List.mem_cons_self
          rw [if_neg (by simp [hd]), ih (List.cons_ne_nil _ _) hword, List.modifyHead_cons]

/-- A text has its words and no others. -/
theorem spaced_iff : Spaced words cs ↔ wordsOf cs = words := by
  have hwords : ∀ {words}, Spaced words cs → wordsOf cs = words := by
    intro words h
    induction h with
    | @gap gap hgap => rw [← List.append_nil gap, wordsOf_gap_append hgap, wordsOf]
    | word hgap hword hafter _ ih =>
        rw [wordsOf_gap_append hgap, wordsOf_word_append hword hafter, ih]
  constructor
  · exact hwords
  · rintro rfl
    obtain ⟨words, h⟩ := exists_spaced cs
    rwa [hwords h]

instance (words : List (List Char)) (cs : List Char) : Decidable (Spaced words cs) :=
  decidable_of_iff (wordsOf cs = words) spaced_iff.symm

/-- A gap in front is of no word. -/
theorem spaced_gap_append {gap : List Char} (hgap : IsGap gap) :
    Spaced words (gap ++ cs) ↔ Spaced words cs := by
  rw [spaced_iff, spaced_iff, wordsOf_gap_append hgap]

theorem exists_gap (n : Nat) : ∃ gap, IsGap gap ∧ byteLength gap = n := by
  induction n with
  | zero => exact ⟨[], isGap_nil, rfl⟩
  | succ n ih =>
      obtain ⟨gap, hgap, rfl⟩ := ih
      exact ⟨' ' :: gap, isGap_cons.mpr ⟨rfl, hgap⟩, Nat.add_comm _ _⟩

/-! ## What a scan reports of words -/

theorem scanFrom_gap_append {gap : List Char} (hgap : IsGap gap) (offset : Nat) (cs : List Char) :
    scanFrom offset (gap ++ cs) = scanFrom (offset + byteLength gap) cs := by
  induction gap generalizing offset with
  | nil => rfl
  | cons c gap ih =>
      obtain ⟨hc, hgap⟩ := isGap_cons.mp hgap
      rw [List.cons_append, scanFrom_of_isBlank hc, ih hgap, Text.byteLength_cons, Nat.add_assoc]

/-- Each word is scanned by itself. -/
theorem map_bare_scanFrom_of_spaced (h : Spaced words cs) (offset : Nat) :
    (scanFrom offset cs).map bare = words.flatMap fun word => (scanFrom 0 word).map bare := by
  induction h generalizing offset with
  | @gap gap hgap =>
      rw [← List.append_nil gap, scanFrom_gap_append hgap, scanFrom_nil]
      rfl
  | @word gap word after words hgap _ hafter _ ih =>
      rw [scanFrom_gap_append hgap, scanFrom_append hafter, List.map_append, map_bare_scanFrom, ih,
        List.flatMap_cons]

variable {s t : String}

/-- Texts of the same words have the same tokens, or the same first character at which none
starts. -/
theorem tokenize_of_spaced (hs : Spaced words s.toList) (ht : Spaced words t.toList) :
    ((tokenize s).map (List.map (·.token))).mapError (·.character)
      = ((tokenize t).map (List.map (·.token))).mapError (·.character) := by
  have hscan : (scan s).map bare = (scan t).map bare :=
    (map_bare_scanFrom_of_spaced hs 0).trans (map_bare_scanFrom_of_spaced ht 0).symm
  have hmapM := congrArg (List.mapM id) hscan
  exact (Outcome.mapM_id_map _ _ _).symm.trans (hmapM.trans (Outcome.mapM_id_map _ _ _))

theorem tokenize_eq_ok_of_spaced (hs : Spaced words s.toList) (ht : Spaced words t.toList)
    {ts : List Placed} (hts : tokenize s = .ok ts) :
    ∃ ts', tokenize t = .ok ts' ∧ ts'.map (·.token) = ts.map (·.token) := by
  have hsame := tokenize_of_spaced hs ht
  rw [hts] at hsame
  exact Outcome.map_eq_ok.mp (Outcome.mapError_eq_ok.mp hsame.symm)

theorem tokenize_eq_error_of_spaced (hs : Spaced words s.toList) (ht : Spaced words t.toList)
    {u : Unexpected} (hu : tokenize s = .error u) :
    ∃ u', tokenize t = .error u' ∧ u'.character = u.character := by
  have hsame := tokenize_of_spaced hs ht
  rw [hu] at hsame
  obtain ⟨u', hu', hcharacter⟩ := Outcome.mapError_eq_error.mp hsame.symm
  exact ⟨u', Outcome.map_eq_error.mp hu', hcharacter⟩

/-! ## Two texts with a gap between them -/

/-- A text is scanned up to a gap as if it ended there, and behind it as if it started there.  Only
the offsets go on. -/
theorem scan_append_gap (a b : String) {gap : String} (hne : gap ≠ "") (hgap : IsGap gap.toList) :
    scan (a ++ gap ++ b) = scan a ++ (scan b).map (moved (byteLength (a ++ gap).toList)) := by
  obtain ⟨c, rest, hcons⟩ : ∃ c rest, gap.toList = c :: rest :=
    List.exists_cons_of_ne_nil (mt String.toList_eq_nil_iff.mp hne)
  have hafter : ∀ d ∈ (gap.toList ++ b.toList).head?, isBlank d = true := by
    rw [hcons] at hgap ⊢
    simpa using hgap c List.mem_cons_self
  have hmoved := scanFrom_add (byteLength (a ++ gap).toList) 0 b.toList
  rw [String.toList_append, Text.byteLength_append, Nat.add_zero] at hmoved
  simp only [scan, String.toList_append, Text.byteLength_append, List.append_assoc]
  rw [scanFrom_append hafter, scanFrom_gap_append hgap, Nat.zero_add, hmoved]

/-- Names and numbers that end in a point, and an angle bracket without its equals sign. -/
theorem scan_append_gap_unfinished :
    "\t\n" ≠ "" ∧ IsGap "\t\n".toList
      ∧ scan "2*v." = [.ok ⟨.number (.ofInt 2), ⟨0, 1⟩⟩, .ok ⟨.star, ⟨1, 2⟩⟩,
        .ok ⟨.identifier "v", ⟨2, 3⟩⟩, .error ⟨3, '.'⟩]
      ∧ scan "w <1." = [.ok ⟨.identifier "w", ⟨0, 1⟩⟩, .error ⟨2, '<'⟩,
        .ok ⟨.number .one, ⟨3, 4⟩⟩, .error ⟨4, '.'⟩]
      ∧ scan ("2*v." ++ "\t\n" ++ "w <1.") = scan "2*v."
        ++ (scan "w <1.").map (moved (byteLength ("2*v." ++ "\t\n").toList)) := by
  have hgap : IsGap "\t\n".toList := by simp [IsGap, isBlank]
  exact ⟨by decide, hgap, by decide +kernel, by decide +kernel,
    scan_append_gap "2*v." "w <1." (by decide) hgap⟩

end LayoutLang.Token
