import LayoutLang.Batch
import LayoutLang.Proofs.Outcome
import Mathlib.Data.List.Forall2

/-!
# What the three answers to a batch say

All constraints or the first failure, only the failures, or both: each of these is tied here to
compiling the texts one at a time, and so to the others.

The proofs go over `Divided`, which divides the texts of a batch into constraints and failures one
text after another, where a failure gets the number of its text.  Each property of the answers is
an induction on it, and that the answers are so divided is shown once (`divided_compileBatch`).
-/

namespace LayoutLang

variable {View : Type} {settings : Settings} {tables : Tables View} {texts : List String}

/-- The text of this number fails, for this reason. -/
def BatchFailure.OfText (settings : Settings) (tables : Tables View) (texts : List String)
    (f : BatchFailure) : Prop :=
  ∃ text, texts[f.index]? = some text ∧ compile settings tables text = .error f.reason

/-! ## Successes and failures of a list -/

section Outcomes

variable {ε α : Type} {xs : List (Except ε α)}

@[simp] theorem successes_nil : successes ([] : List (Except ε α)) = [] := rfl

@[simp] theorem successes_ok (a : α) : successes (.ok a :: xs) = a :: successes xs := rfl

@[simp] theorem successes_error (e : ε) : successes (.error e :: xs) = successes xs := rfl

@[simp] theorem failures_nil : failures ([] : List (Except ε α)) = [] := rfl

@[simp] theorem failures_ok (a : α) : failures (.ok a :: xs) = failures xs := rfl

@[simp] theorem failures_error (e : ε) : failures (.error e :: xs) = e :: failures xs := rfl

/-- All outcomes are wanted: they are had if there is no failure. -/
theorem mapM_id_eq_ok_iff {ys : List α} :
    xs.mapM id = .ok ys ↔ failures xs = [] ∧ successes xs = ys := by
  rw [Outcome.mapM_id_eq_ok]
  induction xs generalizing ys with
  | nil => cases ys <;> simp
  | cons x xs ih =>
      cases x with
      | error e => cases ys <;> simp
      | ok a => cases ys <;> simp [ih, and_left_comm]

/-- Otherwise the first failure is had. -/
theorem mapM_id_eq_error_iff {e : ε} : xs.mapM id = .error e ↔ (failures xs).head? = some e := by
  rw [Outcome.mapM_id_eq_error]
  constructor
  · rintro ⟨ys, rest, rfl⟩
    induction ys with
    | nil => rfl
    | cons y ys ih => exact ih
  · intro h
    induction xs with
    | nil => cases h
    | cons x xs ih =>
        cases x with
        | error e' =>
            cases h
            exact ⟨[], xs, rfl⟩
        | ok a =>
            obtain ⟨ys, rest, rfl⟩ := ih h
            exact ⟨a :: ys, rest, rfl⟩

end Outcomes

/-! ## Text by text -/

/-- Texts that are numbered from `n` on, divided into constraints and failures. -/
inductive Divided (settings : Settings) (tables : Tables View) :
    Nat → List String → List (Constraint View) → List BatchFailure → Prop
  | nil (n : Nat) : Divided settings tables n [] [] []
  | compiled {n : Nat} {text : String} {texts : List String} {c : Constraint View}
      {cs : List (Constraint View)} {fs : List BatchFailure} :
      compile settings tables text = .ok c → Divided settings tables (n + 1) texts cs fs →
      Divided settings tables n (text :: texts) (c :: cs) fs
  | rejected {n : Nat} {text : String} {texts : List String} {e : Rejection}
      {cs : List (Constraint View)} {fs : List BatchFailure} :
      compile settings tables text = .error e → Divided settings tables (n + 1) texts cs fs →
      Divided settings tables n (text :: texts) cs (⟨n, e⟩ :: fs)

theorem divided_zipIdx (settings : Settings) (tables : Tables View) (texts : List String) (n : Nat)
    {results : List (Except BatchFailure (Constraint View))}
    (h : results = (texts.zipIdx n).map fun (text, index) =>
      (compile settings tables text).mapError (⟨index, ·⟩)) :
    Divided settings tables n texts (successes results) (failures results) := by
  induction texts generalizing n results with
  | nil =>
      rw [h]
      exact .nil n
  | cons text texts ih =>
      have hrest := ih (n + 1) rfl
      rw [h, List.zipIdx_cons, List.map_cons]
      cases hcompile : compile settings tables text with
      | ok c =>
          dsimp only
          rw [hcompile]
          exact .compiled hcompile hrest
      | error e =>
          dsimp only
          rw [hcompile]
          exact .rejected hcompile hrest

theorem divided_compileBatch (settings : Settings) (tables : Tables View) (texts : List String) :
    Divided settings tables 0 texts (compileBatch settings tables texts).1
      (checkAll settings tables texts) :=
  divided_zipIdx settings tables texts 0 rfl

theorem divided_of_compileBatch {cs : List (Constraint View)} {fs : List BatchFailure}
    (h : compileBatch settings tables texts = (cs, fs)) :
    Divided settings tables 0 texts cs fs := by
  cases h
  exact divided_compileBatch settings tables texts

namespace Divided

variable {n : Nat} {cs : List (Constraint View)} {fs : List BatchFailure}

/-- A failure is that of some text, and has its number. -/
theorem mem_iff (h : Divided settings tables n texts cs fs) {f : BatchFailure} :
    f ∈ fs ↔ ∃ i text, f.index = n + i ∧ texts[i]? = some text
      ∧ compile settings tables text = .error f.reason := by
  induction h with
  | nil n => simp
  | @compiled n text texts c cs fs hc _ ih =>
      rw [ih]
      constructor
      · rintro ⟨i, text', hindex, htext, hfails⟩
        exact ⟨i + 1, text', by omega, htext, hfails⟩
      · rintro ⟨i, text', hindex, htext, hfails⟩
        cases i with
        | zero =>
            cases htext
            cases hc.symm.trans hfails
        | succ i => exact ⟨i, text', by omega, htext, hfails⟩
  | @rejected n text texts e cs fs he _ ih =>
      rw [List.mem_cons, ih]
      constructor
      · rintro (rfl | ⟨i, text', hindex, htext, hfails⟩)
        · exact ⟨0, text, rfl, rfl, he⟩
        · exact ⟨i + 1, text', by omega, htext, hfails⟩
      · rintro ⟨i, text', hindex, htext, hfails⟩
        cases i with
        | zero =>
            cases htext
            obtain ⟨index, reason⟩ := f
            cases hindex
            cases he.symm.trans hfails
            exact .inl rfl
        | succ i => exact .inr ⟨i, text', by omega, htext, hfails⟩

/-- Where the texts are numbered from 0, that is their place in the list. -/
theorem mem_iff_ofText (h : Divided settings tables 0 texts cs fs) {f : BatchFailure} :
    f ∈ fs ↔ f.OfText settings tables texts := by
  rw [h.mem_iff]
  constructor
  · rintro ⟨i, text, hindex, htext, hfails⟩
    obtain rfl : f.index = i := by omega
    exact ⟨text, htext, hfails⟩
  · rintro ⟨text, htext, hfails⟩
    exact ⟨f.index, text, by omega, htext, hfails⟩

theorem le_index (h : Divided settings tables n texts cs fs) : ∀ f ∈ fs, n ≤ f.index := by
  intro f hf
  obtain ⟨i, _, hindex, _⟩ := h.mem_iff.mp hf
  omega

/-- The failures come in the order of their texts. -/
theorem pairwise (h : Divided settings tables n texts cs fs) :
    fs.Pairwise fun f g => f.index < g.index := by
  induction h with
  | nil n => exact .nil
  | compiled _ _ ih => exact ih
  | rejected _ hrest ih => exact .cons (fun g hg => hrest.le_index g hg) ih

/-- The constraints are those of the texts that compile. -/
theorem constraints_eq (h : Divided settings tables n texts cs fs) :
    cs = texts.filterMap fun text => (compile settings tables text).toOption := by
  induction h with
  | nil n => rfl
  | compiled hc _ ih => rw [List.filterMap_cons, hc, ← ih]; rfl
  | rejected he _ ih => rw [List.filterMap_cons, he, ← ih]; rfl

/-- There is no failure if every text compiles. -/
theorem failures_eq_nil_iff (h : Divided settings tables n texts cs fs) :
    fs = [] ↔ ∀ text ∈ texts, ∃ c, compile settings tables text = .ok c := by
  induction h with
  | nil n => simp
  | compiled hc _ ih => simp [ih, hc]
  | rejected he _ _ => simp [he]

/-- Then there is a constraint for each. -/
theorem constraints_eq_iff (h : Divided settings tables n texts cs fs)
    {ds : List (Constraint View)} :
    fs = [] ∧ cs = ds ↔
      List.Forall₂ (fun text c => compile settings tables text = .ok c) texts ds := by
  induction h generalizing ds with
  | nil n => cases ds <;> simp
  | @compiled n text texts c cs fs hc _ ih =>
      cases ds with
      | nil => simp
      | cons d ds => simp [← ih, hc, and_left_comm]
  | @rejected n text texts e cs fs he _ ih => cases ds <;> simp [he]

end Divided

/-! ## The answers -/

theorem mem_checkAll_iff {f : BatchFailure} :
    f ∈ checkAll settings tables texts ↔ f.OfText settings tables texts :=
  (divided_compileBatch settings tables texts).mem_iff_ofText

theorem pairwise_checkAll (settings : Settings) (tables : Tables View) (texts : List String) :
    (checkAll settings tables texts).Pairwise fun f g => f.index < g.index :=
  (divided_compileBatch settings tables texts).pairwise

/-- Of failures in order the first is the one of the least number. -/
theorem head?_eq_some_iff_least {fs : List BatchFailure}
    (h : fs.Pairwise fun f g => f.index < g.index) {f : BatchFailure} :
    fs.head? = some f ↔ f ∈ fs ∧ ∀ g ∈ fs, f.index ≤ g.index := by
  cases h with
  | nil => simp
  | @cons first rest hfirst _ =>
      constructor
      · intro hf
        cases hf
        refine ⟨List.mem_cons_self, ?_⟩
        intro g hg
        rcases List.mem_cons.mp hg with rfl | hg
        · exact Nat.le_refl _
        · exact Nat.le_of_lt (hfirst g hg)
      · rintro ⟨hf, hleast⟩
        rcases List.mem_cons.mp hf with rfl | hf
        · rfl
        · have hle := hleast first List.mem_cons_self
          have hlt := hfirst f hf
          omega

theorem compileAll_eq_ok_iff {cs : List (Constraint View)} :
    compileAll settings tables texts = .ok cs ↔
      checkAll settings tables texts = [] ∧ (compileBatch settings tables texts).1 = cs :=
  mapM_id_eq_ok_iff

theorem compileAll_eq_error_iff {f : BatchFailure} :
    compileAll settings tables texts = .error f ↔
      (checkAll settings tables texts).head? = some f :=
  mapM_id_eq_error_iff

/-- Each text has its constraint, if there is no failure. -/
theorem compileBatch_eq_iff {cs : List (Constraint View)} :
    checkAll settings tables texts = [] ∧ (compileBatch settings tables texts).1 = cs ↔
      List.Forall₂ (fun text c => compile settings tables text = .ok c) texts cs :=
  (divided_compileBatch settings tables texts).constraints_eq_iff

/-- What the three answers to a batch say of its texts, and of each other. -/
structure BatchAnswers (settings : Settings) (tables : Tables View) (texts : List String) :
    Prop where
  /-- All constraints are had if every text has one; they come in the order of the texts. -/
  all_ok : ∀ cs, compileAll settings tables texts = .ok cs ↔
    List.Forall₂ (fun text c => compile settings tables text = .ok c) texts cs
  all_ok_iff : (∃ cs, compileAll settings tables texts = .ok cs) ↔
    ∀ text ∈ texts, ∃ c, compile settings tables text = .ok c
  /-- Otherwise the failure of the least number is had. -/
  all_error : ∀ f, compileAll settings tables texts = .error f ↔ f.OfText settings tables texts
    ∧ ∀ g : BatchFailure, g.OfText settings tables texts → f.index ≤ g.index
  check_mem : ∀ f, f ∈ checkAll settings tables texts ↔ f.OfText settings tables texts
  check_ordered : (checkAll settings tables texts).Pairwise fun f g => f.index < g.index
  both : compileBatch settings tables texts
    = (texts.filterMap fun text => (compile settings tables text).toOption,
      checkAll settings tables texts)
  all_error_iff : (∃ f, compileAll settings tables texts = .error f) ↔
    checkAll settings tables texts ≠ []
  all_error_first : ∀ f, compileAll settings tables texts = .error f ↔
    (checkAll settings tables texts).head? = some f
  all_eq_both : checkAll settings tables texts = [] ↔
    compileAll settings tables texts = .ok (compileBatch settings tables texts).1

/-- The three answers to a batch agree with compiling each text by itself, and with each other. -/
theorem batch_answers (settings : Settings) (tables : Tables View) (texts : List String) :
    BatchAnswers settings tables texts where
  all_ok cs := compileAll_eq_ok_iff.trans compileBatch_eq_iff
  all_ok_iff := by
    rw [← (divided_compileBatch settings tables texts).failures_eq_nil_iff]
    simp [compileAll_eq_ok_iff]
  all_error f := by
    rw [compileAll_eq_error_iff, head?_eq_some_iff_least (pairwise_checkAll settings tables texts)]
    simp only [mem_checkAll_iff]
  check_mem f := mem_checkAll_iff
  check_ordered := pairwise_checkAll settings tables texts
  both := Prod.ext (divided_compileBatch settings tables texts).constraints_eq rfl
  all_error_iff := by
    simp only [compileAll_eq_error_iff, ← Option.isSome_iff_exists, List.isSome_head?]
  all_error_first f := compileAll_eq_error_iff
  all_eq_both := by simp [compileAll_eq_ok_iff]

end LayoutLang
