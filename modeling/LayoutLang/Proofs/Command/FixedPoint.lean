import LayoutLang.Proofs.Command.Run
import LayoutLang.Proofs.Constraint.RoundTrip

/-!
# What is printed prints itself

A successful run prints one canonical text a line.  A file of such lines is read as just these
formats, since none of them is blank or a comment and nothing of them is trimmed.  Each of them
compiles, to a constraint of the same text.  So a run on that file prints the file.

The metrics do not matter in the second run: a canonical text names none.  The views and the
required priority do, the one for the names and the other as the greatest priority that is allowed.
-/

namespace LayoutLang.Command

variable {a : Arguments} {file : Option String} {metrics : Table Binary64}

/-! ## Lines as formats -/

theorem isFormat_of_startsIdentifier {d : Char} (h : Token.startsIdentifier d = true)
    (rest : List Char) : isFormat (d :: rest) = true := by
  have hcomment : d ≠ '#' := by
    rintro rfl
    exact absurd h (by decide +kernel)
  simp [isFormat, hcomment]

/-- A text that is a line of its own: in a file, it is one of the formats as it stands. -/
structure IsLine (text : String) : Prop where
  newline_not_mem : '\n' ∉ text.toList
  trim_eq : Text.trim text.toList = text.toList
  isFormat : isFormat text.toList = true

/-- A file of such lines has these formats. -/
theorem formatsOfFile_unlines {ls : List String} (h : ∀ line ∈ ls, IsLine line) :
    formatsOfFile (Text.unlines ls) = ls := by
  -- The piece behind the last line feed is blank.
  have hlast : ([[]] : List (List Char)).map Text.trim = [[]] := rfl
  have htrim : (ls.map String.toList).map Text.trim = ls.map String.toList := by
    rw [List.map_map, List.map_inj_left]
    exact fun line hline => (h line hline).trim_eq
  have hfilter : (ls.map String.toList).filter isFormat = ls.map String.toList := by
    rw [List.filter_eq_self, List.forall_mem_map]
    exact fun line hline => (h line hline).isFormat
  rw [formatsOfFile, Text.lines_unlines fun line hline => (h line hline).newline_not_mem,
    List.map_append, hlast, List.filter_append, List.map_append, htrim, hfilter, List.map_map]
  simp [isFormat]

/-! ## The second run -/

theorem printed_false : printed false = Constraint.text := rfl

/-- The run succeeded because it had formats and all of them compile. -/
theorem compileBatch_of_code (h : (run a file).code = 0) :
    formatsOf a file ≠ [] ∧ ∃ cs,
      compileBatch (settingsOf a) (tablesOf a) (formatsOf a file) = (cs, []) := by
  have hne : formatsOf a file ≠ [] := by
    intro hempty
    rw [run_of_empty hempty] at h
    cases h
  obtain ⟨cs, fs, hbatch⟩ : ∃ cs fs,
      compileBatch (settingsOf a) (tablesOf a) (formatsOf a file) = (cs, fs) := ⟨_, _, rfl⟩
  cases fs with
  | nil => exact ⟨hne, cs, hbatch⟩
  | cons f fs =>
      rw [run_of_rejected hbatch] at h
      cases h

/-- The canonical text of a constraint is a line of its own. -/
theorem isLine_text_of_compile (hfinite : (settingsOf a).requiredPriority.isFinite = true)
    (hpos : .zero false < (settingsOf a).requiredPriority) {format : String} {c : Constraint String}
    (h : compile (settingsOf a) (tablesOf a) format = .ok c) : IsLine c.text := by
  obtain ⟨hformed, -, -⟩ := wellFormed_of_compile (selfNamed_tablesOf a) hfinite hpos h
  obtain ⟨d, rest, htext, hd⟩ := Constraint.head_text hformed.first_name
  exact
    { newline_not_mem := newline_not_mem_text_of_compile h
      trim_eq := Constraint.trim_text hformed.first_name hformed.priority_finite
      isFormat := by rw [htext]; exact isFormat_of_startsIdentifier hd rest }

/-- Canonical texts compile, whatever metrics there are, and their constraints have these texts. -/
theorem exists_compiled_texts (hfinite : (settingsOf a).requiredPriority.isFinite = true)
    (hpos : .zero false < (settingsOf a).requiredPriority) (metrics : Table Binary64)
    {cs : List (Constraint String)}
    (h : ∀ c ∈ cs, ∃ format, compile (settingsOf a) (tablesOf a) format = .ok c) :
    ∃ ds, List.Forall₂
        (fun format d => compile (settingsOf a) ⟨(tablesOf a).views, metrics⟩ format = .ok d)
        (cs.map Constraint.text) ds
      ∧ ds.map Constraint.text = cs.map Constraint.text := by
  induction cs with
  | nil => exact ⟨[], .nil, rfl⟩
  | cons c cs ih =>
      obtain ⟨⟨format, hc⟩, hcs⟩ := List.forall_mem_cons.mp h
      obtain ⟨hformed, hfirst, hsecond⟩ :=
        wellFormed_of_compile (selfNamed_tablesOf a) hfinite hpos hc
      obtain ⟨d, hd, -, htext⟩ : ∃ d, compile (settingsOf a) ⟨(tablesOf a).views, metrics⟩ c.text
          = .ok d ∧ d.same c = true ∧ d.text = c.text :=
        Constraint.compile_text hformed hfirst hsecond
      obtain ⟨ds, hds, htexts⟩ := ih hcs
      exact ⟨d :: ds, .cons hd hds, by rw [List.map_cons, List.map_cons, htext, htexts]⟩

/-- A successful run prints what prints itself: with the same views and the same required priority,
the run on a file of what was printed prints the same. -/
theorem run_stdout_again (hcode : (run a file).code = 0) (hdebug : a.debug = false)
    (hfinite : (settingsOf a).requiredPriority.isFinite = true)
    (hpos : .zero false < (settingsOf a).requiredPriority)
    (metrics : List (String × Binary64)) (path : String) :
    run { a with metrics := metrics, file := some path, formats := [] } (some (run a file).stdout)
      = run a file := by
  obtain ⟨hne, cs, hbatch⟩ := compileBatch_of_code hcode
  have hcs := (divided_of_compileBatch hbatch).constraints_eq_iff.mp ⟨rfl, rfl⟩
  have hcompiled := exists_format_of_mem hcs
  have hstdout : run a file = ⟨0, Text.unlines (cs.map Constraint.text), ""⟩ := by
    rw [run_of_compiled hne hbatch, hdebug, printed_false]
  obtain ⟨ds, hds, htexts⟩ := exists_compiled_texts hfinite hpos ⟨metrics⟩ hcompiled
  -- The formats of the second run are the lines that were printed.
  have hlines : ∀ line ∈ cs.map Constraint.text, IsLine line := by
    rw [List.forall_mem_map]
    intro c hc
    obtain ⟨format, hformat⟩ := hcompiled c hc
    exact isLine_text_of_compile hfinite hpos hformat
  have hagain : formatsOf { a with metrics := metrics, file := some path, formats := [] }
      (some (run a file).stdout) = cs.map Constraint.text := by
    rw [hstdout]
    exact formatsOfFile_unlines hlines
  have hne' : cs.map Constraint.text ≠ [] := by
    intro hempty
    rw [List.map_eq_nil_iff] at hempty
    rw [hempty, List.forall₂_nil_right_iff] at hcs
    exact hne hcs
  obtain ⟨hnone, hall⟩ := compileBatch_eq_iff.mpr hds
  have hbatch' : compileBatch (settingsOf a) ⟨(tablesOf a).views, ⟨metrics⟩⟩
      (cs.map Constraint.text) = (ds, []) := Prod.ext hall hnone
  rw [run_of_compiled (by rwa [hagain]) (by rw [hagain]; exact hbatch'), hstdout, hdebug,
    printed_false, htexts]

/-- Formats from both sources, with a metric that is negative. -/
def mixedArguments : Arguments where
  views := ["v", "größe"]
  metrics := [("k", .ofInt (-2))]
  requiredPriority := some (.ofInt 500)
  file := some "layout"
  formats := ["k * v.width <= größe + 3"]

def mixedFile : String := "# the rest\n\n\tgröße.top=v.bottom - 4@20 \r\nv.left >= 0.1"

theorem run_stdout_again_mixed :
    ((run mixedArguments (some mixedFile)).code = 0
        ∧ (run mixedArguments (some mixedFile)).stdout = "v.width >= -0.5 * größe - 1.5 @ 500\n"
          ++ "größe.top = v.bottom - 4 @ 20\nv.left >= 0.1 @ 500\n")
      ∧ run { mixedArguments with
            metrics := [("v", .ofInt 1)], file := some "again", formats := [] }
          (some (run mixedArguments (some mixedFile)).stdout)
        = run mixedArguments (some mixedFile) := by
  have hcode : (run mixedArguments (some mixedFile)).code = 0 := by decide +kernel
  refine ⟨⟨hcode, by decide +kernel⟩, ?_⟩
  exact run_stdout_again hcode rfl (by decide +kernel) (by decide +kernel)
    [("v", .ofInt 1)] "again"

end LayoutLang.Command
