import LayoutLang.Command.Run
import LayoutLang.Proofs.Batch
import LayoutLang.Proofs.Constraint.Line

/-!
# A run is all or nothing

A run compiles its formats as one batch.  It prints the constraints of all of them, or it prints
none and reports the failures; it never does both.  `Outcome.AllOrNothing` says what is left in each
case, against compiling the formats one at a time.

The cases of `run` are opened once, one lemma each, and nothing below looks into it again.  That a
report belongs to the format it is shown under needs that the number of a failure is the place of
its format in the list; the batch sees to that.
-/

namespace LayoutLang.Command

variable {a : Arguments} {file : Option String}

/-! ## The cases of a run -/

theorem run_of_empty (h : formatsOf a file = []) :
    run a file = .abort "" "no format strings given" := by
  rw [run, h]

theorem run_of_compiled {cs : List (Constraint String)} (hne : formatsOf a file ≠ [])
    (h : compileBatch (settingsOf a) (tablesOf a) (formatsOf a file) = (cs, [])) :
    run a file = ⟨0, Text.unlines (cs.map (printed a.debug)), ""⟩ := by
  unfold run
  split
  · next hempty => exact absurd hempty hne
  · rw [h]

theorem run_of_rejected {cs : List (Constraint String)} {f : BatchFailure}
    {fs : List BatchFailure}
    (h : compileBatch (settingsOf a) (tablesOf a) (formatsOf a file) = (cs, f :: fs)) :
    run a file = .abort (String.join ((f :: fs).map (failureReport (formatsOf a file).toArray)))
      (failureCount (f :: fs).length) := by
  unfold run
  split
  · next hempty =>
    rw [hempty] at h
    cases h
  · rw [h]

/-- A run depends on its arguments through its formats, what becomes of each of them, and the form in
which constraints are printed. -/
theorem run_congr {b : Arguments} {file' : Option String}
    (hformats : formatsOf a file = formatsOf b file')
    (hcompile : ∀ format, compile (settingsOf a) (tablesOf a) format
      = compile (settingsOf b) (tablesOf b) format)
    (hdebug : a.debug = b.debug) : run a file = run b file' := by
  have hbatch : compileBatch (settingsOf a) (tablesOf a)
      = compileBatch (settingsOf b) (tablesOf b) := by
    funext formats
    simp only [compileBatch, compileEach, hcompile]
  simp only [run, hformats, hbatch, hdebug]

/-! ## What is printed -/

/-- A run has no view but those that were given to it by their names. -/
theorem selfNamed_tablesOf (a : Arguments) : (tablesOf a).views.SelfNamed := by
  refine Table.selfNamed_of_entries ?_
  intro e he
  obtain ⟨v, -, rfl⟩ := List.mem_map.mp he
  rfl

theorem exists_format_of_mem {settings : Settings} {tables : Tables String}
    {formats : List String} {cs : List (Constraint String)}
    (h : List.Forall₂ (fun format c => compile settings tables format = .ok c) formats cs) :
    ∀ c ∈ cs, ∃ format, compile settings tables format = .ok c := by
  induction h with
  | nil => simp
  | @cons format c formats cs hc _ ih =>
      intro d hd
      rcases List.mem_cons.mp hd with rfl | hd
      · exact ⟨format, hc⟩
      · exact ih d hd

/-- The canonical text of a constraint takes one line. -/
theorem newline_not_mem_text_of_compile {format : String} {c : Constraint String}
    (h : compile (settingsOf a) (tablesOf a) format = .ok c) : '\n' ∉ c.text.toList := by
  obtain ⟨⟨hfirst, -⟩, hsecond⟩ := named_of_compile (selfNamed_tablesOf a) h
  exact Constraint.newline_not_mem_text hfirst fun v hv => (hsecond v hv).1

/-- What is printed has one line for each constraint, and no more. -/
theorem lines_unlines_text {formats : List String} {cs : List (Constraint String)}
    (h : List.Forall₂ (fun format c => compile (settingsOf a) (tablesOf a) format = .ok c)
      formats cs) :
    Text.lines (Text.unlines (cs.map Constraint.text)).toList
      = cs.map (·.text.toList) ++ [[]] := by
  have hlines : ∀ line ∈ cs.map Constraint.text, '\n' ∉ line.toList := by
    intro line hline
    obtain ⟨c, hc, rfl⟩ := List.mem_map.mp hline
    obtain ⟨format, hcompile⟩ := exists_format_of_mem h c hc
    exact newline_not_mem_text_of_compile hcompile
  rw [Text.lines_unlines hlines, List.map_map]
  rfl

/-! ## What is reported -/

/-- The report of a failure: its number, and the diagnostic under the format of this number. -/
inductive IsReport (formats : List String) (f : BatchFailure) : String → Prop
  | mk {format : String} : formats[f.index]? = some format →
      IsReport formats f
        ("constraint #" ++ toString f.index ++ ":\n" ++ f.reason.diagnostic format ++ "\n")

/-- The last line of a run that fails: how many failures there were. -/
def lastLine (n : Nat) : String :=
  "Error: " ++ (if n = 1 then "1 constraint" else toString n ++ " constraints")
    ++ " failed to compile\n"

theorem lastLine_eq (n : Nat) : lastLine n = "Error: " ++ failureCount n ++ "\n" := by
  by_cases h : n = 1
  · subst h
    rfl
  · simp [lastLine, failureCount, h, String.append_assoc]

theorem isReport_failureReport {settings : Settings} {tables : Tables String}
    {formats : List String} {f : BatchFailure} (h : f.OfText settings tables formats) :
    IsReport formats f (failureReport formats.toArray f) := by
  obtain ⟨format, hformat, -⟩ := h
  have hreport : failureReport formats.toArray f
      = "constraint #" ++ toString f.index ++ ":\n" ++ f.reason.diagnostic format ++ "\n" := by
    simp [failureReport, hformat]
  rw [hreport]
  exact .mk hformat

/-! ## All or nothing -/

/-- What a run of some formats leaves.  Without formats there is nothing to do.  If all of them
compile, their constraints are printed, in order, and nothing is reported.  Otherwise no constraint
is printed, and the failures are reported in order, and then counted. -/
structure Outcome.AllOrNothing (a : Arguments) (formats : List String) (o : Outcome) : Prop where
  empty : formats = [] →
    o.code = 1 ∧ o.stdout = "" ∧ o.stderr = "Error: no format strings given\n"
  compiled : formats ≠ [] →
    (∀ format ∈ formats, ∃ c, compile (settingsOf a) (tablesOf a) format = .ok c) →
    o.code = 0 ∧ o.stderr = ""
      ∧ ∃ cs, List.Forall₂ (fun format c => compile (settingsOf a) (tablesOf a) format = .ok c)
          formats cs
        ∧ o.stdout = Text.unlines (cs.map (printed a.debug))
        ∧ (a.debug = false → Text.lines o.stdout.toList = cs.map (·.text.toList) ++ [[]])
  rejected : (∃ format ∈ formats, ∃ e, compile (settingsOf a) (tablesOf a) format = .error e) →
    o.code = 1 ∧ o.stdout = ""
      ∧ ∃ fs reports, (∀ f, f ∈ fs ↔ f.OfText (settingsOf a) (tablesOf a) formats)
        ∧ fs.Pairwise (fun f g => f.index < g.index)
        ∧ List.Forall₂ (IsReport formats) fs reports
        ∧ o.stderr = String.join reports ++ lastLine fs.length

end LayoutLang.Command
