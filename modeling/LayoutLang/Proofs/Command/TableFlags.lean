import LayoutLang.Proofs.Command.Arguments
import LayoutLang.Proofs.Command.Metric
import LayoutLang.Proofs.Command.Run
import LayoutLang.Proofs.Resolution.Lookup
import Mathlib.Logic.Relation

/-!
# The order of the flags that fill the tables

A text is compiled with its tables through what they have under a name, and nothing else of them is
seen (`compile_congr`).  Under its name a view has itself, so of the flags of views it is only seen
which there are; a metric has the value that the last flag of its name gives it, the name being the
text before the equals sign, trimmed (`TableFlags.Fills`).

`Rearranged` lists what may be done to the flags.  Each step leaves what is seen of them
(`Rearranged.sameTables`), so any number of steps does, and with it the refusal of the command line
or the outcome of its run (`runOfWords_of_rearranged`).
-/

namespace LayoutLang

open Outcome (mapError_id)

/-- Tables that have the same under each name compile every text to the same. -/
theorem compile_congr {View : Type} {tables tables' : Tables View}
    (hviews : ∀ n, tables.views.find? n = tables'.views.find? n)
    (hmetrics : ∀ n, tables.metrics.find? n = tables'.metrics.find? n) (settings : Settings)
    (text : String) : compile settings tables text = compile settings tables' text := by
  have hresolve : ∀ s : Statement, s.resolve settings tables = s.resolve settings tables' := by
    intro s
    have hagree : tables.AgreeFor s tables' :=
      { first_view := hviews _
        second_view := fun n _ => hviews n
        metrics := fun n _ => hmetrics n
        bare := fun n _ _ => hmetrics n.text }
    have hsame := (hagree.alike id).resolve settings
    rwa [mapError_id, mapError_id] at hsame
  simp only [compile, hresolve]

namespace Command

/-! ## Flags of metrics -/

/-- The name in the text of a metric. -/
def metricName (text : String) : String :=
  .ofList (Text.trim (text.toList.takeWhile (· ≠ '=')))

theorem fst_of_metricOfText {text : String} {e : String × Binary64}
    (h : metricOfText text = .ok e) : e.1 = metricName text := by
  obtain ⟨left, right, value, htext, hleft, hname, -⟩ := metricOfText_eq_ok_iff.mp h
  rw [metricName, htext, (cut_equals hleft right).1, Text.trim_eq_iff.mpr hname,
    String.ofList_toList]

/-- The last of some metrics that has the name. -/
def lastNamed? (name : String) (metrics : List String) : Option String :=
  (metrics.filter fun text => metricName text = name).getLast?

theorem lastNamed?_append (name : String) (ms ms' : List String) :
    lastNamed? name (ms ++ ms') = (lastNamed? name ms').or (lastNamed? name ms) := by
  simp [lastNamed?, List.getLast?_append]

theorem lastNamed?_cons (name text : String) (ms : List String) :
    lastNamed? name (text :: ms)
      = (lastNamed? name ms).or (if metricName text = name then some text else none) := by
  rw [← List.singleton_append, lastNamed?_append]
  by_cases h : metricName text = name <;> simp [lastNamed?, h]

theorem isSome_lastNamed? {text : String} {ms : List String} (h : text ∈ ms) :
    (lastNamed? (metricName text) ms).isSome = true := by
  rw [lastNamed?, List.getLast?_isSome]
  exact List.ne_nil_of_mem (List.mem_filter.mpr ⟨h, by simp⟩)

/-- A metric stands for what the last flag of its name gives it. -/
theorem findIn?_metrics {ms : List String} {entries : List (String × Binary64)}
    (h : List.Forall₂ (fun text e => metricOfText text = .ok e) ms entries) (name : String) :
    Option.Rel (fun text x => ∃ key, metricOfText text = .ok (key, x)) (lastNamed? name ms)
      (Table.findIn? name entries) := by
  induction h with
  | nil => exact .none
  | @cons text e ms entries he _ ih =>
      obtain ⟨key, x⟩ := e
      have hkey : key = metricName text := fst_of_metricOfText he
      rw [lastNamed?_cons, Table.findIn?, hkey]
      generalize lastNamed? name ms = last, Table.findIn? name entries = found at ih
      cases ih with
      | some hlast => exact .some hlast
      | none =>
          rw [Option.none_or]
          split
          · exact .some ⟨key, he⟩
          · exact .none

/-! ## Flags of views -/

/-- A view stands for itself. -/
theorem findIn?_views (name : String) (vs : List String) :
    Table.findIn? name (vs.map fun v => (v, v)) = if name ∈ vs then some name else none := by
  induction vs with
  | nil => rfl
  | cons v vs ih =>
      rw [List.map_cons, Table.findIn?, ih]
      by_cases hmem : name ∈ vs
      · simp [hmem]
      · by_cases hv : v = name
        · simp [hmem, hv]
        · simp [hmem, hv, Ne.symm hv]

namespace TableFlags

/-! ## What may be done to the flags -/

/-- One step: the views in another order, or one of them again; the metrics in another order that
leaves those of each name in theirs, or one of them left out if another of its name comes later. -/
inductive Rearranged : TableFlags → TableFlags → Prop
  | permuteViews {views views' metrics : List String} : views.Perm views' →
      Rearranged ⟨views, metrics⟩ ⟨views', metrics⟩
  | repeatView {view : String} {front back metrics : List String} : view ∈ front ++ back →
      Rearranged ⟨front ++ back, metrics⟩ ⟨front ++ view :: back, metrics⟩
  | permuteMetrics {views metrics metrics' : List String} : metrics.Perm metrics' →
      (∀ name, metrics.filter (metricName · = name) = metrics'.filter (metricName · = name)) →
      Rearranged ⟨views, metrics⟩ ⟨views, metrics'⟩
  | dropMetric {views front back : List String} {text later : String} : later ∈ back →
      metricName later = metricName text →
      Rearranged ⟨views, front ++ text :: back⟩ ⟨views, front ++ back⟩

/-- What is seen of some flags is seen of others, which have no metrics but those of the first. -/
structure SameTables (flags flags' : TableFlags) : Prop where
  views : ∀ view, view ∈ flags'.views ↔ view ∈ flags.views
  metrics : ∀ text ∈ flags'.metrics, text ∈ flags.metrics
  lastNamed : ∀ name, lastNamed? name flags'.metrics = lastNamed? name flags.metrics

variable {flags flags' flags'' : TableFlags}

theorem SameTables.trans (h : flags.SameTables flags') (h' : flags'.SameTables flags'') :
    flags.SameTables flags'' where
  views view := (h'.views view).trans (h.views view)
  metrics text htext := h.metrics text (h'.metrics text htext)
  lastNamed name := (h'.lastNamed name).trans (h.lastNamed name)

theorem Rearranged.sameTables (h : Rearranged flags flags') : flags.SameTables flags' := by
  cases h with
  | permuteViews hperm =>
      exact ⟨fun view => hperm.mem_iff.symm, fun _ => id, fun _ => rfl⟩
  | repeatView hview =>
      refine ⟨?_, fun _ => id, fun _ => rfl⟩
      intro v
      constructor
      · intro hv
        rcases List.mem_append.mp hv with hv | hv
        · exact List.mem_append_left _ hv
        · rcases List.mem_cons.mp hv with rfl | hv
          · exact hview
          · exact List.mem_append_right _ hv
      · intro hv
        exact (List.sublist_cons_self _ _).append_left _ |>.subset hv
  | permuteMetrics hperm horder =>
      refine ⟨fun _ => .rfl, fun text => hperm.mem_iff.mpr, ?_⟩
      intro name
      rw [lastNamed?, lastNamed?, horder]
  | @dropMetric views front back text later hlater hname =>
      refine ⟨fun _ => .rfl, ?_, ?_⟩
      · intro m hm
        exact ((List.sublist_cons_self text back).append_left front).subset hm
      · intro name
        rw [lastNamed?_append, lastNamed?_append, lastNamed?_cons]
        by_cases h : metricName text = name
        · subst h
          obtain ⟨last, hlast⟩ := Option.isSome_iff_exists.mp (hname ▸ isSome_lastNamed? hlater)
          rw [hlast, Option.some_or]
          rfl
        · rw [if_neg h, Option.or_none]

/-- Any number of steps. -/
theorem sameTables_of_rearranged (h : Relation.ReflTransGen Rearranged flags flags') :
    flags.SameTables flags' := by
  induction h with
  | refl => exact ⟨fun _ => .rfl, fun _ => id, fun _ => rfl⟩
  | tail _ hstep ih => exact ih.trans hstep.sameTables

end TableFlags

/-! ## The tables of a run -/

variable {flags flags' : TableFlags} {tables tables' : Tables String}

/-- The tables have what the flags say: each view is itself, and each metric is what the last flag
of its name makes it. -/
structure TableFlags.Fills (flags : TableFlags) (tables : Tables String) : Prop where
  views : ∀ name, tables.views.find? name = if name ∈ flags.views then some name else none
  metrics : ∀ name, Option.Rel (fun text x => ∃ key, metricOfText text = .ok (key, x))
    (lastNamed? name flags.metrics) (tables.metrics.find? name)

theorem fills_withTables {entries : List (String × Binary64)}
    (hentries : List.Forall₂ (fun text e => metricOfText text = .ok e) flags.metrics entries)
    {a : Arguments} (hviews : a.views = []) (hmetrics : a.metrics = []) :
    flags.Fills (tablesOf (a.withTables flags.views entries)) := by
  have htables : tablesOf (a.withTables flags.views entries)
      = ⟨⟨flags.views.map fun v => (v, v)⟩, ⟨entries⟩⟩ := by
    simp [tablesOf, Arguments.withTables, hviews, hmetrics]
  rw [htables]
  exact ⟨fun name => findIn?_views name flags.views, findIn?_metrics hentries⟩

theorem TableFlags.Fills.find?_metrics (h : flags.SameTables flags') (hfills : flags.Fills tables)
    (hfills' : flags'.Fills tables') (name : String) :
    tables.metrics.find? name = tables'.metrics.find? name := by
  have hfound := hfills.metrics name
  have hfound' := hfills'.metrics name
  rw [h.lastNamed] at hfound'
  generalize lastNamed? name flags.metrics = last, tables.metrics.find? name = found,
    tables'.metrics.find? name = found' at hfound hfound' ⊢
  cases hfound with
  | none =>
      cases hfound'
      rfl
  | some he =>
      cases hfound' with
      | some he' =>
          obtain ⟨key, he⟩ := he
          obtain ⟨key', he'⟩ := he'
          cases he.symm.trans he'
          rfl

theorem TableFlags.Fills.compile_eq (h : flags.SameTables flags') (hfills : flags.Fills tables)
    (hfills' : flags'.Fills tables') (settings : Settings) (text : String) :
    compile settings tables text = compile settings tables' text := by
  refine compile_congr ?_ (find?_metrics h hfills hfills') settings text
  intro name
  simp only [hfills.views, hfills'.views, h.views]

/-! ## Runs -/

/-- What becomes of a command line: it is refused, or a run follows that reads this file, and leaves
this if it is given the text of the file. -/
def runOfWords (words : List String) : Except Refusal (Option String × (Option String → Outcome)) :=
  (Arguments.ofWords words).map fun a => (a.file, run a)

/-- All metrics of the flags have a name and a value. -/
def TableFlags.Parsed (flags : TableFlags) : Prop :=
  ∀ text ∈ flags.metrics, ∃ e, metricOfText text = .ok e

theorem TableFlags.Parsed.exists_entries (h : flags.Parsed) :
    ∃ entries, List.Forall₂ (fun text e => metricOfText text = .ok e) flags.metrics entries := by
  obtain ⟨views, metrics⟩ := flags
  induction metrics with
  | nil => exact ⟨[], .nil⟩
  | cons text metrics ih =>
      obtain ⟨e, he⟩ := h text List.mem_cons_self
      obtain ⟨entries, hentries⟩ := ih fun m hm => h m (List.mem_cons_of_mem _ hm)
      exact ⟨e :: entries, .cons he hentries⟩

/-- The order of the flags that fill the tables does not matter, but for the last metric of each
name, which is the one that is had. -/
theorem runOfWords_of_rearranged {words words' others : List String}
    (h : Divides words flags others) (h' : Divides words' flags' others) (hparsed : flags.Parsed)
    (hsteps : Relation.ReflTransGen TableFlags.Rearranged flags flags') :
    runOfWords words' = runOfWords words
      ∧ ∀ a, Arguments.ofWords words = .ok a → flags.Fills (tablesOf a) := by
  have hsame := TableFlags.sameTables_of_rearranged hsteps
  have hparsed' : flags'.Parsed := fun text htext => hparsed text (hsame.metrics text htext)
  obtain ⟨entries, hentries⟩ := hparsed.exists_entries
  obtain ⟨entries', hentries'⟩ := hparsed'.exists_entries
  rw [runOfWords, runOfWords, Arguments.ofWords_of_divides h hentries,
    Arguments.ofWords_of_divides h' hentries']
  cases hothers : Arguments.ofWords others with
  | error refusal => exact ⟨rfl, nofun⟩
  | ok b =>
      obtain ⟨hviews, hmetrics⟩ := Arguments.tables_of_divides h hothers
      have hfills := fills_withTables hentries hviews hmetrics
      have hfills' := fills_withTables hentries' hviews hmetrics
      constructor
      · have hrun : run (b.withTables flags.views entries)
            = run (b.withTables flags'.views entries') := by
          funext file
          exact run_congr rfl (hfills.compile_eq hsame hfills' _) rfl
        show Except.ok (b.file, run (b.withTables flags'.views entries')) = _
        rw [← hrun]
        rfl
      · intro a ha
        cases ha
        exact hfills

/-- The metric `pad` is given two times. -/
def givenWords : List String :=
  ["--metric", "pad=8", "--view", "v", "v.width = pad", "--metric= pad =20", "--view=w",
    "--metric=gap=5"]

def givenFlags : TableFlags := ⟨["v", "w"], ["pad=8", " pad =20", "gap=5"]⟩

/-- Without the first of the two, in another order, and with a view twice. -/
def rearrangedWords : List String :=
  ["--view=w", "--metric=gap=5", "v.width = pad", "--metric", " pad =20", "--view=v", "--view=w"]

def rearrangedFlags : TableFlags := ⟨["w", "v", "w"], ["gap=5", " pad =20"]⟩

theorem runOfWords_of_rearranged_last :
    (Divides givenWords givenFlags ["v.width = pad"]
        ∧ Divides rearrangedWords rearrangedFlags ["v.width = pad"] ∧ givenFlags.Parsed
        ∧ Relation.ReflTransGen TableFlags.Rearranged givenFlags rearrangedFlags)
      ∧ runOfWords rearrangedWords = runOfWords givenWords
      ∧ ∀ a, Arguments.ofWords givenWords = .ok a → givenFlags.Fills (tablesOf a) := by
  have hview : IsFlag .view "v" ["--view", "v"] := .apart rfl ⟨nofun, nofun, nofun⟩ rfl
  have hview' : IsFlag .view "v" ["--view=v"] := .attached rfl
  have hsecond : IsFlag .view "w" ["--view=w"] := .attached rfl
  have hfirst : IsFlag .metric "pad=8" ["--metric", "pad=8"] := .apart rfl ⟨nofun, nofun, nofun⟩ rfl
  have hlast : IsFlag .metric " pad =20" ["--metric= pad =20"] := .attached rfl
  have hlast' : IsFlag .metric " pad =20" ["--metric", " pad =20"] :=
    .apart rfl ⟨nofun, nofun, nofun⟩ rfl
  have hgap : IsFlag .metric "gap=5" ["--metric=gap=5"] := .attached rfl
  have hformat : IsOther ["v.width = pad"] := .format rfl
  have hdivides : Divides givenWords givenFlags ["v.width = pad"] := by
    have h := Divides.metric hlast (.view hsecond (.metric hgap .nil))
    exact Divides.metric hfirst (.view hview (.other hformat h))
  have hdivides' : Divides rearrangedWords rearrangedFlags ["v.width = pad"] := by
    have h := Divides.metric hlast' (.view hview' (.view hsecond .nil))
    exact Divides.view hsecond (.metric hgap (.other hformat h))
  have hparsed : givenFlags.Parsed := by
    intro text htext
    obtain rfl | rfl | rfl : text = "pad=8" ∨ text = " pad =20" ∨ text = "gap=5" := by
      simpa [givenFlags] using htext
    · exact ⟨("pad", .ofInt 8), by decide +kernel⟩
    · exact ⟨("pad", .ofInt 20), by decide +kernel⟩
    · exact ⟨("gap", .ofInt 5), by decide +kernel⟩
  have hsteps : Relation.ReflTransGen TableFlags.Rearranged givenFlags rearrangedFlags := by
    have hdrop : TableFlags.Rearranged ⟨["v", "w"], ["pad=8", " pad =20", "gap=5"]⟩
        ⟨["v", "w"], [" pad =20", "gap=5"]⟩ :=
      @TableFlags.Rearranged.dropMetric _ [] _ _ " pad =20" (by decide) (by decide +kernel)
    have hmetrics : TableFlags.Rearranged ⟨["v", "w"], [" pad =20", "gap=5"]⟩
        ⟨["v", "w"], ["gap=5", " pad =20"]⟩ := by
      have hpad : metricName " pad =20" = "pad" := by decide +kernel
      have hgap : metricName "gap=5" = "gap" := by decide +kernel
      refine .permuteMetrics (.swap ..) ?_
      intro name
      by_cases h : "pad" = name
      · subst h
        simp [hpad, hgap]
      · simp [List.filter_cons, hpad, h, hgap]
    have hviews : TableFlags.Rearranged ⟨["v", "w"], ["gap=5", " pad =20"]⟩
        ⟨["w", "v"], ["gap=5", " pad =20"]⟩ := .permuteViews (.swap ..)
    have hrepeat : TableFlags.Rearranged ⟨["w", "v"], ["gap=5", " pad =20"]⟩
        ⟨["w", "v", "w"], ["gap=5", " pad =20"]⟩ :=
      @TableFlags.Rearranged.repeatView "w" ["w", "v"] [] _ (by decide)
    exact .tail (.tail (.tail (.single hdrop) hmetrics) hviews) hrepeat
  exact ⟨⟨hdivides, hdivides', hparsed, hsteps⟩,
    runOfWords_of_rearranged hdivides hdivides' hparsed hsteps⟩

end Command

end LayoutLang
