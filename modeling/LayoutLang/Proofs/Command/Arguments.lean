import LayoutLang.Command.Arguments
import LayoutLang.Proofs.Outcome
import Mathlib.Data.List.Forall2

/-!
# Flags of tables among other words

A command line may give its flags in any order and has other words between them.  `Divides` takes
the flags that fill the tables out of it, each list in its own order, and leaves the other words in
theirs.  Every command line can be divided so (`exists_divides`), and what it asks for is then what
its other words ask for, with the tables that the flags give (`ofWords_of_divides`).

Reading goes on from what is already asked for, and the entries that a table has at the start stay
in front of those that are read (`read_withTables`).
-/

namespace LayoutLang.Command

/-! ## Division -/

/-- The flags that fill the tables, by their values as they are given. -/
structure TableFlags where
  views : List String := []
  /-- Each as `NAME=VALUE`. -/
  metrics : List String := []

def Flag.TakesValue (flag : Flag) : Prop := flag ≠ .help ∧ flag ≠ .version ∧ flag ≠ .debug

/-- The words of one flag with its value: one word, or two. -/
inductive IsFlag (flag : Flag) (value : String) : List String → Prop
  | attached {word : String} : Word.ofText word = .flag flag (some value) →
      IsFlag flag value [word]
  | apart {word : String} : Word.ofText word = .flag flag none → flag.TakesValue →
      isValue value = true → IsFlag flag value [word, value]

/-- The words of one argument that fills no table. -/
inductive IsOther : List String → Prop
  | format {word : String} : Word.ofText word = .format → IsOther [word]
  | unknown {word : String} : Word.ofText word = .unknown → IsOther [word]
  | switch {flag : Flag} {word : String} : ¬flag.TakesValue → Word.ofText word = .flag flag none →
      IsOther [word]
  | flag {flag : Flag} {value : String} {used : List String} : flag ≠ .view → flag ≠ .metric →
      IsFlag flag value used → IsOther used

/-- The words of a command line are those of these flags of tables, and these others.  Words behind
a flag that lacks its value are not read, so the flag may stand for them. -/
inductive Divides : List String → TableFlags → List String → Prop
  | nil : Divides [] {} []
  | onlyFormats {word : String} (formats : List String) : Word.ofText word = .onlyFormats →
      Divides (word :: formats) {} (word :: formats)
  | view {name : String} {used words others views metrics : List String} :
      IsFlag .view name used → Divides words ⟨views, metrics⟩ others →
      Divides (used ++ words) ⟨name :: views, metrics⟩ others
  | metric {text : String} {used words others views metrics : List String} :
      IsFlag .metric text used → Divides words ⟨views, metrics⟩ others →
      Divides (used ++ words) ⟨views, text :: metrics⟩ others
  | other {used words others : List String} {flags : TableFlags} : IsOther used →
      Divides words flags others → Divides (used ++ words) flags (used ++ others)
  | missing {flag : Flag} {word : String} {words others : List String} {flags : TableFlags} :
      Word.ofText word = .flag flag none → flag.TakesValue →
      (∀ value ∈ words.head?, isValue value = false) → Divides words flags others →
      Divides (word :: words) flags [word]

theorem Divides.flag {flag : Flag} {value : String} {used words others : List String}
    {flags : TableFlags} (hused : IsFlag flag value used) (h : Divides words flags others) :
    ∃ flags' others', Divides (used ++ words) flags' others' := by
  by_cases hview : flag = .view
  · subst hview
    exact ⟨_, _, .view hused h⟩
  · by_cases hmetric : flag = .metric
    · subst hmetric
      exact ⟨_, _, .metric hused h⟩
    · exact ⟨_, _, .other (.flag hview hmetric hused) h⟩

theorem exists_divides : ∀ words : List String, ∃ flags others, Divides words flags others
  | [] => ⟨_, _, .nil⟩
  | word :: rest => by
      obtain ⟨flags, others, hrest⟩ := exists_divides rest
      cases hword : Word.ofText word with
      | format => exact ⟨_, _, .other (.format hword) hrest⟩
      | onlyFormats => exact ⟨_, _, .onlyFormats rest hword⟩
      | unknown => exact ⟨_, _, .other (.unknown hword) hrest⟩
      | flag flag value =>
          cases value with
          | some value => exact Divides.flag (.attached hword) hrest
          | none =>
              by_cases htakes : flag.TakesValue
              · cases rest with
                | nil => exact ⟨_, _, .missing hword htakes (by simp) hrest⟩
                | cons value rest =>
                    by_cases hvalue : isValue value = true
                    · obtain ⟨flags, others, hrest⟩ := exists_divides rest
                      exact Divides.flag (.apart hword htakes hvalue) hrest
                    · have hhead : ∀ v ∈ (value :: rest).head?, isValue v = false := by
                        simpa using hvalue
                      exact ⟨_, _, .missing hword htakes hhead hrest⟩
              · exact ⟨_, _, .other (.switch htakes hword) hrest⟩

namespace Arguments

/-- More entries in front of those that the tables have. -/
def withTables (views : List String) (metrics : List (String × Binary64)) (a : Arguments) :
    Arguments :=
  { a with views := views ++ a.views, metrics := metrics ++ a.metrics }

variable {a : Arguments} {views : List String} {metrics : List (String × Binary64)}

/-! ## Reading one flag -/

/-- A flag that has to take its value from the next word. -/
theorem read_flag_none {flag : Flag} {word : String} (hword : Word.ofText word = .flag flag none)
    (htakes : flag.TakesValue) (a : Arguments) (rest : List String) :
    a.read (word :: rest) = match rest with
      | [] => .error (.missingValue flag)
      | value :: rest =>
        if isValue value then a.withValue flag value >>= fun b => b.read rest
        else .error (.missingValue flag) := by
  rw [read, hword]
  cases flag with
  | help => exact absurd rfl htakes.1
  | version => exact absurd rfl htakes.2.1
  | debug => exact absurd rfl htakes.2.2
  | view => rfl
  | metric => rfl
  | requiredPriority => rfl
  | file => rfl

theorem read_missing {flag : Flag} {word : String} (hword : Word.ofText word = .flag flag none)
    (htakes : flag.TakesValue) (a : Arguments) {rest : List String}
    (hrest : ∀ value ∈ rest.head?, isValue value = false) :
    a.read (word :: rest) = .error (.missingValue flag) := by
  rw [read_flag_none hword htakes]
  cases rest with
  | nil => rfl
  | cons value rest => simp [hrest value rfl]

theorem read_isFlag {flag : Flag} {value : String} {used : List String}
    (h : IsFlag flag value used) (a : Arguments) (rest : List String) :
    a.read (used ++ rest) = a.withValue flag value >>= fun b => b.read rest := by
  cases h with
  | attached hword =>
      rw [List.singleton_append, read, hword]
      cases flag <;> rfl
  | apart hword htakes hvalue =>
      rw [List.cons_append, List.singleton_append, read_flag_none hword htakes]
      exact if_pos hvalue

/-! ## Reading with tables -/

theorem withValue_withTables (flag : Flag) (value : String) :
    (a.withTables views metrics).withValue flag value
      = (a.withValue flag value).map (withTables views metrics) := by
  cases flag with
  | view => simp [withValue, withTables, Except.map]
  | metric =>
      simp only [withValue]
      cases metricOfText value <;> simp [withTables, Except.map]
  | requiredPriority =>
      by_cases h : a.requiredPriority.isSome = true
      · simp [withValue, withTables, h, Except.map]
      · cases hvalue : Binary64.ofText value <;>
          simp [withValue, withTables, h, hvalue, Except.map]
  | file =>
      by_cases h : a.file.isSome = true <;> simp [withValue, withTables, h, Except.map]
  | debug => rfl
  | help => rfl
  | version => rfl

/-- A flag with its value, and the words behind it. -/
theorem bind_withTables {rest : List String}
    (hrest : ∀ b : Arguments,
      (b.withTables views metrics).read rest = (b.read rest).map (withTables views metrics))
    (flag : Flag) (value : String) :
    ((a.withTables views metrics).withValue flag value >>= fun b => b.read rest)
      = (a.withValue flag value >>= fun b => b.read rest).map (withTables views metrics) := by
  rw [withValue_withTables]
  cases a.withValue flag value with
  | error => rfl
  | ok b => exact hrest b

theorem read_withTables (words : List String) :
    (a.withTables views metrics).read words = (a.read words).map (withTables views metrics) := by
  induction a, words using read.induct with
  | case1 => rfl
  | case2 a word rest hword ih =>
      rw [read, read, hword]
      exact ih
  | case3 a word rest hword | case4 a word rest hword | case5 a word rest hword
  | case6 a word rest hword =>
      simp only [read, hword]
      rfl
  | case7 a word rest hword hdebug =>
      have hdebug' : (a.withTables views metrics).debug = true := hdebug
      simp only [read, hword, hdebug, hdebug']
      rfl
  | case8 a word rest hword hdebug ih =>
      have hdebug' : ¬(a.withTables views metrics).debug = true := hdebug
      simp only [read, hword, hdebug, hdebug']
      exact ih
  | case9 a word rest flag value hword ih =>
      simp only [read, hword]
      exact bind_withTables ih flag value
  | case10 a word flag hhelp hversion hdebug hword =>
      have htakes : flag.TakesValue := ⟨hhelp, hversion, hdebug⟩
      rw [read_missing hword htakes _ (by simp), read_missing hword htakes _ (by simp)]
      rfl
  | case11 a word flag hhelp hversion hdebug hword value rest hvalue ih =>
      have htakes : flag.TakesValue := ⟨hhelp, hversion, hdebug⟩
      rw [read_flag_none hword htakes, read_flag_none hword htakes]
      simp only [if_pos hvalue]
      exact bind_withTables ih flag value
  | case12 a word flag hhelp hversion hdebug hword value rest hvalue =>
      have htakes : flag.TakesValue := ⟨hhelp, hversion, hdebug⟩
      have hhead : ∀ v ∈ (value :: rest).head?, isValue v = false := by simpa using hvalue
      rw [read_missing hword htakes _ hhead, read_missing hword htakes _ hhead]
      rfl

/-! ## Reading what is divided -/

theorem tables_of_withValue {flag : Flag} {value : String} {b : Arguments} (hview : flag ≠ .view)
    (hmetric : flag ≠ .metric) (h : a.withValue flag value = .ok b) :
    b.views = a.views ∧ b.metrics = a.metrics := by
  cases flag with
  | view => exact absurd rfl hview
  | metric => exact absurd rfl hmetric
  | requiredPriority =>
      simp only [withValue] at h
      split at h
      · cases h
      · split at h
        · cases h
          exact ⟨rfl, rfl⟩
        · cases h
  | file =>
      simp only [withValue] at h
      split at h
      · cases h
      · cases h
        exact ⟨rfl, rfl⟩
  | debug => cases h
  | help => cases h
  | version => cases h

/-- These words are read alike whatever follows them, and leave the tables. -/
def LeavesTables (used : List String) : Prop :=
  ∃ f : Arguments → Except Refusal Arguments,
    (∀ a rest, read a (used ++ rest) = f a >>= fun b => b.read rest)
      ∧ ∀ a b, f a = .ok b → b.views = a.views ∧ b.metrics = a.metrics

/-- Words at which the reading ends with a refusal. -/
theorem leavesTables_of_refused {used : List String} (e : Refusal)
    (h : ∀ a rest, read a (used ++ rest) = .error e) : LeavesTables used :=
  ⟨fun _ => .error e, h, nofun⟩

theorem leavesTables_of_isOther {used : List String} (h : IsOther used) : LeavesTables used := by
  cases h with
  | @format word hword =>
      refine ⟨fun a => .ok { a with formats := a.formats ++ [word] }, ?_, ?_⟩
      · intro a rest
        rw [List.singleton_append, read, hword]
        rfl
      · intro a b hb
        cases hb
        exact ⟨rfl, rfl⟩
  | @unknown word hword =>
      refine leavesTables_of_refused (.unknownFlag word) fun a rest => ?_
      simp only [List.singleton_append, read, hword]
  | @switch flag word htakes hword =>
      obtain rfl | rfl | rfl : flag = .help ∨ flag = .version ∨ flag = .debug := by
        by_contra h
        exact htakes ⟨(not_or.mp h).1, not_or.mp (not_or.mp h).2⟩
      · refine leavesTables_of_refused .helpWanted fun a rest => ?_
        simp only [List.singleton_append, read, hword]
      · refine leavesTables_of_refused .versionWanted fun a rest => ?_
        simp only [List.singleton_append, read, hword]
      · refine ⟨fun a =>
          if a.debug then .error (.repeated .debug) else .ok { a with debug := true }, ?_, ?_⟩
        · intro a rest
          rw [List.singleton_append, read, hword]
          dsimp only
          split <;> rfl
        · intro a b hb
          dsimp only at hb
          split at hb
          · cases hb
          · cases hb
            exact ⟨rfl, rfl⟩
  | @flag flag value used hview hmetric hused =>
      exact ⟨fun a => a.withValue flag value, read_isFlag hused,
        fun a b => tables_of_withValue hview hmetric⟩

theorem map_withTables_withTables (x : Except Refusal Arguments) (views' : List String)
    (metrics' : List (String × Binary64)) :
    (x.map (withTables views' metrics')).map (withTables views metrics)
      = x.map (withTables (views ++ views') (metrics ++ metrics')) := by
  cases x <;> simp [Except.map, withTables]

theorem read_of_divides {words others : List String} {flags : TableFlags}
    (h : Divides words flags others) {entries : List (String × Binary64)}
    (hentries : List.Forall₂ (fun text e => metricOfText text = .ok e) flags.metrics entries)
    (a : Arguments) (hviews : a.views = []) (hmetrics : a.metrics = []) :
    a.read words = (a.read others).map (withTables flags.views entries) := by
  -- Words that fill no table hand on the empty tables, and a flag that does is read from them.
  induction h generalizing a entries with
  | nil =>
      cases hentries
      rfl
  | onlyFormats formats hword =>
      cases hentries
      simp only [read, hword]
      rfl
  | @view name used words others views metrics hused _ ih =>
      have hfirst : a.withValue .view name = .ok (a.withTables [name] []) := by
        simp [withValue, withTables, hviews]
      rw [read_isFlag hused, Outcome.bind_of_ok hfirst, read_withTables,
        ih hentries a hviews hmetrics, map_withTables_withTables]
      rfl
  | @metric text used words others views metrics hused _ ih =>
      obtain ⟨e, entries, he, hrest, rfl⟩ := List.forall₂_cons_left_iff.mp hentries
      have hfirst : a.withValue .metric text = .ok (a.withTables [] [e]) := by
        simp [withValue, withTables, hmetrics, he]
      rw [read_isFlag hused, Outcome.bind_of_ok hfirst, read_withTables,
        ih hrest a hviews hmetrics, map_withTables_withTables]
      rfl
  | @other used words others flags hused _ ih =>
      obtain ⟨f, hread, htables⟩ := leavesTables_of_isOther hused
      rw [hread, hread]
      cases hf : f a with
      | error => rfl
      | ok b =>
          obtain ⟨hviews', hmetrics'⟩ := htables a b hf
          exact ih hentries b (hviews'.trans hviews) (hmetrics'.trans hmetrics)
  | missing hword htakes hwords _ _ =>
      rw [read_missing hword htakes a hwords, read_missing hword htakes a (by simp)]
      rfl

/-- All flags of tables are taken out: what is left fills no table. -/
theorem tables_of_divides {words others : List String} {flags : TableFlags}
    (h : Divides words flags others) {a b : Arguments} (hread : a.read others = .ok b) :
    b.views = a.views ∧ b.metrics = a.metrics := by
  induction h generalizing a with
  | nil =>
      cases hread
      exact ⟨rfl, rfl⟩
  | onlyFormats formats hword =>
      simp only [read, hword] at hread
      cases hread
      exact ⟨rfl, rfl⟩
  | view _ _ ih => exact ih hread
  | metric _ _ ih => exact ih hread
  | other hused _ ih =>
      obtain ⟨f, hf, htables⟩ := leavesTables_of_isOther hused
      rw [hf] at hread
      obtain ⟨a', ha', hread⟩ := Outcome.bind_eq_ok.mp hread
      obtain ⟨hviews, hmetrics⟩ := htables a a' ha'
      obtain ⟨hviews', hmetrics'⟩ := ih hread
      exact ⟨hviews'.trans hviews, hmetrics'.trans hmetrics⟩
  | missing hword htakes _ _ _ =>
      rw [read_missing hword htakes a (by simp)] at hread
      cases hread

/-- Flags of tables may as well be read at once, wherever they stand. -/
theorem ofWords_of_divides {words others : List String} {flags : TableFlags}
    (h : Divides words flags others) {entries : List (String × Binary64)}
    (hentries : List.Forall₂ (fun text e => metricOfText text = .ok e) flags.metrics entries) :
    ofWords words = (ofWords others).map (withTables flags.views entries) :=
  read_of_divides h hentries {} rfl rfl

end Arguments

end LayoutLang.Command
