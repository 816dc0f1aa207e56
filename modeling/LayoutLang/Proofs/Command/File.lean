import LayoutLang.Proofs.Command.Run
import Mathlib.Logic.Relation

/-!
# A file is more formats

A run with a file is the run without it that is given the formats of the file behind those of the
command line.  What these formats are is said on the lines of the file (`Text.IsLines`, `kept`),
which know of carriage returns and of the end of the text; the program cuts at line feeds only and
leaves the rest to trimming.

So the formats, and with them the whole outcome, do not change with what is laid between them and
around them: `Touched` lists the changes, and any number of them may be made or undone
(`run_file`).  Each change is made at the start or at the end of a line, and there the formats of a
text are those of its two parts (`formatsIn_append_start`, `formatsIn_append_end`).
-/

namespace LayoutLang.Command

open Text (IsLines lines trim)
open Unicode (isWhiteSpace)

/-! ## The formats of a text -/

/-- The formats that the lines of a file hold: trimmed, without those that are then empty or start
with a number sign. -/
def kept (ls : List (List Char)) : List String :=
  ((ls.map trim).filter fun line => line ≠ [] ∧ line.head? ≠ some '#').map String.ofList

/-- The formats of a text, one to a line. -/
def formatsIn (text : List Char) : List (List Char) := ((lines text).map trim).filter isFormat

theorem isFormat_iff {line : List Char} :
    isFormat line = true ↔ line ≠ [] ∧ line.head? ≠ some '#' := by
  cases line <;> simp [isFormat]

theorem formatsIn_append (text rest : List Char) :
    formatsIn (text ++ '\n' :: rest) = formatsIn text ++ formatsIn rest := by
  rw [formatsIn, Text.lines_append, List.map_append, List.filter_append]
  rfl

theorem formatsIn_nil : formatsIn [] = [] := rfl

theorem formatsIn_line {line : List Char} (h : '\n' ∉ line) :
    formatsIn line = [trim line].filter isFormat := by
  rw [formatsIn, Text.lines_of_newline_not_mem h, List.map_singleton]

/-- What is trimmed away does not change the format of a line. -/
theorem formatsIn_congr {line line' : List Char} (h : '\n' ∉ line) (h' : '\n' ∉ line')
    (htrim : trim line = trim line') : formatsIn line = formatsIn line' := by
  rw [formatsIn_line h, formatsIn_line h', htrim]

/-- So a carriage return in front of a line feed goes with the rest of the padding. -/
theorem isWhiteSpace_return : ∀ c ∈ ['\r'], isWhiteSpace c = true := by
  intro c hc
  rw [List.mem_singleton.mp hc]
  decide +kernel

theorem formatsIn_of_isLines {text : List Char} {ls : List (List Char)} (h : IsLines text ls) :
    formatsIn text = (ls.map trim).filter isFormat := by
  induction h with
  | nil => rfl
  | last _ hline => exact formatsIn_line hline
  | lineFeed hline _ _ ih =>
      rw [formatsIn_append, formatsIn_line hline, ih, ← List.filter_append]
      rfl
  | @carriageReturn line rest ls hline _ ih =>
      have hreturn : '\n' ∉ line ++ ['\r'] := by simp [hline]
      have htrim : trim (line ++ ['\r']) = trim line :=
        Text.trim_append_right isWhiteSpace_return line
      have hsplit : line ++ '\r' :: '\n' :: rest = line ++ ['\r'] ++ '\n' :: rest :=
        (List.append_assoc line ['\r'] _).symm
      rw [hsplit, formatsIn_append, formatsIn_congr hreturn hline htrim, formatsIn_line hline, ih,
        ← List.filter_append]
      rfl

theorem formatsOfFile_eq {text : String} {ls : List (List Char)} (h : IsLines text.toList ls) :
    formatsOfFile text = kept ls := by
  have hformat : isFormat = fun line => decide (line ≠ [] ∧ line.head? ≠ some '#') := by
    funext line
    rw [Bool.eq_iff_iff, isFormat_iff, decide_eq_true_iff]
  show (formatsIn text.toList).map String.ofList = kept ls
  rw [formatsIn_of_isLines h, kept, hformat]

/-! ## Starts and ends of lines -/

def AtLineStart (front : List Char) : Prop := front = [] ∨ ∃ before, front = before ++ ['\n']

def AtLineEnd (back : List Char) : Prop := back = [] ∨ ∃ after, back = '\n' :: after

theorem formatsIn_append_start {front : List Char} (h : AtLineStart front) (text : List Char) :
    formatsIn (front ++ text) = formatsIn front ++ formatsIn text := by
  rcases h with rfl | ⟨before, rfl⟩
  · rfl
  · rw [formatsIn_append, formatsIn_nil, List.append_nil, List.append_assoc]
    exact formatsIn_append before text

theorem formatsIn_append_end {back : List Char} (h : AtLineEnd back) (text : List Char) :
    formatsIn (text ++ back) = formatsIn text ++ formatsIn back := by
  rcases h with rfl | ⟨after, rfl⟩
  · rw [List.append_nil, formatsIn_nil, List.append_nil]
  · exact formatsIn_append text after

/-- White space behind the last line of a text. -/
theorem formatsIn_append_blank {w : List Char} (hw : ∀ c ∈ w, isWhiteSpace c = true)
    (hline : '\n' ∉ w) (text : List Char) : formatsIn (text ++ w) = formatsIn text := by
  have hlast : ∀ line : List Char, '\n' ∉ line → formatsIn (line ++ w) = formatsIn line := by
    intro line h
    exact formatsIn_congr (by simp [h, hline]) h (Text.trim_append_right hw line)
  rcases Text.exists_lastLine text with h | ⟨front, line, rfl, h⟩
  · exact hlast text h
  · rw [List.append_assoc, List.cons_append, formatsIn_append, formatsIn_append, hlast line h]

/-! ## What may be changed -/

/-- White space that is put beside a line. -/
def IsPadding (w : List Char) : Prop := ∀ c ∈ w, isWhiteSpace c = true ∧ c ≠ '\n'

/-- A line that is blank or a comment. -/
def IsSkipped (line : List Char) : Prop := trim line = [] ∨ (trim line).head? = some '#'

/-- The changes to a file that leave its formats: a blank line or a comment that is put between
lines, white space on the two sides of a line, a carriage return in front of a line feed, and a line
feed behind the last line. -/
inductive Touched : List Char → List Char → Prop
  | insert {front line back : List Char} : AtLineStart front → '\n' ∉ line → IsSkipped line →
      Touched (front ++ back) (front ++ (line ++ '\n' :: back))
  | pad {front left line right back : List Char} : AtLineStart front → AtLineEnd back →
      '\n' ∉ line → IsPadding left → IsPadding right →
      Touched (front ++ (line ++ back)) (front ++ (left ++ line ++ right ++ back))
  | carriageReturn {front back : List Char} :
      Touched (front ++ '\n' :: back) (front ++ '\r' :: '\n' :: back)
  | lastLineFeed {text : List Char} : Touched text (text ++ ['\n'])

theorem IsPadding.isWhiteSpace {w : List Char} (h : IsPadding w) :
    ∀ c ∈ w, Unicode.isWhiteSpace c = true := fun c hc => (h c hc).1

theorem IsPadding.newline_not_mem {w : List Char} (h : IsPadding w) : '\n' ∉ w :=
  fun hmem => (h '\n' hmem).2 rfl

theorem formatsIn_of_isSkipped {line : List Char} (hline : '\n' ∉ line) (h : IsSkipped line) :
    formatsIn line = [] := by
  have hnone : isFormat (trim line) = false := by
    rw [← Bool.not_eq_true, isFormat_iff, not_and_or, not_not, not_not]
    exact h
  rw [formatsIn_line hline, List.filter_cons_of_neg (by simp [hnone]), List.filter_nil]

theorem Touched.formatsIn_eq {text other : List Char} (h : Touched text other) :
    formatsIn text = formatsIn other := by
  cases h with
  | @insert front line back hfront hline hskipped =>
      rw [formatsIn_append_start hfront, formatsIn_append_start hfront, formatsIn_append,
        formatsIn_of_isSkipped hline hskipped, List.nil_append]
  | @pad front left line right back hfront hback hline hleft hright =>
      have hpadded : '\n' ∉ left ++ line ++ right := by
        simp [hline, hleft.newline_not_mem, hright.newline_not_mem]
      have htrim : trim line = trim (left ++ line ++ right) := by
        rw [Text.trim_append_right hright.isWhiteSpace, Text.trim_append_left hleft.isWhiteSpace]
      rw [formatsIn_append_start hfront, formatsIn_append_start hfront, formatsIn_append_end hback,
        formatsIn_append_end hback, formatsIn_congr hline hpadded htrim]
  | @carriageReturn front back =>
      have hsplit : front ++ '\r' :: '\n' :: back = front ++ ['\r'] ++ '\n' :: back :=
        (List.append_assoc front ['\r'] _).symm
      rw [hsplit, formatsIn_append, formatsIn_append,
        formatsIn_append_blank isWhiteSpace_return (by decide)]
  | lastLineFeed => rw [formatsIn_append, formatsIn_nil, List.append_nil]

/-- Any number of changes, made or undone. -/
theorem formatsIn_of_eqvGen {text other : List Char} (h : Relation.EqvGen Touched text other) :
    formatsIn text = formatsIn other := by
  induction h with
  | rel _ _ htouched => exact htouched.formatsIn_eq
  | refl _ => rfl
  | symm _ _ _ ih => exact ih.symm
  | trans _ _ _ _ _ ih ih' => exact ih.trans ih'

/-! ## Runs -/

/-- A file is more formats: the run with it has what its lines hold behind the formats that are
given, and it is the run without a file that is given all these.  Whatever is changed around them
leaves the outcome as it is. -/
theorem run_file (a : Arguments) (path text : String) :
    (∃ ls, IsLines text.toList ls)
      ∧ (∀ ls, IsLines text.toList ls →
          formatsOf { a with file := some path } (some text) = a.formats ++ kept ls
            ∧ run { a with file := some path } (some text)
              = run { a with file := none, formats := a.formats ++ kept ls } none)
      ∧ ∀ other : String, Relation.EqvGen Touched text.toList other.toList →
          run { a with file := some path } (some other)
            = run { a with file := some path } (some text) := by
  refine ⟨Text.exists_isLines text.toList, ?_, ?_⟩
  · intro ls hls
    have hformats : formatsOf { a with file := some path } (some text) = a.formats ++ kept ls := by
      show a.formats ++ formatsOfFile text = a.formats ++ kept ls
      rw [formatsOfFile_eq hls]
    exact ⟨hformats, run_congr hformats (fun _ => rfl) rfl⟩
  · intro other hother
    refine run_congr ?_ (fun _ => rfl) rfl
    show a.formats ++ (formatsIn other.toList).map String.ofList
      = a.formats ++ (formatsIn text.toList).map String.ofList
    rw [formatsIn_of_eqvGen hother]

/-- A format, and a view for it and for those of the files below. -/
def fileArguments : Arguments where
  views := ["v"]
  formats := ["v.width = w"]

def plainFile : String := "v.left = 1\nv.top = 2"

/-- The same with a comment, a carriage return and a last line feed. -/
def touchedFile : String := "#\nv.left = 1\r\nv.top = 2\n"

def touchedFormats : List String := ["v.width = w", "v.left = 1", "v.top = 2"]

theorem run_file_touched :
    (IsLines touchedFile.toList ["#".toList, "v.left = 1".toList, "v.top = 2".toList]
        ∧ Relation.EqvGen Touched touchedFile.toList plainFile.toList)
      ∧ (formatsOf { fileArguments with file := some "layout" } (some touchedFile) = touchedFormats
        ∧ run { fileArguments with file := some "layout" } (some touchedFile)
          = run { fileArguments with file := none, formats := touchedFormats } none)
      ∧ run { fileArguments with file := some "layout" } (some plainFile)
        = run { fileArguments with file := some "layout" } (some touchedFile) := by
  have hplain : plainFile.toList = "v.left = 1".toList ++ '\n' :: "v.top = 2".toList := by
    decide +kernel
  have htouched : touchedFile.toList
      = "#".toList ++ '\n' :: ("v.left = 1".toList
        ++ '\r' :: '\n' :: ("v.top = 2".toList ++ '\n' :: [])) := by
    decide +kernel
  have hlines : IsLines touchedFile.toList
      ["#".toList, "v.left = 1".toList, "v.top = 2".toList] := by
    rw [htouched]
    exact .lineFeed (by decide) (by decide)
      (.carriageReturn (by decide) (.lineFeed (by decide) (by decide) .nil))
  have hedits : Relation.EqvGen Touched plainFile.toList touchedFile.toList := by
    rw [hplain, htouched]
    refine .trans _ _ _ (.rel _ _ .carriageReturn) (.trans _ _ _ (.rel _ _ .lastLineFeed) ?_)
    exact .rel _ _ (@Touched.insert [] "#".toList _ (.inl rfl) (by decide) (.inr (by decide)))
  have hkept : fileArguments.formats
      ++ kept ["#".toList, "v.left = 1".toList, "v.top = 2".toList] = touchedFormats := by
    decide +kernel
  have hmore := (run_file fileArguments "layout" touchedFile).2.1 _ hlines
  rw [hkept] at hmore
  exact ⟨⟨hlines, hedits.symm⟩, hmore,
    (run_file fileArguments "layout" touchedFile).2.2 plainFile hedits.symm⟩

end LayoutLang.Command
