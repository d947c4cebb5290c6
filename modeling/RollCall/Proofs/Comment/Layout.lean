import RollCall.Comment.Text
import RollCall.Proofs.Text

/-!
# RollCall.Proofs.Comment.Layout — the text of comments is their lines, evenly spaced

Every comment gives some lines, and the text of a group of comments depends on all these lines
together: on which of them have something on them and on whether there are blank lines between two
such lines, but not on how many. A `Layout` is a list of lines taken apart in this way, and its text
can be read off it. That the normal form of the lines is the one of their layout is shown step by
step: blank lines at the start go, a run of them becomes one, and what is left at the end goes.

Where a comment starts or ends does not matter here, so a run of blank lines may go across comments
and across directives that give no line.
-/

namespace RollCall.Comment

open Text

/-! ## §A The lines of a comment -/

/-- **`AddressesTool rest`** — the text after `//` is a directive: one of three words before a space,
or a name with a colon and a name character right behind it. -/
def AddressesTool (rest : List Char) : Prop :=
  "line ".toList <+: rest ∨ "extern ".toList <+: rest ∨ "export ".toList <+: rest ∨
    ∃ name c more, rest = name ++ ':' :: c :: more ∧ name ≠ [] ∧
      (∀ d ∈ name, isDirectiveChar d = true) ∧ isDirectiveChar c = true

theorem isDirective_iff (rest : List Char) : isDirective rest = true ↔ AddressesTool rest := by
  unfold isDirective AddressesTool
  simp only [Bool.or_eq_true, isSome_afterLead?_iff, or_assoc]
  refine or_congr_right (or_congr_right (or_congr_right ?_))
  constructor
  · intro h
    split at h
    · rename_i name c more hcut
      obtain ⟨d, hrest, hd, -⟩ := cutAt?_eq_some_iff.mp hcut
      obtain rfl : d = ':' := by simpa using hd
      simp only [Bool.and_eq_true, Bool.not_eq_true', List.isEmpty_eq_false_iff,
        List.all_eq_true] at h
      exact ⟨name, c, more, hrest, h.1.1, h.1.2, h.2⟩
    · cases h
  · rintro ⟨name, c, more, rfl, hname, hall, hc⟩
    -- the colon behind the name is the first one, because no name character is a colon
    have hcut : cutAt? (· == ':') (name ++ ':' :: c :: more) = some (name, c :: more) := by
      refine cutAt?_eq_some_iff.mpr ⟨':', rfl, by simp, ?_⟩
      intro d hd
      rw [beq_eq_false_iff_ne]
      rintro rfl
      exact absurd (hall ':' hd) (by decide)
    simp [hcut, hname, hc, List.all_eq_true.mpr hall]

/-- **`Gives comment ls`** — the lines of one comment, from its source text. A directive gives none, a
line comment its text less one space at the start, and a block comment all lines of the text inside,
which ends at the closing marker or, where there is none, with the comment. -/
inductive Gives : List Char → List (List Char) → Prop
  | directive {rest : List Char} : AddressesTool rest → Gives ('/' :: '/' :: rest) []
  | spaced {line : List Char} :
      ¬AddressesTool (' ' :: line) → Gives ('/' :: '/' :: ' ' :: line) [line]
  | plain {line : List Char} :
      ¬AddressesTool line → ¬[' '] <+: line → Gives ('/' :: '/' :: line) [line]
  | block {ls : List (List Char)} :
      ls ≠ [] → (∀ l ∈ ls, '\n' ∉ l) → Gives ('/' :: '*' :: (unlines ls ++ ['*', '/'])) ls
  | unclosed {ls : List (List Char)} :
      ls ≠ [] → (∀ l ∈ ls, '\n' ∉ l) → ¬['*', '/'] <:+ unlines ls →
      Gives ('/' :: '*' :: unlines ls) ls
  | other {comment : List Char} :
      ¬['/', '/'] <+: comment → ¬['/', '*'] <+: comment → Gives comment []

theorem rawLines_of_gives {comment : List Char} {ls : List (List Char)} (h : Gives comment ls) :
    rawLines comment = ls := by
  cases h with
  | directive htool => simp [rawLines, (isDirective_iff _).mpr htool]
  | spaced htool =>
      have hno := mt (isDirective_iff _).mp htool
      simp [rawLines, hno]
  | @plain line htool hspace =>
      have hno := mt (isDirective_iff _).mp htool
      cases line with
      | nil => simp [rawLines, hno]
      | cons c line =>
          have hc : c ≠ ' ' := by simpa [eq_comm] using hspace
          simp [rawLines, hno, hc]
  | block hsome hnewline =>
      simp [rawLines, beforeTail?_eq_some_iff.mpr, lines_unlines hsome hnewline]
  | unclosed hsome hnewline hopen =>
      simp [rawLines, beforeTail?_eq_none_iff.mpr hopen, lines_unlines hsome hnewline]
  | other hline hblock =>
      unfold rawLines
      split
      · exact absurd ⟨_, rfl⟩ hline
      · exact absurd ⟨_, rfl⟩ hblock
      · rfl

theorem gives_rawLines (comment : List Char) : Gives comment (rawLines comment) := by
  unfold rawLines
  split
  · rename_i rest
    split
    · rename_i htool
      exact .directive ((isDirective_iff rest).mp htool)
    · rename_i htool
      have hno := mt (isDirective_iff rest).mpr htool
      split
      · exact .spaced hno
      · rename_i hspace
        refine .plain hno ?_
        rintro ⟨line, rfl⟩
        exact hspace line rfl
  · rename_i body
    cases htail : beforeTail? ['*', '/'] body with
    | none =>
        obtain ⟨hsome, hnewline, hbody⟩ := lines_eq_iff.mp (rfl : lines body = lines body)
        rw [beforeTail?_eq_none_iff, hbody] at htail
        have hgives := Gives.unclosed hsome hnewline htail
        rwa [unlines_lines] at hgives
    | some inner =>
        obtain rfl := beforeTail?_eq_some_iff.mp htail
        obtain ⟨hsome, hnewline, -⟩ := lines_eq_iff.mp (rfl : lines inner = lines inner)
        have hgives := Gives.block hsome hnewline
        rwa [unlines_lines] at hgives
  · rename_i hline hblock
    refine .other ?_ ?_
    · rintro ⟨rest, rfl⟩
      exact hline rest rfl
    · rintro ⟨body, rfl⟩
      exact hblock body rfl

theorem rawLines_eq_iff (comment : List Char) (ls : List (List Char)) :
    rawLines comment = ls ↔ Gives comment ls := by
  constructor
  · rintro rfl
    exact gives_rawLines comment
  · exact rawLines_of_gives

/-! ## §B Layouts -/

/-- **`Layout`** — the lines that have something on them, at least one, with the number of blank lines
in front of the first, between it and each of the others, and behind the last. -/
structure Layout where
  before : Nat
  first : List Char
  others : List (Nat × List Char)
  after : Nat
  first_inked : first ≠ []
  others_inked : ∀ other ∈ others, other.2 ≠ []

namespace Layout

/-- A line with the blank lines in front of it. -/
def spaced (other : Nat × List Char) : List (List Char) :=
  List.replicate other.1 [] ++ [other.2]

/-- All lines of a layout. -/
def lines (layout : Layout) : List (List Char) :=
  List.replicate layout.before [] ++
    layout.first :: (layout.others.flatMap spaced ++ List.replicate layout.after [])

/-- What is written in front of a line that has that many blank lines in front: the end of the line
before it, and an empty line if there is a blank one. -/
def separator (gap : Nat) : List Char := if gap = 0 then ['\n'] else ['\n', '\n']

/-- The text of a layout. -/
def text (layout : Layout) : List Char :=
  layout.first ++ (layout.others.flatMap fun other => separator other.1 ++ other.2) ++ ['\n']

/-- A line with one blank line in front of it at most. -/
def closer (other : Nat × List Char) : Nat × List Char := (min other.1 1, other.2)

/-- The layout with one blank line for each run of them, and none at the start and at the end. -/
def tight (layout : Layout) : Layout where
  before := 0
  first := layout.first
  others := layout.others.map closer
  after := 0
  first_inked := layout.first_inked
  others_inked := by
    intro other hother
    obtain ⟨loose, hloose, rfl⟩ := List.mem_map.mp hother
    exact layout.others_inked loose hloose

theorem lines_tight (layout : Layout) :
    layout.tight.lines = layout.first :: (layout.others.map closer).flatMap spaced := by
  simp [lines, tight]

theorem separator_closer (other : Nat × List Char) :
    separator (closer other).1 = separator other.1 := by
  by_cases hgap : other.1 = 0
  · simp [separator, closer, hgap]
  · have hmin : min other.1 1 = 1 := by omega
    simp [separator, closer, hgap, hmin]

/-- Tightening changes the lines and not the text. -/
theorem text_tight (layout : Layout) : layout.tight.text = layout.text := by
  unfold text tight
  rw [List.flatMap_map]
  simp only [separator_closer]
  rfl

end Layout

/-- Lines with something on one of them have a layout. -/
theorem exists_layout {ls : List (List Char)} (h : ∃ l ∈ ls, l ≠ []) :
    ∃ layout : Layout, layout.lines = ls := by
  induction ls with
  | nil => simp at h
  | cons l ls ih =>
      by_cases hrest : ∃ m ∈ ls, m ≠ []
      · -- in front of a layout a blank line is counted, and any other becomes the first one
        obtain ⟨⟨before, first, others, after, hfirst, hothers⟩, rfl⟩ := ih hrest
        by_cases hl : l = []
        · refine ⟨⟨before + 1, first, others, after, hfirst, hothers⟩, ?_⟩
          simp [Layout.lines, hl, List.replicate_succ]
        · have hinked : ∀ other ∈ (before, first) :: others, other.2 ≠ [] :=
            List.forall_mem_cons.mpr ⟨hfirst, hothers⟩
          refine ⟨⟨0, l, (before, first) :: others, after, hl, hinked⟩, ?_⟩
          simp [Layout.lines, Layout.spaced]
      · have hl : l ≠ [] := ((List.exists_mem_cons_iff _ _ _).mp h).resolve_right hrest
        have hblank : ls = List.replicate ls.length [] := by
          apply List.eq_replicate_of_mem
          simpa using hrest
        refine ⟨⟨0, l, [], ls.length, hl, by simp⟩, ?_⟩
        simpa [Layout.lines] using hblank.symm

/-! ## §C The normal form of lines -/

section Squeeze

variable {line : List Char} {ls : List (List Char)}

theorem squeeze_line (h : line ≠ []) (afterBlank : Bool) :
    squeeze afterBlank (line :: ls) = line :: squeeze false ls := by
  simp [squeeze, h]

theorem squeeze_leading (n : Nat) :
    squeeze true (List.replicate n [] ++ ls) = squeeze true ls := by
  induction n with
  | zero => rfl
  | succ n ih => simpa [List.replicate_succ, squeeze] using ih

/-- A run of blank lines behind a line becomes one, and what follows it is squeezed as at the
start. -/
theorem squeeze_run (n : Nat) :
    squeeze false (List.replicate n [] ++ ls) =
      List.replicate (min n 1) [] ++ squeeze (decide (n ≠ 0)) ls := by
  cases n with
  | zero => simp
  | succ n =>
      have hmin : min (n + 1) 1 = 1 := by omega
      rw [hmin, List.replicate_succ, List.cons_append, squeeze]
      simp [squeeze_leading]

theorem squeeze_others {others : List (Nat × List Char)} (h : ∀ other ∈ others, other.2 ≠ []) :
    squeeze false (others.flatMap Layout.spaced ++ ls) =
      (others.map Layout.closer).flatMap Layout.spaced ++ squeeze false ls := by
  induction others with
  | nil => rfl
  | cons other others ih =>
      rw [List.flatMap_cons, Layout.spaced, List.append_assoc, List.append_assoc, squeeze_run,
        List.singleton_append, squeeze_line (h other List.mem_cons_self),
        ih fun o ho => h o (List.mem_cons_of_mem _ ho)]
      simp [Layout.spaced, Layout.closer]

end Squeeze

theorem squeeze_lines (layout : Layout) :
    squeeze true layout.lines = layout.tight.lines ++ List.replicate (min layout.after 1) [] := by
  have hend : squeeze false (List.replicate layout.after []) =
      List.replicate (min layout.after 1) [] := by
    simpa [squeeze] using @squeeze_run [] layout.after
  rw [Layout.lines, squeeze_leading, squeeze_line layout.first_inked,
    squeeze_others layout.others_inked, hend, Layout.lines_tight, List.cons_append]

/-- The lines of a tight layout end with something on the last. -/
theorem exists_last_inked (layout : Layout) :
    ∃ front last, layout.tight.lines = front ++ [last] ∧ last ≠ [] := by
  rw [Layout.lines_tight]
  rcases layout.others.eq_nil_or_concat with hothers | ⟨others, other, hothers⟩
  · exact ⟨[], layout.first, by simp [hothers], layout.first_inked⟩
  · refine ⟨layout.first :: ((others.map Layout.closer).flatMap Layout.spaced ++
      List.replicate (min other.1 1) []), other.2, ?_, ?_⟩
    · simp [hothers, Layout.spaced, Layout.closer]
    · exact layout.others_inked other (by simp [hothers])

theorem dropLastBlanks_append (ls : List (List Char)) (n : Nat) :
    dropLastBlanks (ls ++ List.replicate n []) = dropLastBlanks ls := by
  unfold dropLastBlanks
  rw [List.reverse_append, List.reverse_replicate, List.dropWhile_append_of_pos (by simp)]

theorem dropLastBlanks_tight (layout : Layout) :
    dropLastBlanks layout.tight.lines = layout.tight.lines := by
  obtain ⟨front, last, hlines, hlast⟩ := exists_last_inked layout
  simp [dropLastBlanks, hlines, hlast]

/-- Lines in normal form, each with its end, or nothing where there are none. -/
def written (ls : List (List Char)) : List Char :=
  match dropLastBlanks (squeeze true ls) with
  | [] => []
  | ls => unlines ls ++ ['\n']

theorem unlines_gap (first line : List Char) (rest : List (List Char)) (gap : Nat) :
    unlines (first :: (List.replicate (min gap 1) [] ++ line :: rest)) =
      first ++ (Layout.separator gap ++ unlines (line :: rest)) := by
  have hline : ∀ front : List Char,
      unlines (front :: line :: rest) = front ++ '\n' :: unlines (line :: rest) :=
    fun front => unlines_cons (List.cons_ne_nil line rest)
  by_cases hgap : gap = 0
  · simp [hgap, Layout.separator, hline]
  · have hmin : min gap 1 = 1 := by omega
    rw [hmin, List.replicate_one, List.singleton_append, unlines_cons (List.cons_ne_nil _ _), hline]
    simp [Layout.separator, hgap]

theorem unlines_closer (first : List Char) (others : List (Nat × List Char)) :
    unlines (first :: (others.map Layout.closer).flatMap Layout.spaced) =
      first ++ others.flatMap fun other => Layout.separator other.1 ++ other.2 := by
  induction others generalizing first with
  | nil => simp [unlines]
  | cons other others ih =>
      rw [List.map_cons, List.flatMap_cons, Layout.closer, Layout.spaced, List.append_assoc,
        List.singleton_append, unlines_gap, ih, List.flatMap_cons]
      simp

/-- The text of a layout is its tight lines, each with its end. -/
theorem Layout.text_eq_unlines (layout : Layout) :
    layout.text = unlines layout.tight.lines ++ ['\n'] := by
  rw [Layout.lines_tight, unlines_closer, Layout.text]

/-- **The text of lines is the text of their layout.** -/
theorem written_lines (layout : Layout) : written layout.lines = layout.text := by
  have hnormal : dropLastBlanks (squeeze true layout.lines) = layout.tight.lines := by
    rw [squeeze_lines, dropLastBlanks_append, dropLastBlanks_tight]
  rw [Layout.text_eq_unlines]
  unfold written
  rw [hnormal]
  split
  · rename_i hnil
    obtain ⟨front, last, hlast, -⟩ := exists_last_inked layout
    simp [hlast] at hnil
  · rfl

theorem written_blank {ls : List (List Char)} (h : ∀ l ∈ ls, l = []) : written ls = [] := by
  have hblank : ls = List.replicate ls.length [] ++ [] := by
    rw [List.append_nil]
    exact List.eq_replicate_of_mem h
  unfold written
  rw [hblank, squeeze_leading]
  rfl

theorem written_eq_nil_iff (ls : List (List Char)) : written ls = [] ↔ ∀ l ∈ ls, l = [] := by
  constructor
  · intro hnil
    by_contra hsome
    obtain ⟨layout, rfl⟩ := exists_layout (by simpa using hsome)
    rw [written_lines] at hnil
    simp [Layout.text] at hnil
  · exact written_blank

/-! ## §D The text of comments -/

/-- The lines of comments, in order, without the blanks at their ends. -/
def trimmedLines (comments : List String) : List (List Char) :=
  ((comments.map String.toList).flatMap rawLines).map trimEnd

theorem toList_text (comments : List String) :
    (text comments).toList = written (trimmedLines comments) := by
  rw [text, String.toList_ofList]
  rfl

/-- **The text of comments is their lines, evenly spaced.** A comment gives the lines that `Gives`
says, and each loses the blanks at its end. If none of these lines has anything on it, the text is
empty. Otherwise they have a layout and the text is that of the layout: the lines with something on
them, an empty line between two of them exactly if there is a blank one between them, and a newline at
the end. -/
theorem text_laidOut :
    (∀ comment ls, rawLines comment = ls ↔ Gives comment ls) ∧
    (∀ line trimmed, trimEnd line = trimmed ↔
      (∃ blanks, line = trimmed ++ blanks ∧ ∀ c ∈ blanks, isBlank c = true) ∧
        ∀ c, trimmed.getLast? = some c → isBlank c = false) ∧
    ∀ comments : List String,
      (text comments = "" ↔ ∀ l ∈ trimmedLines comments, l = []) ∧
      ((∃ l ∈ trimmedLines comments, l ≠ []) →
        ∃ layout : Layout, layout.lines = trimmedLines comments) ∧
      ∀ layout : Layout, layout.lines = trimmedLines comments →
        (text comments).toList = layout.text := by
  refine ⟨rawLines_eq_iff, fun line trimmed => trimEnd_eq_iff, ?_⟩
  intro comments
  refine ⟨?_, exists_layout, ?_⟩
  · rw [← String.toList_eq_nil_iff, toList_text, written_eq_nil_iff]
  · intro layout hlines
    rw [toList_text, ← hlines, written_lines]

/-- Two directives, two line comments and a block comment, with blank lines across their borders. -/
def spacedComments : List String :=
  ["//go:generate stringer", "// first  ", "//", "//line 7", "/*\n\n  second\t\n*/"]

/-- Two lines with three blank ones between them and one behind. -/
def spacedLayout : Layout where
  before := 0
  first := "first".toList
  others := [(3, "  second".toList)]
  after := 1
  first_inked := by decide
  others_inked := by decide

/-- The blank lines of different comments make one run, across a directive, and one empty line. -/
theorem text_laidOut_spaced :
    (∃ l ∈ trimmedLines spacedComments, l ≠ []) ∧
      spacedLayout.lines = trimmedLines spacedComments ∧
      (text spacedComments).toList = "first\n\n  second\n".toList := by
  obtain ⟨-, -, hall⟩ := text_laidOut
  obtain ⟨-, -, htext⟩ := hall spacedComments
  have hlines : spacedLayout.lines = trimmedLines spacedComments := by decide
  refine ⟨⟨"first".toList, by decide, by decide⟩, hlines, ?_⟩
  rw [htext spacedLayout hlines]
  decide

end RollCall.Comment
