import RollCall.Proofs.Comment.Layout

/-!
# RollCall.Proofs.Comment.Recommented — a text of comments, written as comments again

The text of comments is in normal form: no blank line at the start, at the end or next to another,
and no blank at the end of a line. So the lines of the text are the lines of its own layout, and a
comment that gives these lines again has the same text. Line comments do, because a text behind a
space addresses no tool, and so does one block comment around the text, because what is cut off it is
the closing marker put there.
-/

namespace RollCall.Comment

open Text

/-! ## §A Lines written as comments -/

/-- Lines, each as a line comment. -/
def lineComments (ls : List (List Char)) : List String :=
  ls.map fun line => String.ofList ('/' :: '/' :: ' ' :: line)

theorem not_addressesTool_space (line : List Char) : ¬AddressesTool (' ' :: line) := by
  rintro (h | h | h | ⟨name, c, more, heq, hname, hall, -⟩)
  · exact absurd (List.cons_prefix_cons.mp h).1 (by decide)
  · exact absurd (List.cons_prefix_cons.mp h).1 (by decide)
  · exact absurd (List.cons_prefix_cons.mp h).1 (by decide)
  · cases name with
    | nil => exact hname rfl
    | cons d name =>
        obtain ⟨rfl, -⟩ := List.cons.inj heq
        exact absurd (hall ' ' List.mem_cons_self) (by decide)

theorem rawLines_spaced (line : List Char) : rawLines ('/' :: '/' :: ' ' :: line) = [line] :=
  rawLines_of_gives (.spaced (not_addressesTool_space line))

theorem trimmedLines_lineComments (ls : List (List Char)) :
    trimmedLines (lineComments ls) = ls.map trimEnd := by
  induction ls with
  | nil => rfl
  | cons line ls ih =>
      simp only [trimmedLines, lineComments, List.map_cons, List.flatMap_cons, List.map_append,
        String.toList_ofList, rawLines_spaced] at ih ⊢
      rw [ih]
      rfl

theorem trimmedLines_block (o : String) :
    trimmedLines ["/*" ++ o ++ "*/"] = (lines o.toList).map trimEnd := by
  have htext : ("/*" ++ o ++ "*/").toList = '/' :: '*' :: (o.toList ++ ['*', '/']) := by simp
  obtain ⟨hsome, hnewline, ho⟩ := lines_eq_iff.mp (rfl : lines o.toList = lines o.toList)
  have hraw := rawLines_of_gives (.block hsome hnewline)
  rw [← ho] at hraw
  rw [trimmedLines, List.map_singleton, htext, List.flatMap_singleton, hraw]

/-! ## §B The lines of a text -/

/-- **`OneLiners comments`** — every line comment is one line. -/
def OneLiners (comments : List String) : Prop :=
  ∀ comment ∈ comments, ['/', '/'] <+: comment.toList → '\n' ∉ comment.toList

theorem newline_notMem_of_gives {comment : List Char} {ls : List (List Char)}
    (h : Gives comment ls) (hone : ['/', '/'] <+: comment → '\n' ∉ comment) :
    ∀ l ∈ ls, '\n' ∉ l := by
  cases h with
  | directive => simp
  | spaced => simpa using hone ⟨_, rfl⟩
  | plain => simpa using hone ⟨_, rfl⟩
  | block _ hnewline => exact hnewline
  | unclosed _ hnewline => exact hnewline
  | other => simp

theorem newline_notMem_trimmedLines {comments : List String} (h : OneLiners comments) :
    ∀ l ∈ trimmedLines comments, '\n' ∉ l := by
  intro l hl hnewline
  obtain ⟨raw, hraw, rfl⟩ := List.mem_map.mp hl
  obtain ⟨chars, hchars, hgiven⟩ := List.mem_flatMap.mp hraw
  obtain ⟨comment, hcomment, rfl⟩ := List.mem_map.mp hchars
  exact newline_notMem_of_gives (gives_rawLines _) (h comment hcomment) raw hgiven
    (mem_of_mem_trimEnd hnewline)

theorem trimEnd_of_mem_trimmedLines {comments : List String} {l : List Char}
    (h : l ∈ trimmedLines comments) : trimEnd l = l := by
  obtain ⟨raw, -, rfl⟩ := List.mem_map.mp h
  exact trimEnd_trimEnd raw

namespace Layout

theorem mem_spaced {l : List Char} {other : Nat × List Char} :
    l ∈ spaced other ↔ other.1 ≠ 0 ∧ l = [] ∨ l = other.2 := by
  simp [spaced]

theorem other_mem_lines {layout : Layout} {other : Nat × List Char} (h : other ∈ layout.others) :
    other.2 ∈ layout.lines := by
  have hspaced : other.2 ∈ layout.others.flatMap spaced :=
    List.mem_flatMap.mpr ⟨other, h, mem_spaced.mpr (.inr rfl)⟩
  simp [Layout.lines, hspaced]

/-- Tightening brings in no line. -/
theorem mem_lines_of_mem_tight {layout : Layout} {l : List Char} (h : l ∈ layout.tight.lines) :
    l = [] ∨ l ∈ layout.lines := by
  rw [lines_tight] at h
  rcases List.mem_cons.mp h with rfl | hl
  · exact .inr (by simp [Layout.lines])
  · obtain ⟨other, hother, hspaced⟩ := List.mem_flatMap.mp hl
    obtain ⟨loose, hloose, rfl⟩ := List.mem_map.mp hother
    rcases mem_spaced.mp hspaced with ⟨-, rfl⟩ | rfl
    · exact .inl rfl
    · have hline : loose.2 ∈ layout.lines := other_mem_lines hloose
      exact .inr hline

/-- The lines of a text are its tight lines and what stands behind the last newline. -/
theorem lines_text {layout : Layout} (h : ∀ l ∈ layout.lines, '\n' ∉ l) :
    Text.lines layout.text = layout.tight.lines ++ [[]] := by
  obtain ⟨front, last, hlast, -⟩ := exists_last_inked layout
  have hsome : layout.tight.lines ≠ [] := by simp [hlast]
  rw [layout.text_eq_unlines, ← unlines_concat_nil hsome]
  apply lines_unlines (by simp)
  intro l hl
  rcases List.mem_append.mp hl with hl | hl
  · rcases mem_lines_of_mem_tight hl with rfl | hl
    · simp
    · exact h l hl
  · simp [List.mem_singleton.mp hl]

/-- Tight lines have the text they were made from, with any number of blank lines behind them. -/
theorem written_tight (layout : Layout) (n : Nat) :
    written (layout.tight.lines ++ List.replicate n []) = layout.text := by
  have hlines : layout.tight.lines ++ List.replicate n [] =
      Layout.lines { layout.tight with after := n } := by
    simp [Layout.lines, Layout.tight]
  rw [hlines, written_lines, ← layout.text_tight]
  rfl

end Layout

theorem map_trimEnd_tight {comments : List String} {layout : Layout}
    (h : layout.lines = trimmedLines comments) :
    layout.tight.lines.map trimEnd = layout.tight.lines := by
  have htrimmed : ∀ l ∈ layout.tight.lines, trimEnd l = id l := by
    intro l hl
    rcases Layout.mem_lines_of_mem_tight hl with rfl | hl
    · rfl
    · rw [h] at hl
      exact trimEnd_of_mem_trimmedLines hl
  rw [List.map_congr_left htrimmed, List.map_id]

/-- The lines of a text give the text again, with the empty one at the end or without it. -/
theorem written_lines_text {comments : List String} (h : OneLiners comments) :
    written ((lines (text comments).toList).dropLast.map trimEnd) = (text comments).toList ∧
      written ((lines (text comments).toList).map trimEnd) = (text comments).toList := by
  rw [toList_text]
  -- the text is that of a layout, whose tight lines are read back, or it is empty
  by_cases hsome : ∃ l ∈ trimmedLines comments, l ≠ []
  · obtain ⟨layout, hlines⟩ := exists_layout hsome
    have hnewline : ∀ l ∈ layout.lines, '\n' ∉ l := by
      rw [hlines]
      exact newline_notMem_trimmedLines h
    rw [← hlines, written_lines, Layout.lines_text hnewline, List.dropLast_concat, List.map_append,
      map_trimEnd_tight hlines]
    constructor
    · simpa using layout.written_tight 0
    · exact layout.written_tight 1
  · have hempty : written (trimmedLines comments) = [] := by
      apply written_blank
      simpa using hsome
    rw [hempty]
    decide

/-- **Commenting a text again keeps it.** The lines of a text written as line comments have that text
again, whether what stands behind the last newline is written as a line too or not, and so has the
text inside one block comment. Whatever stands on a line, it is not taken for a directive. -/
theorem text_recommented (comments : List String) (h : OneLiners comments) :
    text (lineComments (lines (text comments).toList).dropLast) = text comments ∧
      text (lineComments (lines (text comments).toList)) = text comments ∧
      text ["/*" ++ text comments ++ "*/"] = text comments ∧
      ∀ line, isDirective (' ' :: line) = false ∧
        rawLines ('/' :: '/' :: ' ' :: line) = [line] := by
  obtain ⟨hlines, hall⟩ := written_lines_text h
  refine ⟨?_, ?_, ?_, ?_⟩
  · apply String.toList_injective
    rw [toList_text, trimmedLines_lineComments, hlines]
  · apply String.toList_injective
    rw [toList_text, trimmedLines_lineComments, hall]
  · apply String.toList_injective
    rw [toList_text, trimmedLines_block, hall]
  · intro line
    refine ⟨?_, rawLines_spaced line⟩
    rw [Bool.eq_false_iff, ne_eq, isDirective_iff]
    exact not_addressesTool_space line

/-- A directive, lines that would be directives without the space, and a block with blank lines. -/
def toolComments : List String :=
  ["//go:generate stringer", "// go:generate x", "//", "//  line 3  ", "/*line 4\n\n\n*/"]

/-- Lines that look like directives are kept. -/
theorem text_recommented_tool :
    OneLiners toolComments ∧
      lineComments (lines (text toolComments).toList).dropLast =
        ["// go:generate x", "// ", "//  line 3", "// line 4"] ∧
      text ["// go:generate x", "// ", "//  line 3", "// line 4"] = text toolComments ∧
      text ["/*" ++ text toolComments ++ "*/"] = text toolComments := by
  have hone : OneLiners toolComments := by
    unfold OneLiners
    decide
  have hlines : lineComments (lines (text toolComments).toList).dropLast =
      ["// go:generate x", "// ", "//  line 3", "// line 4"] := by decide
  obtain ⟨hagain, -, hblock, -⟩ := text_recommented toolComments hone
  rw [hlines] at hagain
  exact ⟨hone, hlines, hagain, hblock⟩

end RollCall.Comment
