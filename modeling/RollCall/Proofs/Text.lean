import Mathlib.Data.List.DropRight
import RollCall.Text.Blank

/-!
# RollCall.Proofs.Text — leads, lines and the blanks at the end of a line

What the operations on texts give, each said without the operation: the text behind a lead is the one
that makes up the whole with it, the lines of a text are those that give the text again when written
with newlines between them, and a trimmed line is the line without a tail of blanks that leaves no
blank at its end.
-/

namespace RollCall.Text

/-! ## §A Leads and tails -/

section Leads

variable {lead tail front rest cs : List Char}

/-- What is behind a lead makes up the whole with it. -/
theorem afterLead?_eq_some_iff : afterLead? lead cs = some rest ↔ cs = lead ++ rest := by
  induction lead generalizing cs with
  | nil => simp [afterLead?]
  | cons l lead ih =>
      cases cs with
      | nil => simp [afterLead?]
      | cons c cs =>
          by_cases hlc : l = c
          · simp [afterLead?, hlc, ih]
          · simp [afterLead?, hlc, Ne.symm hlc]

theorem isSome_afterLead?_iff : (afterLead? lead cs).isSome = true ↔ lead <+: cs := by
  rw [Option.isSome_iff_exists]
  constructor
  · rintro ⟨rest, hrest⟩
    exact ⟨rest, (afterLead?_eq_some_iff.mp hrest).symm⟩
  · rintro ⟨rest, rfl⟩
    exact ⟨rest, afterLead?_eq_some_iff.mpr rfl⟩

theorem afterLead?_eq_none_iff : afterLead? lead cs = none ↔ ¬lead <+: cs := by
  rw [← isSome_afterLead?_iff, Option.not_isSome_iff_eq_none]

/-- What is in front of a tail makes up the whole with it. -/
theorem beforeTail?_eq_some_iff : beforeTail? tail cs = some front ↔ cs = front ++ tail := by
  rw [beforeTail?, Option.map_eq_some_iff]
  constructor
  · rintro ⟨reversed, hreversed, rfl⟩
    rw [← List.reverse_inj, afterLead?_eq_some_iff.mp hreversed]
    simp
  · rintro rfl
    exact ⟨front.reverse, by rw [afterLead?_eq_some_iff, List.reverse_append], by simp⟩

/-- Nothing is in front of a tail exactly where the text does not end with it. -/
theorem beforeTail?_eq_none_iff : beforeTail? tail cs = none ↔ ¬tail <:+ cs := by
  rw [beforeTail?, Option.map_eq_none_iff, afterLead?_eq_none_iff, List.reverse_prefix]

/-- A text is cut at the first character of a class. -/
theorem cutAt?_eq_some_iff {p : Char → Bool} :
    cutAt? p cs = some (front, rest) ↔
      ∃ c, cs = front ++ c :: rest ∧ p c = true ∧ ∀ d ∈ front, p d = false := by
  induction cs generalizing front with
  | nil => simp [cutAt?]
  | cons c cs ih =>
      unfold cutAt?
      split
      · rename_i hc
        constructor
        · rintro ⟨⟩
          exact ⟨c, by simp, hc, by simp⟩
        · rintro ⟨d, heq, -, hfront⟩
          cases front with
          | nil => simp_all
          | cons e front =>
              obtain ⟨rfl, -⟩ := List.cons.inj heq
              simp [hc] at hfront
      · rename_i hc
        rw [Option.map_eq_some_iff]
        constructor
        · rintro ⟨⟨a, b⟩, hcut, heq⟩
          obtain ⟨rfl, rfl⟩ := Prod.mk.inj heq
          obtain ⟨d, rfl, hd, hfront⟩ := ih.mp hcut
          exact ⟨d, rfl, hd, by simpa using ⟨by simpa using hc, hfront⟩⟩
        · rintro ⟨d, heq, hd, hfront⟩
          cases front with
          | nil => simp_all
          | cons e front =>
              obtain ⟨rfl, rfl⟩ := List.cons.inj heq
              have hrest : ∀ e ∈ front, p e = false := fun e he => hfront e (by simp [he])
              exact ⟨(front, rest), ih.mpr ⟨d, rfl, hd, hrest⟩, rfl⟩

end Leads

/-! ## §B Lines -/

theorem pieces_eq_splitOnP (p : Char → Bool) (cs : List Char) : pieces p cs = cs.splitOnP p := by
  induction cs with
  | nil => simp [pieces]
  | cons c cs ih =>
      rw [pieces, List.splitOnP_cons_eq_if_modifyHead, ih]
      cases hrest : cs.splitOnP p with
      | nil => exact absurd hrest (List.splitOnP_ne_nil p cs)
      | cons word words => rfl

/-- Lines are the pieces between newlines. -/
theorem lines_eq_splitOn (cs : List Char) : lines cs = cs.splitOn '\n' := by
  rw [lines, pieces_eq_splitOnP, List.splitOn_eq_splitOnP]

/-- The lines of a text, written with newlines between them, give the text again. -/
theorem unlines_lines (cs : List Char) : unlines (lines cs) = cs := by
  rw [lines_eq_splitOn, unlines, List.intercalate_splitOn]

/-- Lines without newlines in them are read again from the text that they make. -/
theorem lines_unlines {ls : List (List Char)} (hsome : ls ≠ []) (h : ∀ l ∈ ls, '\n' ∉ l) :
    lines (unlines ls) = ls := by
  rw [lines_eq_splitOn, unlines, List.splitOn_intercalate '\n' h hsome]

theorem lines_ne_nil (cs : List Char) : lines cs ≠ [] := by
  rw [lines_eq_splitOn]
  exact List.splitOn_ne_nil '\n' cs

/-- No line has a newline in it. -/
theorem newline_notMem_of_mem_lines {cs l : List Char} (h : l ∈ lines cs) : '\n' ∉ l := by
  induction cs generalizing l with
  | nil => simp_all [lines, pieces]
  | cons c cs ih =>
      simp only [lines, pieces] at h
      split at h
      · rcases List.mem_cons.mp h with rfl | h
        · simp
        · exact ih h
      · rename_i hc
        cases hrest : pieces (· == '\n') cs with
        | nil => exact absurd hrest (lines_ne_nil cs)
        | cons word words =>
            rw [hrest] at h
            rcases List.mem_cons.mp h with rfl | h
            · have hword : '\n' ∉ word := ih (by rw [lines, hrest]; simp)
              have hfirst : '\n' ≠ c := fun heq => hc (by simp [← heq])
              simp [hword, hfirst]
            · exact ih (by rw [lines, hrest]; simp [h])

/-- The lines of a text are those without a newline that give the text again. -/
theorem lines_eq_iff {cs : List Char} {ls : List (List Char)} :
    lines cs = ls ↔ ls ≠ [] ∧ (∀ l ∈ ls, '\n' ∉ l) ∧ cs = unlines ls := by
  constructor
  · rintro rfl
    exact ⟨lines_ne_nil cs, fun l hl => newline_notMem_of_mem_lines hl, (unlines_lines cs).symm⟩
  · rintro ⟨hsome, hnewline, rfl⟩
    exact lines_unlines hsome hnewline

theorem lines_of_notMem {line : List Char} (h : '\n' ∉ line) : lines line = [line] := by
  rw [lines_eq_splitOn, List.splitOn_eq_singleton h]

/-- A newline ends the first line. -/
theorem lines_append_cons {line : List Char} (h : '\n' ∉ line) (rest : List Char) :
    lines (line ++ '\n' :: rest) = line :: lines rest := by
  rw [lines_eq_splitOn, List.splitOn_append_cons_self_of_not_mem h, lines_eq_splitOn]

theorem unlines_cons {line : List Char} {ls : List (List Char)} (h : ls ≠ []) :
    unlines (line :: ls) = line ++ '\n' :: unlines ls := by
  rw [unlines, List.intercalate_cons_of_ne_nil h, List.append_assoc]
  rfl

theorem unlines_concat_nil {ls : List (List Char)} (h : ls ≠ []) :
    unlines (ls ++ [[]]) = unlines ls ++ ['\n'] := by
  induction ls with
  | nil => exact absurd rfl h
  | cons l ls ih =>
      cases ls with
      | nil => simp [unlines, List.intercalate_cons_cons]
      | cons m ls => simp_all [unlines, List.intercalate_cons_cons]

/-! ## §C Blanks at the end -/

theorem trimEnd_eq_rdropWhile (cs : List Char) : trimEnd cs = cs.rdropWhile isBlank := rfl

/-- Trimming twice is trimming once. -/
theorem trimEnd_trimEnd (cs : List Char) : trimEnd (trimEnd cs) = trimEnd cs :=
  List.rdropWhile_idempotent isBlank cs

theorem mem_of_mem_trimEnd {c : Char} {cs : List Char} (h : c ∈ trimEnd cs) : c ∈ cs :=
  (List.rdropWhile_prefix isBlank cs).subset h

/-- A trimmed line is the line without a tail of blanks, and has no blank at its end. -/
theorem trimEnd_eq_iff {cs trimmed : List Char} :
    trimEnd cs = trimmed ↔
      (∃ blanks, cs = trimmed ++ blanks ∧ ∀ c ∈ blanks, isBlank c = true) ∧
        ∀ c, trimmed.getLast? = some c → isBlank c = false := by
  constructor
  · rintro rfl
    refine ⟨⟨cs.rtakeWhile isBlank, List.rdropWhile_append_rtakeWhile.symm, ?_⟩, ?_⟩
    · intro c hc
      exact List.mem_rtakeWhile_imp hc
    · intro c hc
      have hsome : trimEnd cs ≠ [] := fun hnil => by simp [hnil] at hc
      have hlast := List.rdropWhile_last_not isBlank cs hsome
      rw [List.getLast?_eq_some_getLast hsome, Option.some.injEq] at hc
      rw [← hc]
      exact Bool.eq_false_iff.mpr hlast
  · rintro ⟨⟨blanks, rfl, hblanks⟩, hlast⟩
    have hdrop : trimEnd (trimmed ++ blanks) = trimEnd trimmed := by
      unfold trimEnd
      rw [List.reverse_append, List.dropWhile_append_of_pos (by simpa using hblanks)]
    rw [hdrop, trimEnd_eq_rdropWhile, List.rdropWhile_eq_self_iff]
    intro hsome
    simpa using hlast _ (List.getLast?_eq_some_getLast hsome)

end RollCall.Text
