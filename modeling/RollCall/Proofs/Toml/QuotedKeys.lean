import RollCall.Proofs.Toml.Tables

/-!
# RollCall.Proofs.Toml.QuotedKeys — keys in quotes are single names

Spellings of types have points and brackets in them, which mean something in a bare key. Between
quotes they mean nothing: a key in quotes is one name, the text between the quotes
(`readKey_quoted`). So a section of lines with quoted keys is read as the table of just these names,
each with the value of its line, and no table comes in between (`read?_examplesText`).
-/

namespace RollCall.Toml

/-! ## §A One key -/

/-- A text that may stand between double quotes as it is. -/
def Quotable (cs : List Char) : Prop := ∀ c ∈ cs, isPlain c = true ∧ c ≠ '"' ∧ c ≠ '\\'

theorem readBasic_quotable {cs : List Char} (h : Quotable cs) {fuel : Nat}
    (hfuel : cs.length < fuel) (rest : List Char) :
    readBasic fuel (cs ++ '"' :: rest) = some (cs, rest) := by
  induction cs generalizing fuel with
  | nil =>
      obtain ⟨fuel, rfl⟩ := Nat.exists_eq_add_of_lt hfuel
      simp [readBasic]
  | cons c cs ih =>
      obtain ⟨fuel, rfl⟩ := Nat.exists_eq_add_of_lt hfuel
      obtain ⟨hplain, hquote, hescape⟩ := h c List.mem_cons_self
      have hrest : readBasic (cs.length + 1 + fuel) (cs ++ '"' :: rest) = some (cs, rest) :=
        ih (fun d hd => h d (List.mem_cons_of_mem c hd)) (by omega)
      simp [readBasic, hplain, hquote, hescape, hrest]

/-- A key in quotes is one name, up to the sign behind it. -/
theorem readKey_quoted {key : String} (h : Quotable key.toList) (rest : List Char) :
    readKey ('"' :: key.toList ++ '"' :: ' ' :: '=' :: rest) = some ([key], '=' :: rest) := by
  have hpart : readPart ('"' :: key.toList ++ '"' :: ' ' :: '=' :: rest) =
      some (key, ' ' :: '=' :: rest) := by
    have hbasic := readBasic_quotable h
      (show key.toList.length < (key.toList ++ '"' :: ' ' :: '=' :: rest).length + 1 by
        simp only [List.length_append]; omega) (' ' :: '=' :: rest)
    simp only [List.cons_append, readPart]
    rw [if_neg (by decide)]
    simp only [readShortString, beq_self_eq_true, if_true, hbasic, Option.map_some,
      String.ofList_toList]
  have hparts : ∀ fuel, readParts (fuel + 1) ('"' :: key.toList ++ '"' :: ' ' :: '=' :: rest) =
      some ([key], '=' :: rest) := by
    intro fuel
    rw [readParts]
    have hfront : ('"' :: key.toList ++ '"' :: ' ' :: '=' :: rest).dropWhile isBlank =
      '"' :: key.toList ++ '"' :: ' ' :: '=' :: rest := rfl
    rw [hfront, hpart]
    rfl
  rw [readKey, hparts]
  rfl

/-! ## §B A section of quoted keys -/

/-- A line that sets a value under a key in quotes. -/
structure Line where
  key : String
  literal : List Char
  value : Setting

/-- The text of a line. -/
def Line.text (line : Line) : List Char :=
  '"' :: line.key.toList ++ '"' :: ' ' :: '=' :: ' ' :: line.literal ++ ['\n']

/-- **Literal.** A text that is read as a value wherever it stands at the end of a line. -/
def Literal (literal : List Char) (v : Setting) : Prop :=
  ∀ fuel rest, literal.length < fuel →
    readValue fuel maxDepth ((literal ++ '\n' :: rest).dropWhile isBlank) = some (v, '\n' :: rest)

/-- A line can be written: its key stands between quotes as it is, and its literal is its value. -/
def Line.Written (line : Line) : Prop :=
  Quotable line.key.toList ∧ Literal line.literal line.value

theorem readLines_line {line : Line} (h : line.Written) (fuel : Nat) (table : List String)
    (entries : Entries) (rest : List Char) :
    readLines (fuel + 1) table entries (line.text ++ rest) =
      (alter (assign true [line.key] line.value) table entries).bind fun entries =>
        readLines fuel table entries rest := by
  have htext : line.text ++ rest = '"' :: (line.key.toList ++ '"' :: ' ' :: '=' :: ' ' ::
      (line.literal ++ '\n' :: rest)) := by
    simp [Line.text]
  have hkey := readKey_quoted h.1 (' ' :: (line.literal ++ '\n' :: rest))
  have hvalue := h.2 (2 * (' ' :: (line.literal ++ '\n' :: rest)).length + 2) rest
    (by simp only [List.length_cons, List.length_append]; omega)
  have hblank : (' ' :: (line.literal ++ '\n' :: rest)).dropWhile isBlank =
      (line.literal ++ '\n' :: rest).dropWhile isBlank := rfl
  rw [htext, readLines]
  have hfront : ('"' :: (line.key.toList ++ '"' :: ' ' :: '=' :: ' ' ::
      (line.literal ++ '\n' :: rest))).dropWhile isBlank = '"' :: (line.key.toList ++ '"' :: ' ' ::
      '=' :: ' ' :: (line.literal ++ '\n' :: rest)) := rfl
  rw [hfront]
  -- the line starts with a quote, so it is neither empty nor a header
  split
  · rename_i heq
    cases heq
  · rename_i heq
    cases heq
  · rename_i heq
    cases heq
  · rename_i heq
    cases heq
    rw [List.cons_append] at hkey
    rw [if_neg (by simp [newline?]), hkey]
    simp only [hblank, hvalue, Option.bind_eq_bind, Option.bind_some]
    rfl

/-- The header of the section of example values. -/
def examplesHeader : List Char := '[' :: "examples]\n".toList

/-- A document of that section alone. -/
def examplesText (lines : List Line) : String :=
  String.ofList (examplesHeader ++ lines.flatMap Line.text)

theorem read?_bracket (cs : List Char) : read? (String.ofList ('[' :: cs)) =
    (readLines (cs.length + 2) [] [] ('[' :: cs)).map fun entries =>
      .table (finishEntries entries) := by
  unfold read?
  rw [String.toList_ofList]
  simp only [show ('['.toNat == 0xFEFF) = false from rfl, Bool.false_eq_true, if_false,
    List.length_cons]

theorem readLines_header (fuel : Nat) (rest : List Char) :
    readLines (fuel + 1) [] [] (examplesHeader ++ rest) =
      readLines fuel ["examples"] [("examples", .table .header [])] rest := rfl

/-- Each line of the section adds its key, which is new, to those read before. -/
theorem readLines_section {lines : List Line} (h : ∀ line ∈ lines, line.Written)
    (hkeys : (lines.map Line.key).Nodup) {fuel : Nat} (hfuel : lines.length < fuel) (sub : Entries)
    (hsub : ∀ line ∈ lines, line.key ∉ Dictionary.names sub) :
    readLines fuel ["examples"] [("examples", .table .header sub)] (lines.flatMap Line.text) =
      some [("examples", .table .header
        (Dictionary.setAll sub (lines.map fun line => (line.key, .value line.value))))] := by
  induction lines generalizing fuel sub with
  | nil =>
      obtain ⟨fuel, rfl⟩ := Nat.exists_eq_add_of_lt hfuel
      rfl
  | cons line lines ih =>
      obtain ⟨fuel, rfl⟩ := Nat.exists_eq_add_of_lt hfuel
      rw [List.map_cons, List.nodup_cons] at hkeys
      have hnew : Dictionary.has line.key sub = false := by
        have hmem := hsub line List.mem_cons_self
        rwa [← Dictionary.has_iff, Bool.not_eq_true] at hmem
      have halter : alter (assign true [line.key] line.value) ["examples"]
          [("examples", .table .header sub)] = some [("examples",
            .table .header (Dictionary.set line.key (.value line.value) sub))] := by
        simp [alter, assign, Dictionary.get?_cons, hnew, Dictionary.set]
      rw [List.flatMap_cons, readLines_line (h line List.mem_cons_self), halter, Option.bind_some,
        ih (fun l hl => h l (List.mem_cons_of_mem _ hl)) hkeys.2
          (by simp only [List.length_cons]; omega) _ ?_]
      · rfl
      · intro other hother hmem
        rcases (Dictionary.mem_names_set _ _ _ _).mp hmem with heq | hmem
        · exact hkeys.1 (heq ▸ List.mem_map_of_mem hother)
        · exact hsub other (List.mem_cons_of_mem _ hother) hmem

theorem length_le_flatMap_text (lines : List Line) :
    lines.length ≤ (lines.flatMap Line.text).length := by
  induction lines with
  | nil => exact Nat.le_refl 0
  | cons line lines ih =>
      have hpos : 0 < line.text.length := by simp [Line.text]
      rw [List.flatMap_cons, List.length_append, List.length_cons]
      omega

theorem finishEntries_lines (lines : List Line) :
    finishEntries (Dictionary.ofList (lines.map fun line => (line.key, .value line.value))) =
      Dictionary.ofList (lines.map fun line => (line.key, line.value)) := by
  rw [finishEntries_eq, Dictionary.mapValues_ofList, List.map_map]
  simp [Function.comp_def, Node.finish]

/-- A section of lines with quoted keys is the table of just these keys. -/
theorem read?_examplesText {lines : List Line} (h : ∀ line ∈ lines, line.Written)
    (hkeys : (lines.map Line.key).Nodup) :
    read? (examplesText lines) =
      some (.table [("examples", .table
        (Dictionary.ofList (lines.map fun line => (line.key, line.value))))]) := by
  have hroom : lines.length < (lines.flatMap Line.text).length + 11 := by
    have hle := length_le_flatMap_text lines
    omega
  have hlines := readLines_section h hkeys hroom [] (by simp)
  have hfuel : ("examples]\n".toList ++ lines.flatMap Line.text).length + 2 =
      (lines.flatMap Line.text).length + 11 + 1 := by
    rw [List.length_append, Nat.add_comm "examples]\n".toList.length]
    rfl
  rw [examplesText, examplesHeader, List.cons_append, read?_bracket, hfuel, ← List.cons_append,
    ← examplesHeader, readLines_header, hlines, Option.map_some, ← Dictionary.ofList, finishEntries,
    finishEntries, Node.finish, finishEntries_lines]

end RollCall.Toml
