import RollCall.Proofs.Json.Tokens

/-!
# RollCall.Proofs.Json.RoundTrip — reading a written value

`Legible` says which values have a text that can be read: integers fit 64 bits, members stand in the
order of their names, and every floating point number is written as a number. Reading the text of such
a value gives the value back, however deep it nests, up to its floating point numbers: each of them
becomes what its own text reads as (`reread`). The reader has a bound on the nesting; `readNested?` is
the reader with any bound, and the bound only has to admit the value.
-/

namespace RollCall.Json

/-! ## §A Values that can be read back -/

/-- What the text of a floating point number reads as, nothing where it is not one number. -/
def floatRead? (x : Binary64) : Option Json :=
  match readNumber (chars (.float x)) with
  | some (v, []) => some v
  | _ => none

/-- **`Legible v`** — integers fit 64 bits with or without a sign, members stand in the order of their
names, and the text of every floating point number is one number. -/
inductive Legible : Json → Prop
  | null : Legible .null
  | bool (b : Bool) : Legible (.bool b)
  | int {n : Int} : -(Nat.pow 2 63 : Int) ≤ n → n ≤ wordMax → Legible (.int n)
  | float {x : Binary64} : (floatRead? x).isSome = true → Legible (.float x)
  | str (s : String) : Legible (.str s)
  | arr {vs : List Json} : (∀ v ∈ vs, Legible v) → Legible (.arr vs)
  | obj {ms : List (String × Json)} :
      Dictionary.Ascending ms → (∀ m ∈ ms, Legible m.2) → Legible (.obj ms)

mutual

/-- The value with every floating point number as its own text reads. -/
def reread : Json → Json
  | .null => .null
  | .bool b => .bool b
  | .int n => .int n
  | .float x => (floatRead? x).getD (.float x)
  | .str s => .str s
  | .arr vs => .arr (rereadItems vs)
  | .obj ms => .obj (rereadMembers ms)

/-- `reread` on every item. -/
def rereadItems : List Json → List Json
  | [] => []
  | v :: vs => reread v :: rereadItems vs

/-- `reread` on the value of every member. -/
def rereadMembers : List (String × Json) → List (String × Json)
  | [] => []
  | (k, v) :: ms => (k, reread v) :: rereadMembers ms

end

mutual

/-- How deep the arrays and objects of a value nest. -/
def nesting : Json → Nat
  | .null => 0
  | .bool _ => 0
  | .int _ => 0
  | .float _ => 0
  | .str _ => 0
  | .arr vs => nestingItems vs + 1
  | .obj ms => nestingMembers ms + 1

/-- The deepest nesting of the items. -/
def nestingItems : List Json → Nat
  | [] => 0
  | v :: vs => max (nesting v) (nestingItems vs)

/-- The deepest nesting of the members. -/
def nestingMembers : List (String × Json) → Nat
  | [] => 0
  | (_, v) :: ms => max (nesting v) (nestingMembers ms)

end

theorem reread_arr (vs : List Json) : reread (.arr vs) = .arr (vs.map reread) := by
  have hitems : rereadItems vs = vs.map reread := by
    induction vs with
    | nil => rfl
    | cons v vs ih => rw [rereadItems, ih, List.map_cons]
  rw [reread, hitems]

theorem rereadMembers_eq_mapValues (ms : List (String × Json)) :
    rereadMembers ms = Dictionary.mapValues reread ms := by
  induction ms with
  | nil => rfl
  | cons m ms ih =>
      rw [rereadMembers, ih]
      rfl

/-! ## §B The front of a written value -/

/-- A number begins with a minus sign or a digit. -/
theorem front_of_readNumber {cs left : List Char} {v : Json} (h : readNumber cs = some (v, left)) :
    ∃ c rest, cs = c :: rest ∧ (c = '-' ∨ c.isDigit = true) := by
  cases cs with
  | nil => cases h
  | cons c rest =>
      refine ⟨c, rest, rfl, ?_⟩
      by_cases hminus : c = '-'
      · exact Or.inl hminus
      refine Or.inr (Decidable.byContradiction fun hdigit => ?_)
      have hnone : digits (c :: rest) = [] := by
        rw [digits, List.takeWhile_cons, if_neg hdigit, List.map_nil]
      rw [readNumber_eq, numberSign_of_ne hminus] at h
      simp only [hnone, List.isEmpty_nil, Bool.true_or, if_true] at h
      cases h

theorem skipGap_cons {c : Char} (h : isGap c = false) (cs : List Char) :
    skipGap (c :: cs) = c :: cs := by
  rw [skipGap, List.dropWhile_cons, h]
  rfl

theorem not_gap_of_number {c : Char} (h : c = '-' ∨ c.isDigit = true) : isGap c = false := by
  rcases h with rfl | h
  · rfl
  · rw [Bool.eq_false_iff]
    intro hgap
    simp only [isGap, Bool.or_eq_true, beq_iff_eq] at hgap
    rcases hgap with ((rfl | rfl) | rfl) | rfl <;> cases h

/-- What is read as one number is read as that value. -/
theorem readValue_number {cs : List Char} {v : Json} (h : readNumber cs = some (v, []))
    {rest : List Char} (hrest : Closes rest) (fuel depth : Nat) :
    readValue (fuel + 1) depth (cs ++ rest) = some (v, rest) := by
  have hread : readNumber (cs ++ rest) = some (v, rest) := by
    rw [hrest.readNumber_append, h]
    rfl
  obtain ⟨c, left, rfl, hfront⟩ := front_of_readNumber h
  have hne : ∀ d : Char, d ≠ '-' → d.isDigit = false → c ≠ d := by
    rintro d hminus hdigit rfl
    rcases hfront with rfl | hfront
    · exact hminus rfl
    · cases hdigit.symm.trans hfront
  rw [readValue, List.cons_append, skipGap_cons (not_gap_of_number hfront)]
  -- no other kind of value begins with a sign or a digit
  split
  case h_7 => exact hread
  all_goals
    rename_i heq
    exact absurd (List.cons.inj heq).1 (hne _ (by decide) (by decide))

theorem readNumber_float {x : Binary64} (h : (floatRead? x).isSome = true) :
    readNumber (chars (.float x)) = some ((floatRead? x).getD (.float x), []) := by
  unfold floatRead? at h ⊢
  split
  · rename_i heq
    exact heq
  · rename_i hnot
    split at h
    · exact absurd ‹_› (hnot _)
    · cases h

/-- A written value begins with a character that is no blank and does not close an array. -/
theorem Legible.front {v : Json} (h : Legible v) :
    ∃ c cs, chars v = c :: cs ∧ isGap c = false ∧ c ≠ ']' := by
  have hnumber : ∀ {cs : List Char} {w : Json}, readNumber cs = some (w, []) →
      ∃ c rest, cs = c :: rest ∧ isGap c = false ∧ c ≠ ']' := by
    intro cs w hread
    obtain ⟨c, rest, rfl, hfront⟩ := front_of_readNumber hread
    refine ⟨c, rest, rfl, not_gap_of_number hfront, ?_⟩
    rintro rfl
    rcases hfront with hfront | hfront <;> cases hfront
  cases h with
  | null => exact ⟨_, _, rfl, rfl, by decide⟩
  | bool b => cases b <;> exact ⟨_, _, rfl, rfl, by decide⟩
  | int hlow hhigh => exact hnumber (readNumber_decimal hlow hhigh)
  | float hsome => exact hnumber (readNumber_float hsome)
  | str s => exact ⟨_, _, rfl, rfl, by decide⟩
  | @arr vs _ => cases vs <;> exact ⟨_, _, rfl, rfl, by decide⟩
  | @obj ms _ _ => cases ms <;> exact ⟨_, _, rfl, rfl, by decide⟩

/-! ## §C Reading a written value -/

/-- **`Reads v`** — with steps for every character and levels for all nesting, the written value is
read as what it stands for, and nothing of what follows it. -/
def Reads (v : Json) : Prop :=
  ∀ fuel depth rest, Closes rest → (chars v).length ≤ fuel → nesting v ≤ depth →
    readValue fuel depth (chars v ++ rest) = some (reread v, rest)

theorem reads_number {v : Json} (h : readNumber (chars v) = some (reread v, [])) : Reads v := by
  intro fuel depth rest hrest hfuel _
  obtain ⟨c, cs, hfront, -⟩ := front_of_readNumber h
  obtain ⟨fuel, rfl⟩ : ∃ k, fuel = k + 1 := ⟨fuel - 1, by simp [hfront] at hfuel; omega⟩
  exact readValue_number h hrest fuel depth

theorem closes_itemChars (vs : List Json) (rest : List Char) : Closes (itemChars vs ++ rest) := by
  cases vs with
  | nil => exact .bracket _
  | cons v vs => exact .comma _

theorem closes_memberChars (ms : List (String × Json)) (rest : List Char) :
    Closes (memberChars ms ++ rest) := by
  cases ms with
  | nil => exact .brace _
  | cons m ms => exact .comma _

theorem length_itemChars_pos (vs : List Json) : 0 < (itemChars vs).length := by
  cases vs <;> simp [itemChars]

theorem length_memberChars_pos (ms : List (String × Json)) : 0 < (memberChars ms).length := by
  cases ms <;> simp [memberChars]

theorem quoted_append (s : String) (rest : List Char) :
    quoted s ++ rest = '"' :: (s.toList.flatMap escaped ++ '"' :: rest) := by
  simp only [quoted, List.cons_append, List.append_assoc, List.nil_append]

theorem readChars_quoted (s rest : List Char) :
    readChars ((s.flatMap escaped ++ '"' :: rest).length + 1) (s.flatMap escaped ++ '"' :: rest) =
      some (s, rest) := by
  apply readChars_flatMap_escaped
  rw [List.length_append]
  omega

section Steps

variable {fuel depth : Nat} {cs rest more : List Char} {v : Json}

theorem readItems_comma (h : readValue fuel depth cs = some (v, rest))
    (hrest : skipGap rest = ',' :: more) :
    readItems (fuel + 1) depth cs =
      (readItems fuel depth more).map fun (vs, rest) => (v :: vs, rest) := by
  simp only [readItems, h, hrest]

theorem readItems_close (h : readValue fuel depth cs = some (v, rest))
    (hrest : skipGap rest = ']' :: more) :
    readItems (fuel + 1) depth cs = some ([v], more) := by
  simp only [readItems, h, hrest]

theorem readMembers_comma (k : String) (h : readValue fuel depth cs = some (v, rest))
    (hrest : skipGap rest = ',' :: more) :
    readMembers (fuel + 1) depth (quoted k ++ ':' :: cs) =
      (readMembers fuel depth more).map fun (ms, rest) => ((k, v) :: ms, rest) := by
  rw [readMembers, quoted_append, skipGap_cons rfl]
  simp only [readChars_quoted, skipGap_cons (rfl : isGap ':' = false), h, hrest,
    String.ofList_toList]

theorem readMembers_close (k : String) (h : readValue fuel depth cs = some (v, rest))
    (hrest : skipGap rest = '}' :: more) :
    readMembers (fuel + 1) depth (quoted k ++ ':' :: cs) = some ([(k, v)], more) := by
  rw [readMembers, quoted_append, skipGap_cons rfl]
  simp only [readChars_quoted, skipGap_cons (rfl : isGap ':' = false), h, hrest,
    String.ofList_toList]

end Steps

/-- Written items are read in turn, up to the bracket that closes them. -/
theorem readItems_written (v : Json) (vs : List Json) (hreads : ∀ w ∈ v :: vs, Reads w)
    (fuel depth : Nat) (rest : List Char)
    (hfuel : (chars v).length + (itemChars vs).length ≤ fuel)
    (hdepth : nestingItems (v :: vs) ≤ depth) :
    readItems fuel depth (chars v ++ (itemChars vs ++ rest)) =
      some (rereadItems (v :: vs), rest) := by
  induction vs generalizing v fuel with
  | nil =>
      rw [nestingItems] at hdepth
      have hpos := length_itemChars_pos []
      obtain ⟨fuel, rfl⟩ : ∃ k, fuel = k + 1 := ⟨fuel - 1, by omega⟩
      have hfirst := hreads v List.mem_cons_self fuel depth (itemChars [] ++ rest)
        (closes_itemChars [] rest) (by omega) (by omega)
      rw [readItems_close hfirst rfl]
      rfl
  | cons w vs ih =>
      rw [nestingItems] at hdepth
      have hlength : (itemChars (w :: vs)).length =
          (chars w).length + (itemChars vs).length + 1 := by
        simp [itemChars]
      obtain ⟨fuel, rfl⟩ : ∃ k, fuel = k + 1 := ⟨fuel - 1, by omega⟩
      have hfirst := hreads v List.mem_cons_self fuel depth (itemChars (w :: vs) ++ rest)
        (closes_itemChars (w :: vs) rest) (by omega) (by omega)
      have hothers := ih w (fun u hu => hreads u (List.mem_cons_of_mem _ hu)) fuel
        (by omega) (by omega)
      have hcomma : skipGap (itemChars (w :: vs) ++ rest) =
          ',' :: (chars w ++ (itemChars vs ++ rest)) := by
        simp only [itemChars, List.cons_append, List.append_assoc]
        exact skipGap_cons rfl _
      rw [readItems_comma hfirst hcomma, hothers]
      rfl

/-- Written members are read in turn, up to the brace that closes them. -/
theorem readMembers_written (k : String) (v : Json) (ms : List (String × Json))
    (hfirst : Reads v) (hothers : ∀ m ∈ ms, Reads m.2) (fuel depth : Nat) (rest : List Char)
    (hfuel : (chars v).length + (memberChars ms).length ≤ fuel)
    (hdepth : nestingMembers ((k, v) :: ms) ≤ depth) :
    readMembers fuel depth (quoted k ++ ':' :: (chars v ++ (memberChars ms ++ rest))) =
      some (rereadMembers ((k, v) :: ms), rest) := by
  induction ms generalizing k v fuel with
  | nil =>
      rw [nestingMembers] at hdepth
      have hpos := length_memberChars_pos []
      obtain ⟨fuel, rfl⟩ : ∃ k, fuel = k + 1 := ⟨fuel - 1, by omega⟩
      have hread := hfirst fuel depth (memberChars [] ++ rest) (closes_memberChars [] rest)
        (by omega) (by omega)
      rw [readMembers_close k hread rfl]
      rfl
  | cons m ms ih =>
      obtain ⟨k', w⟩ := m
      rw [nestingMembers] at hdepth
      have hcomma : skipGap (memberChars ((k', w) :: ms) ++ rest) =
          ',' :: (quoted k' ++ ':' :: (chars w ++ (memberChars ms ++ rest))) := by
        simp only [memberChars, List.cons_append, List.append_assoc]
        exact skipGap_cons rfl _
      have hlength : (chars w).length + (memberChars ms).length <
          (memberChars ((k', w) :: ms)).length := by
        simp only [memberChars, List.cons_append, List.length_cons, List.length_append]
        omega
      obtain ⟨fuel, rfl⟩ : ∃ k, fuel = k + 1 := ⟨fuel - 1, by omega⟩
      have hread := hfirst fuel depth (memberChars ((k', w) :: ms) ++ rest)
        (closes_memberChars ((k', w) :: ms) rest) (by omega) (by omega)
      have hrest := ih k' w (hothers (k', w) List.mem_cons_self)
        (fun u hu => hothers u (List.mem_cons_of_mem _ hu)) fuel (by omega) (by omega)
      rw [readMembers_comma k hread hcomma, hrest]
      rfl

/-- Members in the order of their names are the object that they make. -/
theorem object_of_ascending {ms : List (String × Json)} (h : Dictionary.Ascending ms) :
    object ms = .obj ms := by
  rw [object]
  congr 1
  apply (Dictionary.ascending_ofList ms).ext h
  intro name
  rw [Dictionary.get?_ofList, Dictionary.get?_reverse h.nodup]

theorem reads_arr {vs : List Json} (hlegible : ∀ v ∈ vs, Legible v) (hreads : ∀ v ∈ vs, Reads v) :
    Reads (.arr vs) := by
  intro fuel depth rest _ hfuel hdepth
  rw [nesting] at hdepth
  have hleft : ¬(depth == 0) = true := by
    simp only [beq_iff_eq]
    omega
  cases vs with
  | nil =>
      obtain ⟨fuel, rfl⟩ : ∃ k, fuel = k + 1 := ⟨fuel - 1, by simp [chars] at hfuel; omega⟩
      rw [readValue]
      show (if (depth == 0) = true then none else some (Json.arr [], rest)) = _
      rw [if_neg hleft]
      rfl
  | cons v vs =>
      have hlength : (chars (.arr (v :: vs))).length =
          (chars v).length + (itemChars vs).length + 1 := by
        simp [chars]
      obtain ⟨fuel, rfl⟩ : ∃ k, fuel = k + 1 := ⟨fuel - 1, by omega⟩
      have hitems := readItems_written v vs hreads fuel (depth - 1) rest (by omega) (by omega)
      have htext : chars (.arr (v :: vs)) ++ rest = '[' :: (chars v ++ (itemChars vs ++ rest)) := by
        simp only [chars, List.cons_append, List.append_assoc]
      -- the first item does not begin with the bracket that closes an empty array
      obtain ⟨c, cs, hfront, hgap, hclose⟩ := (hlegible v List.mem_cons_self).front
      rw [hfront, List.cons_append] at hitems
      rw [htext, hfront, readValue, skipGap_cons rfl]
      simp only [if_neg hleft, List.cons_append, skipGap_cons hgap]
      split
      · rename_i heq
        exact absurd (List.cons.inj heq).1 hclose
      · rw [hitems]
        rfl

theorem reads_obj {ms : List (String × Json)} (hascending : Dictionary.Ascending ms)
    (hreads : ∀ m ∈ ms, Reads m.2) : Reads (.obj ms) := by
  intro fuel depth rest _ hfuel hdepth
  rw [nesting] at hdepth
  have hleft : ¬(depth == 0) = true := by
    simp only [beq_iff_eq]
    omega
  cases ms with
  | nil =>
      obtain ⟨fuel, rfl⟩ : ∃ k, fuel = k + 1 := ⟨fuel - 1, by simp [chars] at hfuel; omega⟩
      rw [readValue]
      show (if (depth == 0) = true then none else some (Json.obj [], rest)) = _
      rw [if_neg hleft]
      rfl
  | cons m ms =>
      obtain ⟨k, v⟩ := m
      have hlength : (chars v).length + (memberChars ms).length <
          (chars (.obj ((k, v) :: ms))).length := by
        simp only [chars, List.cons_append, List.length_cons, List.length_append]
        omega
      obtain ⟨fuel, rfl⟩ : ∃ k, fuel = k + 1 := ⟨fuel - 1, by omega⟩
      have hmembers := readMembers_written k v ms (hreads (k, v) List.mem_cons_self)
        (fun m hm => hreads m (List.mem_cons_of_mem _ hm)) fuel (depth - 1) rest (by omega)
        (by omega)
      have htext : chars (.obj ((k, v) :: ms)) ++ rest =
          '{' :: (quoted k ++ ':' :: (chars v ++ (memberChars ms ++ rest))) := by
        simp only [chars, List.cons_append, List.append_assoc]
      have hobject : object (rereadMembers ((k, v) :: ms)) = reread (.obj ((k, v) :: ms)) := by
        apply object_of_ascending
        rw [rereadMembers_eq_mapValues]
        unfold Dictionary.Ascending
        rw [Dictionary.names_mapValues]
        exact hascending
      rw [quoted_append] at hmembers
      rw [htext, quoted_append, readValue, skipGap_cons rfl]
      simp only [if_neg hleft, skipGap_cons (rfl : isGap '"' = false)]
      split
      · rename_i heq
        exact absurd (List.cons.inj heq).1 (by decide)
      · rw [hmembers, Option.map_some, hobject]

/-- A value that can be read back is read from its text. -/
theorem Legible.reads {v : Json} (h : Legible v) : Reads v := by
  -- the induction is on what makes the value legible, which follows the value down
  induction h with
  | null =>
      intro fuel depth rest _ hfuel _
      obtain ⟨fuel, rfl⟩ : ∃ k, fuel = k + 1 := ⟨fuel - 1, by simp [chars] at hfuel; omega⟩
      rfl
  | bool b =>
      intro fuel depth rest _ hfuel _
      cases b with
      | false =>
          obtain ⟨fuel, rfl⟩ : ∃ k, fuel = k + 1 := ⟨fuel - 1, by simp [chars] at hfuel; omega⟩
          rfl
      | true =>
          obtain ⟨fuel, rfl⟩ : ∃ k, fuel = k + 1 := ⟨fuel - 1, by simp [chars] at hfuel; omega⟩
          rfl
  | int hlow hhigh => exact reads_number (readNumber_decimal hlow hhigh)
  | float hsome => exact reads_number (readNumber_float hsome)
  | str s =>
      intro fuel depth rest _ hfuel _
      obtain ⟨fuel, rfl⟩ : ∃ k, fuel = k + 1 := ⟨fuel - 1, by simp [chars, quoted] at hfuel; omega⟩
      rw [chars, quoted_append, readValue, skipGap_cons rfl]
      simp only [readChars_quoted, Option.map_some, String.ofList_toList]
      rfl
  | arr hlegible ih => exact reads_arr hlegible ih
  | obj hascending _ ih => exact reads_obj hascending ih

/-- The reader of JSON text with another bound on the nesting. -/
def readNested? (depth : Nat) (s : String) : Option Json :=
  let cs := s.toList
  match readValue (2 * cs.length + 2) depth cs with
  | some (v, rest) => if (skipGap rest).isEmpty then some v else none
  | none => none

theorem read?_eq_readNested? (s : String) : read? s = readNested? maxDepth s := rfl

/-- The text of a value reads as the value, its floating point numbers as their own texts read,
wherever the bound on the nesting admits it at all. -/
theorem readNested?_compact {v : Json} (h : Legible v) {depth : Nat} (hdepth : nesting v ≤ depth) :
    readNested? depth v.compact = some (reread v) := by
  have hread := h.reads (2 * (chars v).length + 2) depth [] .nil (by omega) hdepth
  rw [List.append_nil] at hread
  unfold readNested? compact
  simp only [String.toList_ofList, hread]
  rfl

end RollCall.Json
