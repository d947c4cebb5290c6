import RollCall.Proofs.Settings.Merge
import RollCall.Toml.Document

/-!
# RollCall.Proofs.Toml.Tables — the tables of a document

Every table of a document that is reached through tables has its names in ascending order, each of
them once. Lines only ever `set` entries, at the end of a path into the tree under construction, so
each way to reach into the tree keeps it in order (`assign_inOrder` and its like), hence each line
does, hence the document (`read?_ordered`).
-/

namespace RollCall.Toml

open RollCall.Setting (Ordered PlainOnly plainOnly_none plainOnly_some)

/-! ## §A Trees in order -/

/-- A node that is finished into a value in order. An array of tables becomes a list. -/
inductive Node.Ordered : Node → Prop where
  | value {v : Setting} (h : v.Ordered) : Ordered (.value v)
  | table {origin : Origin} {entries : Entries} (names : Dictionary.Ascending entries)
      (values : ∀ entry ∈ entries, Ordered entry.2) : Ordered (.table origin entries)
  | tables {elements : List Entries} : Ordered (.tables elements)

/-- Entries of a node in order. -/
def InOrder (entries : Entries) : Prop := (Node.table .header entries).Ordered

theorem inOrder_nil : InOrder [] := .table Dictionary.ascending_nil (by simp)

/-- Entries are in order under whatever origin their table has. -/
theorem InOrder.table {entries : Entries} (h : InOrder entries) (origin : Origin) :
    (Node.table origin entries).Ordered := by
  cases h with
  | table names values => exact .table names values

theorem Node.Ordered.entries {origin : Origin} {entries : Entries}
    (h : (Node.table origin entries).Ordered) : InOrder entries := by
  cases h with
  | table names values => exact Node.Ordered.table names values

/-- What is found in entries in order is in order. -/
theorem InOrder.get? {entries : Entries} (h : InOrder entries) {key : String} {node : Node}
    (hget : Dictionary.get? key entries = some node) : node.Ordered := by
  cases h with
  | table names values => exact values _ (Dictionary.mem_of_get? hget)

/-- Entries stay in order when one is set to a node in order. -/
theorem InOrder.set {entries : Entries} (h : InOrder entries) (key : String) {node : Node}
    (hnode : node.Ordered) : InOrder (Dictionary.set key node entries) := by
  cases h with
  | table names values =>
      refine Node.Ordered.table (names.set key node) ?_
      intro entry hentry
      rcases Dictionary.mem_of_mem_set hentry with rfl | hentry
      · exact hnode
      · exact values entry hentry

/-- Lines reach into a tree by setting an entry to a node made from what is under it. -/
theorem InOrder.of_map_set {entries result : Entries} (h : InOrder entries) {key : String}
    {sub : Option Entries} {node : Entries → Node}
    (hresult : sub.map (fun sub => Dictionary.set key (node sub) entries) = some result)
    (hnode : ∀ found, sub = some found → (node found).Ordered) : InOrder result := by
  obtain ⟨found, hfound, rfl⟩ := Option.map_eq_some_iff.mp hresult
  exact h.set key (hnode found hfound)

/-- Assigning a value at a path keeps entries in order. -/
theorem assign_inOrder {mayEnd : Bool} {path : List String} {v : Setting}
    {entries result : Entries} (hv : v.Ordered) (h : InOrder entries)
    (hassign : assign mayEnd path v entries = some result) : InOrder result := by
  fun_induction assign mayEnd path v entries generalizing result with
  | case1 => cases hassign
  | case2 => cases hassign
  | case3 =>
      cases hassign
      exact h.set _ (.value hv)
  | case4 _ _ _ _ _ _ _ ih =>
      exact h.of_map_set hassign fun found hfound => (ih hv inOrder_nil hfound).table _
  | case5 _ _ _ _ _ _ _ hget ih =>
      exact h.of_map_set hassign fun found hfound => (ih hv (h.get? hget).entries hfound).table _
  | case6 _ _ _ _ _ _ _ hget ih =>
      exact h.of_map_set hassign fun found hfound => (ih hv (h.get? hget).entries hfound).table _
  | case7 => exact h.of_map_set hassign fun found hfound => .tables
  | case8 => cases hassign

theorem alter_inOrder {f : Entries → Option Entries}
    (hf : ∀ {entries result}, InOrder entries → f entries = some result → InOrder result)
    {path : List String} {entries result : Entries} (h : InOrder entries)
    (halter : alter f path entries = some result) : InOrder result := by
  fun_induction alter f path entries generalizing result with
  | case1 => exact hf h halter
  | case2 _ _ _ _ _ hget ih =>
      exact h.of_map_set halter fun found hfound => (ih (h.get? hget).entries hfound).table _
  | case3 => exact h.of_map_set halter fun found hfound => .tables
  | case4 => cases halter

/-- Starting a table at a path keeps entries in order. -/
theorem startTable_inOrder {path : List String} {entries result : Entries} (h : InOrder entries)
    (hstart : startTable path entries = some result) : InOrder result := by
  fun_induction startTable path entries generalizing result with
  | case1 => cases hstart
  | case2 =>
      cases hstart
      exact h.set _ (inOrder_nil.table _)
  | case3 _ _ _ hget =>
      cases hstart
      exact h.set _ ((h.get? hget).entries.table _)
  | case4 => cases hstart
  | case5 _ _ _ _ _ ih =>
      exact h.of_map_set hstart fun found hfound => (ih inOrder_nil hfound).table _
  | case6 _ _ _ _ _ _ hget ih =>
      exact h.of_map_set hstart fun found hfound => (ih (h.get? hget).entries hfound).table _
  | case7 => exact h.of_map_set hstart fun found hfound => .tables
  | case8 => cases hstart

/-- Starting an element of an array of tables keeps entries in order. -/
theorem startElement_inOrder {path : List String} {entries result : Entries} (h : InOrder entries)
    (hstart : startElement path entries = some result) : InOrder result := by
  fun_induction startElement path entries generalizing result with
  | case1 => cases hstart
  | case2 =>
      cases hstart
      exact h.set _ .tables
  | case3 =>
      cases hstart
      exact h.set _ .tables
  | case4 => cases hstart
  | case5 _ _ _ _ _ ih =>
      exact h.of_map_set hstart fun found hfound => (ih inOrder_nil hfound).table _
  | case6 _ _ _ _ _ _ hget ih =>
      exact h.of_map_set hstart fun found hfound => (ih (h.get? hget).entries hfound).table _
  | case7 => exact h.of_map_set hstart fun found hfound => .tables
  | case8 => cases hstart

theorem finishEntries_eq (entries : Entries) :
    finishEntries entries = Dictionary.mapValues Node.finish entries := by
  induction entries with
  | nil => rfl
  | cons entry entries ih => rw [finishEntries, ih]; rfl

/-- A node in order is finished into a value in order. -/
theorem Node.Ordered.finish {node : Node} (h : node.Ordered) : node.finish.Ordered := by
  induction h with
  | value h => rwa [Node.finish]
  | table names values ih =>
      rw [Node.finish, finishEntries_eq]
      refine .table ?_ ?_
      · rw [Dictionary.Ascending, Dictionary.names_mapValues]
        exact names
      · intro entry hentry
        obtain ⟨source, hsource, rfl⟩ := List.mem_map.mp hentry
        exact ih source hsource
  | tables =>
      apply Ordered.plain
      simp [Node.finish, Setting.standing]

theorem InOrder.finish {entries : Entries} (h : InOrder entries) :
    (Setting.table (finishEntries entries)).Ordered := Node.Ordered.finish h

/-! ## §B Documents in order -/

theorem float?_plain (word : List Char) : PlainOnly (float? word) := by
  unfold float?
  simp only [Option.bind_eq_bind]
  -- whatever fraction and exponent are, each branch ends in a number or in nothing
  repeat' first
    | exact plainOnly_none
    | exact plainOnly_some nofun
    | refine PlainOnly.bind fun _ => ?_
    | split

/-- Words that are read as whole numbers are plain values. -/
theorem integer?_plain (word : List Char) : PlainOnly (integer? word) := by
  unfold integer?
  simp only [Option.bind_eq_bind]
  split
  all_goals
    refine PlainOnly.bind fun digits => ?_
    split_ifs
  all_goals first
    | exact plainOnly_some nofun
    | exact plainOnly_none

theorem special?_plain (word : List Char) : PlainOnly (special? word) := by
  simp only [special?]
  split_ifs
  · exact plainOnly_some nofun
  · exact plainOnly_some nofun
  · exact plainOnly_none

/-- Values that are single words are in order. -/
theorem word?_ordered {word : List Char} {v : Setting} (h : word? word = some v) : v.Ordered := by
  unfold word? at h
  split at h
  · cases h; exact .plain nofun
  · split at h
    · cases h; exact .plain nofun
    · split at h
      · -- a date is the one table among the words
        cases h
        exact Setting.ordered_nil.set _ (.plain nofun)
      · exact .plain ((float?_plain _).or ((integer?_plain _).or (special?_plain _)) v h)

theorem readWord_ordered {cs rest : List Char} {v : Setting} (h : readWord cs = some (v, rest)) :
    v.Ordered := by
  unfold readWord at h
  simp only at h
  split at h
  all_goals
    obtain ⟨w, hw, heq⟩ := Option.map_eq_some_iff.mp h
    cases heq
    exact word?_ordered hw

/-- A value is in order if the pairs of a table are. Lists are plain, whatever they hold. -/
theorem readValue_step {fuel : Nat}
    (hpairs : ∀ room entries cs result rest, InOrder entries →
      readPairs fuel room entries cs = some (result, rest) → InOrder result)
    {room : Nat} {cs rest : List Char} {v : Setting}
    (h : readValue (fuel + 1) room cs = some (v, rest)) : v.Ordered := by
  cases cs with
  | nil => cases h
  | cons c cs =>
      rw [readValue] at h
      split at h
      · obtain ⟨found, -, heq⟩ := Option.map_eq_some_iff.mp h
        cases heq
        exact .plain nofun
      · split at h
        · split at h
          · cases h
          · obtain ⟨found, -, heq⟩ := Option.map_eq_some_iff.mp h
            cases heq
            exact .plain nofun
        · split at h
          · -- a table on one line, empty or with pairs
            split at h
            · cases h
            · split at h
              · cases h
                exact Setting.ordered_nil
              · obtain ⟨⟨entries, left⟩, hread, heq⟩ := Option.map_eq_some_iff.mp h
                cases heq
                exact (hpairs _ _ _ _ _ inOrder_nil hread).finish
          · exact readWord_ordered h

theorem readPairs_step {fuel : Nat}
    (hvalue : ∀ room cs v rest, readValue fuel room cs = some (v, rest) → v.Ordered)
    (hpairs : ∀ room entries cs result rest, InOrder entries →
      readPairs fuel room entries cs = some (result, rest) → InOrder result)
    {room : Nat} {entries result : Entries} {cs rest : List Char} (hentries : InOrder entries)
    (h : readPairs (fuel + 1) room entries cs = some (result, rest)) : InOrder result := by
  rw [readPairs] at h
  split at h
  · split at h
    · cases h
    · rename_i v left hread
      split at h
      · cases h
      · rename_i more hassign
        have hmore := assign_inOrder (hvalue _ _ _ _ hread) hentries hassign
        split at h
        · exact hpairs _ _ _ _ _ hmore h
        · cases h
          exact hmore
        · cases h
  · cases h

/-- Whatever is read as a value is in order, and pairs are added to entries in order. -/
theorem read_inOrder (fuel : Nat) :
    (∀ room cs v rest, readValue fuel room cs = some (v, rest) → v.Ordered) ∧
      ∀ room entries cs result rest, InOrder entries →
        readPairs fuel room entries cs = some (result, rest) → InOrder result := by
  induction fuel with
  | zero => simp [readValue, readPairs]
  | succ fuel ih =>
      refine ⟨?_, ?_⟩
      · intro room cs v rest
        exact readValue_step ih.2
      · intro room entries cs result rest
        exact readPairs_step ih.1 ih.2

/-- Lines keep the tree in order. -/
theorem readLines_inOrder {fuel : Nat} {table : List String} {entries result : Entries}
    {cs : List Char} (h : InOrder entries) (hread : readLines fuel table entries cs = some result) :
    InOrder result := by
  -- each line is a header, an element of an array, an assignment, or nothing
  induction fuel generalizing table entries cs with
  | zero => cases hread
  | succ fuel ih =>
      rw [readLines] at hread
      split at hread
      · cases hread
        exact h
      · split at hread
        · simp only [Option.bind_eq_bind, Option.bind_eq_some_iff] at hread
          obtain ⟨started, hstart, rest, -, hread⟩ := hread
          exact ih (startElement_inOrder h hstart) hread
        · cases hread
      · split at hread
        · simp only [Option.bind_eq_bind, Option.bind_eq_some_iff] at hread
          obtain ⟨started, hstart, rest, -, hread⟩ := hread
          exact ih (startTable_inOrder h hstart) hread
        · cases hread
      · split at hread
        · simp only [Option.bind_eq_bind, Option.bind_eq_some_iff] at hread
          obtain ⟨rest, -, hread⟩ := hread
          exact ih h hread
        · split at hread
          · simp only [Option.bind_eq_bind, Option.bind_eq_some_iff] at hread
            obtain ⟨⟨v, left⟩, hvalue, altered, halter, rest, -, hread⟩ := hread
            refine ih (alter_inOrder ?_ h halter) hread
            intro old new hold hassign
            exact assign_inOrder ((read_inOrder _).1 _ _ _ _ hvalue) hold hassign
          · cases hread

/-- Every document is a table in order. -/
theorem read?_ordered {document : String} {v : Setting} (h : read? document = some v) :
    v.Ordered := by
  obtain ⟨entries, hread, rfl⟩ := Option.map_eq_some_iff.mp h
  exact (readLines_inOrder inOrder_nil hread).finish

end RollCall.Toml
