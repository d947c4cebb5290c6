import Mathlib.Data.List.Nodup
import Mathlib.Data.List.Perm.Basic
import Mathlib.Data.String.Basic
import RollCall.Text.Dictionary

/-!
# RollCall.Proofs.Dictionary — what is found in a dictionary and in which order

`get?` after `set` is decided by the names alone, for every list of entries. That the names ascend is
a separate property, `Ascending`: `set` keeps it, and from it follows that a name stands in a
dictionary once, so that two lists of entries with the same members are the same dictionary.
-/

namespace RollCall.Dictionary

variable {α : Type u} {β : Type v}

/-- The names ascend strictly by code point. -/
def Ascending (d : Dictionary α) : Prop := (names d).Pairwise (· < ·)

/-! ## §A Lookup after `set` -/

@[simp]
theorem get?_nil (name : String) : get? name ([] : Dictionary α) = none := rfl

theorem get?_cons (name : String) (entry : String × α) (d : Dictionary α) :
    get? name (entry :: d) = if entry.1 = name then some entry.2 else get? name d := rfl

/-- The value set under a name is found there, and every other name keeps its value. -/
theorem get?_set (other name : String) (value : α) (d : Dictionary α) :
    get? other (set name value d) = if name = other then some value else get? other d := by
  induction d with
  | nil => rfl
  | cons entry d ih =>
      obtain ⟨k, v⟩ := entry
      simp only [set]
      split
      · rfl
      · split
        · rename_i hk
          subst hk
          simp only [get?_cons]
          split <;> rfl
        · rename_i hk
          simp only [get?_cons, ih]
          by_cases ho : name = other
          · subst ho
            rw [if_neg hk, if_pos rfl, if_pos rfl]
          · rw [if_neg ho, if_neg ho]

@[simp]
theorem get?_set_self (name : String) (value : α) (d : Dictionary α) :
    get? name (set name value d) = some value := by
  rw [get?_set, if_pos rfl]

theorem get?_set_ne {other name : String} (h : name ≠ other) (value : α) (d : Dictionary α) :
    get? other (set name value d) = get? other d := by
  rw [get?_set, if_neg h]

theorem get?_append (name : String) (d e : Dictionary α) :
    get? name (d ++ e) = (get? name d).or (get? name e) := by
  induction d with
  | nil => rfl
  | cons entry d ih =>
      simp only [List.cons_append, get?_cons, ih]
      split <;> rfl

/-- Of entries that are set in turn the last one of a name is found. -/
theorem get?_setAll (name : String) (d : Dictionary α) (entries : List (String × α)) :
    get? name (setAll d entries) = (get? name entries.reverse).or (get? name d) := by
  induction entries generalizing d with
  | nil => rfl
  | cons entry entries ih =>
      have hstep : setAll d (entry :: entries) = setAll (set entry.1 entry.2 d) entries := rfl
      rw [hstep, ih, get?_set, List.reverse_cons, get?_append, get?_cons, get?_nil, Option.or_assoc]
      split <;> rfl

theorem get?_ofList (name : String) (entries : List (String × α)) :
    get? name (ofList entries) = get? name entries.reverse := by
  rw [ofList, get?_setAll, get?_nil, Option.or_none]

theorem get?_mapValues (f : α → β) (name : String) (d : Dictionary α) :
    get? name (mapValues f d) = (get? name d).map f := by
  induction d with
  | nil => rfl
  | cons entry d ih =>
      have hstep : mapValues f (entry :: d) = (entry.1, f entry.2) :: mapValues f d := rfl
      rw [hstep, get?_cons, get?_cons, ih]
      split <;> rfl

theorem mapValues_set (f : α → β) (name : String) (value : α) (d : Dictionary α) :
    mapValues f (set name value d) = set name (f value) (mapValues f d) := by
  induction d with
  | nil => rfl
  | cons entry d ih =>
      obtain ⟨k, v⟩ := entry
      have hcons : mapValues f ((k, v) :: d) = (k, f v) :: mapValues f d := rfl
      rw [hcons, set, set]
      split
      · rfl
      · split
        · rfl
        · rw [← ih]
          rfl

theorem mapValues_ofList (f : α → β) (entries : List (String × α)) :
    mapValues f (ofList entries) = ofList (entries.map fun e => (e.1, f e.2)) := by
  have hall : ∀ d : Dictionary α, mapValues f (setAll d entries) =
      setAll (mapValues f d) (entries.map fun e => (e.1, f e.2)) := by
    induction entries with
    | nil => exact fun _ => rfl
    | cons entry entries ih =>
        intro d
        rw [setAll, List.foldl_cons, ← setAll, ih, mapValues_set]
        rfl
  exact hall []

/-! ## §B Names -/

@[simp]
theorem names_nil : names ([] : Dictionary α) = [] := rfl

@[simp]
theorem names_cons (entry : String × α) (d : Dictionary α) :
    names (entry :: d) = entry.1 :: names d := rfl

theorem names_mapValues (f : α → β) (d : Dictionary α) : names (mapValues f d) = names d := by
  rw [names, mapValues, List.map_map]
  rfl

theorem mem_names_set (other name : String) (value : α) (d : Dictionary α) :
    other ∈ names (set name value d) ↔ other = name ∨ other ∈ names d := by
  induction d with
  | nil => simp [set]
  | cons entry d ih =>
      obtain ⟨k, v⟩ := entry
      simp only [set]
      split
      · simp
      · split
        · rename_i hk
          subst hk
          simp
        · simp only [names_cons, List.mem_cons, ih]
          tauto

theorem mem_names_setAll (name : String) (d : Dictionary α) (entries : List (String × α)) :
    name ∈ names (setAll d entries) ↔ name ∈ names d ∨ name ∈ names entries := by
  induction entries generalizing d with
  | nil => simp [setAll]
  | cons entry entries ih =>
      have hstep : setAll d (entry :: entries) = setAll (set entry.1 entry.2 d) entries := rfl
      rw [hstep, ih, mem_names_set, names_cons, List.mem_cons]
      tauto

theorem mem_names_ofList (name : String) (entries : List (String × α)) :
    name ∈ names (ofList entries) ↔ name ∈ names entries := by
  simp [ofList, mem_names_setAll]

theorem mem_of_get? {name : String} {value : α} {d : Dictionary α}
    (h : get? name d = some value) : (name, value) ∈ d := by
  induction d with
  | nil => cases h
  | cons entry d ih =>
      rw [get?_cons] at h
      split at h
      · rename_i hk
        subst hk
        cases h
        exact List.mem_cons_self
      · exact List.mem_cons_of_mem _ (ih h)

theorem mem_of_mem_set {entry : String × α} {name : String} {value : α} {d : Dictionary α}
    (h : entry ∈ set name value d) : entry = (name, value) ∨ entry ∈ d := by
  induction d with
  | nil => exact .inl (List.mem_singleton.mp h)
  | cons first d ih =>
      obtain ⟨k, v⟩ := first
      rw [set] at h
      split at h
      · exact List.mem_cons.mp h
      · split at h
        · rcases List.mem_cons.mp h with heq | hmem
          · exact .inl heq
          · exact .inr (List.mem_cons_of_mem _ hmem)
        · rcases List.mem_cons.mp h with heq | hmem
          · exact .inr (heq ▸ List.mem_cons_self)
          · exact (ih hmem).imp id (List.mem_cons_of_mem _)

theorem mem_of_mem_setAll {entry : String × α} {d : Dictionary α} {entries : List (String × α)}
    (h : entry ∈ setAll d entries) : entry ∈ d ∨ entry ∈ entries := by
  induction entries generalizing d with
  | nil => exact .inl h
  | cons first entries ih =>
      have hstep : setAll d (first :: entries) = setAll (set first.1 first.2 d) entries := rfl
      rw [hstep] at h
      rcases ih h with hmem | hmem
      · rcases mem_of_mem_set hmem with rfl | hmem
        · exact .inr List.mem_cons_self
        · exact .inl hmem
      · exact .inr (List.mem_cons_of_mem _ hmem)

theorem mem_of_mem_ofList {entry : String × α} {entries : List (String × α)}
    (h : entry ∈ ofList entries) : entry ∈ entries := by
  simpa using mem_of_mem_setAll h

theorem get?_eq_none_iff (name : String) (d : Dictionary α) :
    get? name d = none ↔ name ∉ names d := by
  induction d with
  | nil => simp
  | cons entry d ih =>
      rw [get?_cons, names_cons, List.mem_cons]
      by_cases hk : entry.1 = name
      · simp [hk]
      · rw [if_neg hk, ih]
        have hk' : ¬name = entry.1 := fun h => hk h.symm
        simp [hk']

/-- Of entries that are set in turn, one stays that has no other of its name behind it. -/
theorem get?_ofList_append_cons {name : String} {value : α} {front back : List (String × α)}
    (h : name ∉ names back) :
    get? name (ofList (front ++ (name, value) :: back)) = some value := by
  have hback : get? name back.reverse = none := by
    rw [get?_eq_none_iff, names, List.map_reverse, List.mem_reverse]
    exact h
  simp [get?_ofList, get?_append, get?_cons, hback]

theorem has_iff (name : String) (d : Dictionary α) : has name d = true ↔ name ∈ names d := by
  rw [has, Option.isSome_iff_ne_none, ne_eq, get?_eq_none_iff, not_not]

/-! ## §C Order -/

theorem ascending_nil : Ascending ([] : Dictionary α) := List.Pairwise.nil

theorem ascending_cons (entry : String × α) (d : Dictionary α) :
    Ascending (entry :: d) ↔ (∀ name ∈ names d, entry.1 < name) ∧ Ascending d := by
  rw [Ascending, names_cons, List.pairwise_cons, Ascending]

/-- `set` keeps the order. -/
theorem Ascending.set {d : Dictionary α} (h : Ascending d) (name : String) (value : α) :
    Ascending (Dictionary.set name value d) := by
  induction d with
  | nil => simp [Dictionary.set, Ascending]
  | cons entry d ih =>
      obtain ⟨k, v⟩ := entry
      obtain ⟨hk, hd⟩ := (ascending_cons _ _).mp h
      simp only [Dictionary.set]
      split
      · rename_i hlt
        refine (ascending_cons _ _).mpr ⟨?_, h⟩
        intro other ho
        rcases List.mem_cons.mp ho with rfl | ho
        · exact hlt
        · exact lt_trans hlt (hk other ho)
      · split
        · rename_i hn
          subst hn
          exact (ascending_cons _ _).mpr ⟨hk, hd⟩
        · rename_i hlt hn
          refine (ascending_cons _ _).mpr ⟨?_, ih hd⟩
          intro other ho
          rcases (mem_names_set _ _ _ _).mp ho with rfl | ho
          · exact lt_of_le_of_ne (not_lt.mp hlt) hn
          · exact hk other ho

theorem Ascending.setAll {d : Dictionary α} (h : Ascending d) (entries : List (String × α)) :
    Ascending (Dictionary.setAll d entries) := by
  induction entries generalizing d with
  | nil => exact h
  | cons entry entries ih => exact ih (h.set entry.1 entry.2)

theorem ascending_ofList (entries : List (String × α)) : Ascending (ofList entries) :=
  ascending_nil.setAll entries

theorem Ascending.nodup {d : Dictionary α} (h : Ascending d) : (names d).Nodup :=
  h.imp fun hlt => ne_of_lt hlt

/-- Where no name stands twice, every entry is found. -/
theorem get?_eq_some_iff {d : Dictionary α} (h : (names d).Nodup) (name : String) (value : α) :
    get? name d = some value ↔ (name, value) ∈ d := by
  refine ⟨mem_of_get?, ?_⟩
  induction d with
  | nil => intro hm; cases hm
  | cons entry d ih =>
      intro hm
      rw [names_cons, List.nodup_cons] at h
      rw [get?_cons]
      rcases List.mem_cons.mp hm with rfl | hm
      · rw [if_pos rfl]
      · have hne : entry.1 ≠ name := by
          intro heq
          have hname : name ∈ names d := List.mem_map.mpr ⟨(name, value), hm, rfl⟩
          exact h.1 (heq ▸ hname)
        rw [if_neg hne]
        exact ih h.2 hm

/-- Where no name stands twice, the order of the entries does not show. -/
theorem get?_eq_of_perm {d e : Dictionary α} (h : (names d).Nodup) (hp : d.Perm e) (name : String) :
    get? name d = get? name e := by
  have he : (names e).Nodup := (hp.map Prod.fst).nodup_iff.mp h
  apply Option.ext
  intro value
  rw [get?_eq_some_iff h, get?_eq_some_iff he, hp.mem_iff]

/-- Where all values are worked out from their names, so is what is found. -/
theorem get?_ofList_of_forall {entries : List (String × α)} {f : String → α} {name : String}
    (h : ∀ entry ∈ entries, entry.2 = f entry.1) (hname : name ∈ names entries) :
    get? name (ofList entries) = some (f name) := by
  cases hget : get? name (ofList entries) with
  | none =>
      rw [get?_eq_none_iff, mem_names_ofList] at hget
      exact absurd hname hget
  | some value =>
      rw [get?_ofList] at hget
      have hvalue := h _ (List.mem_reverse.mp (mem_of_get? hget))
      exact congrArg some hvalue

theorem get?_reverse {d : Dictionary α} (h : (names d).Nodup) (name : String) :
    get? name d.reverse = get? name d :=
  (get?_eq_of_perm h (List.reverse_perm d).symm name).symm

/-! ## §D Equality -/

/-- Two dictionaries in which the same is found under every name are the same. -/
theorem Ascending.ext {d e : Dictionary α} (hd : Ascending d) (he : Ascending e)
    (h : ∀ name, get? name d = get? name e) : d = e := by
  have hperm : d.Perm e := by
    rw [List.perm_ext_iff_of_nodup hd.nodup.of_map he.nodup.of_map]
    rintro ⟨name, value⟩
    rw [← get?_eq_some_iff hd.nodup, ← get?_eq_some_iff he.nodup, h]
  have hdNames : d.Pairwise fun a b => a.1 < b.1 := List.pairwise_map.mp hd
  have heNames : e.Pairwise fun a b => a.1 < b.1 := List.pairwise_map.mp he
  refine hperm.eq_of_pairwise ?_ hdNames heNames
  intro a b _ _ hab hba
  exact absurd hba (lt_asymm hab)

/-- Entries of which each has its own name make the same dictionary in every order. -/
theorem ofList_perm {entries others : List (String × α)} (h : (names entries).Nodup)
    (hperm : entries.Perm others) : ofList entries = ofList others := by
  refine (ascending_ofList _).ext (ascending_ofList _) ?_
  intro name
  have hothers : (names others).Nodup := (hperm.map Prod.fst).nodup_iff.mp h
  rw [get?_ofList, get?_ofList, get?_reverse h, get?_reverse hothers, get?_eq_of_perm h hperm]

/-! ## §E Sorting by name -/

section Sorting

variable (key : α → String) (l : List α)

theorem decide_key_trans (a b c : α) (hab : decide (key a ≤ key b) = true)
    (hbc : decide (key b ≤ key c) = true) : decide (key a ≤ key c) = true := by
  simp only [decide_eq_true_eq] at hab hbc ⊢
  exact le_trans hab hbc

theorem decide_key_total (a b : α) :
    (decide (key a ≤ key b) || decide (key b ≤ key a)) = true := by
  simpa using le_total (key a) (key b)

theorem pairwise_mergeSort_key :
    (l.mergeSort fun a b => decide (key a ≤ key b)).Pairwise fun a b => key a ≤ key b := by
  have hsorted := List.pairwise_mergeSort (decide_key_trans key) (decide_key_total key) l
  simpa using hsorted

/-- Sorting keeps the order of the values of one name. -/
theorem filter_mergeSort_key (name : String) :
    (l.mergeSort fun a b => decide (key a ≤ key b)).filter (fun a => key a = name) =
      l.filter fun a => key a = name := by
  have hsame : (l.filter fun a => key a = name).Pairwise
      fun a b => decide (key a ≤ key b) = true := by
    apply List.pairwise_of_forall_mem_list
    intro a ha b hb
    have haname : key a = name := by simpa using List.of_mem_filter ha
    have hbname : key b = name := by simpa using List.of_mem_filter hb
    simp [haname, hbname]
  have hsub := List.sublist_mergeSort (decide_key_trans key) (decide_key_total key) hsame
    List.filter_sublist
  have hfilter := hsub.filter fun a => key a = name
  rw [List.filter_filter] at hfilter
  simp only [Bool.and_self] at hfilter
  have hlength := ((List.mergeSort_perm l fun a b => decide (key a ≤ key b)).filter
    fun a => key a = name).length_eq
  exact (hfilter.eq_of_length hlength.symm).symm

/-- Where values of one name are equal, sorting leaves nothing of the order given. -/
theorem mergeSort_key_perm {others : List α} (hkey : ∀ a ∈ l, ∀ b ∈ l, key a = key b → a = b)
    (h : l.Perm others) :
    (l.mergeSort fun a b => decide (key a ≤ key b)) =
      others.mergeSort fun a b => decide (key a ≤ key b) := by
  refine List.Perm.eq_of_pairwise ?_ (pairwise_mergeSort_key key l)
    (pairwise_mergeSort_key key others) ?_
  · intro a b ha hb hab hba
    exact hkey a (List.mem_mergeSort.mp ha) b (h.mem_iff.mpr (List.mem_mergeSort.mp hb))
      (le_antisymm hab hba)
  · exact (List.mergeSort_perm _ _).trans (h.trans (List.mergeSort_perm _ _).symm)

end Sorting

end RollCall.Dictionary
