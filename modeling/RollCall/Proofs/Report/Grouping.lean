import Mathlib.Data.List.Induction
import RollCall.Proofs.Report

/-!
# RollCall.Proofs.Report.Grouping — what the groups of a list of names are

A name belongs to the group of its first word. `BelongsTo` says so of the two names, without a scan,
and no name belongs to two groups. The names of a group are those of the list that belong to it, each
as often as it is listed.

The methods inside a group are sorted by name, and a method is known by its name. So methods that the
sorting could leave in either order are equal, and the groups do not show the order of the list.
-/

namespace RollCall

open Text

/-! ## §A The group of a name -/

/-- **`BelongsTo method group`** — the name of the group is the first word of the method's name, with
a second word behind it, or it is empty and the name has one word only. A word ends in front of the
first upper case character that is not the first character of the name. -/
def BelongsTo (method group : String) : Prop :=
  (group ≠ "" ∧
      (∃ c rest, method.toList = group.toList ++ c :: rest ∧ isUppercase c = true) ∧
      ∀ d ∈ group.toList.tail, isUppercase d = false) ∨
    group = "" ∧ ∀ d ∈ method.toList.tail, isUppercase d = false

theorem groupChars_of_two_words {c d : Char} {word rest : List Char}
    (hword : ∀ e ∈ word, isUppercase e = false) (hd : isUppercase d = true) :
    groupChars (c :: (word ++ d :: rest)) = c :: word := by
  have hany : (word ++ d :: rest).any isUppercase = true := by simp [hd]
  have htake : (word ++ d :: rest).takeWhile (fun e => !isUppercase e) = word := by
    rw [List.takeWhile_append_of_pos (by simpa using hword)]
    simp [hd]
  simp [groupChars, hany, htake]

theorem groupChars_of_one_word {cs : List Char} (h : ∀ d ∈ cs.tail, isUppercase d = false) :
    groupChars cs = [] := by
  cases cs with
  | nil => rfl
  | cons c cs =>
      have hany : cs.any isUppercase = false := by
        apply List.any_eq_false.mpr
        intro d hd
        simp [h d hd]
      simp [groupChars, hany]

/-- Every name has one word, or a first one with a second one behind it. -/
theorem one_word_or_two (cs : List Char) :
    (∀ d ∈ cs.tail, isUppercase d = false) ∨
      ∃ c word d rest, cs = c :: (word ++ d :: rest) ∧
        (∀ e ∈ word, isUppercase e = false) ∧ isUppercase d = true := by
  cases cs with
  | nil => simp
  | cons c cs =>
      cases hfind : cs.find? isUppercase with
      | none =>
          left
          intro d hd
          simpa using List.find?_eq_none.mp hfind d hd
      | some d =>
          right
          obtain ⟨hd, word, rest, rfl, hword⟩ := List.find?_eq_some_iff_append.mp hfind
          exact ⟨c, word, d, rest, rfl, by simpa using hword, hd⟩

/-- A name belongs to one group, the one it is put into. -/
theorem belongsTo_iff (method group : String) :
    BelongsTo method group ↔ groupName method = group := by
  constructor
  · rintro (⟨hne, ⟨d, rest, hmethod, hd⟩, hword⟩ | ⟨rfl, hone⟩)
    · cases hgroup : group.toList with
      | nil => exact absurd (String.toList_eq_nil_iff.mp hgroup) hne
      | cons c word =>
          rw [hgroup] at hmethod hword
          rw [List.tail_cons] at hword
          rw [groupName, hmethod, List.cons_append, groupChars_of_two_words hword hd, ← hgroup,
            String.ofList_toList]
    · rw [groupName, groupChars_of_one_word hone, String.ofList_nil]
  · rintro rfl
    rcases one_word_or_two method.toList with hone | ⟨c, word, d, rest, hmethod, hword, hd⟩
    · refine .inr ⟨?_, hone⟩
      rw [groupName, groupChars_of_one_word hone, String.ofList_nil]
    · have hgroup : (groupName method).toList = c :: word := by
        rw [groupName, String.toList_ofList, hmethod, groupChars_of_two_words hword hd]
      refine .inl ⟨?_, ⟨d, rest, ?_, hd⟩, ?_⟩
      · intro hempty
        simp [hempty] at hgroup
      · rw [hgroup, hmethod]
        rfl
      · rw [hgroup]
        exact hword

/-! ## §B The names of a group -/

namespace Group

/-- The names of a list that belong to a group, in the order of the list. -/
def members (names : List String) (group : String) : List String :=
  names.filter fun name => groupName name = group

theorem members_concat_own (names : List String) (name : String) :
    members (names ++ [name]) (groupName name) = members names (groupName name) ++ [name] := by
  simp [members]

theorem members_concat_other {name group : String} (h : groupName name ≠ group)
    (names : List String) : members (names ++ [name]) group = members names group := by
  simp [members, h]

theorem gather_concat (names : List String) (name : String) :
    gather (names ++ [name]) = place (gather names) name := by
  simp [gather, place]

theorem ascending_gather (names : List String) : Dictionary.Ascending (gather names) :=
  (gather_fold names [] Dictionary.ascending_nil).1

/-- Under the name of a group stand its members, and nothing where there are none. -/
theorem get?_gather (names : List String) (group : String) :
    Dictionary.get? group (gather names) =
      if members names group = [] then none else some (members names group) := by
  -- the last name of the list is the last one placed
  induction names using List.reverseRecOn with
  | nil => rfl
  | append_singleton names name ih =>
      rw [gather_concat, place, Dictionary.get?_set]
      by_cases hgroup : groupName name = group
      · subst hgroup
        have hbefore : (Dictionary.get? (groupName name) (gather names)).getD [] =
            members names (groupName name) := by
          rw [ih]
          split
          · rename_i hnone
            exact hnone.symm
          · rfl
        rw [hbefore, members_concat_own]
        simp
      · rw [if_neg hgroup, ih, members_concat_other hgroup]

theorem eq_members_of_mem {names : List String} {entry : String × List String}
    (h : entry ∈ gather names) : entry.2 = members names entry.1 ∧ entry.2 ≠ [] := by
  have hget := (Dictionary.get?_eq_some_iff (ascending_gather names).nodup entry.1 entry.2).mpr h
  rw [get?_gather] at hget
  split at hget
  · cases hget
  · rename_i hsome
    have heq := Option.some.inj hget
    exact ⟨heq.symm, heq ▸ hsome⟩

/-! ## §C The methods of a group -/

/-- The methods of some names, in the order in which they are reported. -/
def sortedMethods (index : Comment.Index) (names : List String) : List Method :=
  (names.map (methodOf index)).mergeSort fun a b => decide (a.name ≤ b.name)

section Methods

variable {index : Comment.Index} {names others : List String} {method : Method}

theorem mem_sortedMethods :
    method ∈ sortedMethods index names ↔ method.name ∈ names ∧ method = methodOf index method.name := by
  rw [sortedMethods, List.mem_mergeSort, List.mem_map]
  constructor
  · rintro ⟨name, hname, rfl⟩
    exact ⟨hname, rfl⟩
  · rintro ⟨hname, hmethod⟩
    exact ⟨method.name, hname, hmethod.symm⟩

theorem sortedMethods_ne_nil (h : names ≠ []) : sortedMethods index names ≠ [] := by
  intro hnil
  have hlength := congrArg List.length hnil
  simp [sortedMethods, h] at hlength

theorem pairwise_sortedMethods (index : Comment.Index) (names : List String) :
    (sortedMethods index names).Pairwise fun a b => a.name ≤ b.name :=
  Dictionary.pairwise_mergeSort_key Method.name (names.map (methodOf index))

/-- Methods of one name are equal, so sorting leaves nothing of the order given. -/
theorem sortedMethods_perm (h : names.Perm others) :
    sortedMethods index names = sortedMethods index others := by
  apply Dictionary.mergeSort_key_perm
  · intro a ha b hb hname
    obtain ⟨n, -, rfl⟩ := List.mem_map.mp ha
    obtain ⟨m, -, rfl⟩ := List.mem_map.mp hb
    have hnm : n = m := hname
    rw [hnm]
  · exact h.map (methodOf index)

end Methods

/-! ## §D The groups -/

/-- A group under its name, with the header known for it. -/
def headed (index : Comment.Index) (entry : String × List Method) : Group :=
  ⟨entry.1, index.header entry.1, entry.2⟩

theorem ofNames_eq_map_headed (names : List String) (index : Comment.Index) :
    ofNames names index =
      (Dictionary.mapValues (sortedMethods index) (gather names)).map (headed index) := by
  rw [ofNames, Dictionary.mapValues, List.map_map]
  rfl

theorem mapValues_gather_perm {names others : List String} (index : Comment.Index)
    (h : names.Perm others) :
    Dictionary.mapValues (sortedMethods index) (gather names) =
      Dictionary.mapValues (sortedMethods index) (gather others) := by
  have hascending : ∀ names : List String,
      Dictionary.Ascending (Dictionary.mapValues (sortedMethods index) (gather names)) := by
    intro names
    rw [Dictionary.Ascending, Dictionary.names_mapValues]
    exact ascending_gather names
  refine (hascending names).ext (hascending others) ?_
  intro group
  -- the members of a group may come in another order, which is gone after sorting
  have hmembers : (members names group).Perm (members others group) := h.filter _
  rw [Dictionary.get?_mapValues, Dictionary.get?_mapValues, get?_gather, get?_gather]
  by_cases hnone : members names group = []
  · have hothers : members others group = [] := (hnone ▸ hmembers).nil_eq.symm
    rw [if_pos hnone, if_pos hothers]
  · have hothers : members others group ≠ [] := fun hnil => hnone (hnil ▸ hmembers).eq_nil
    rw [if_neg hnone, if_neg hothers, Option.map_some, Option.map_some,
      sortedMethods_perm hmembers]

/-- **Grouping sorts and loses nothing.** The groups ascend by name and each has methods, which ascend
by name too and belong to the group. Headers and documentation are those of the index. All methods
together are those listed, each as often as it is listed, and lists of the same names give the same
groups. -/
theorem ofNames_grouped (names : List String) (index : Comment.Index) :
    ((ofNames names index).map Group.name).Pairwise (· < ·) ∧
      (∀ group ∈ ofNames names index,
        group.methods ≠ [] ∧ group.header = index.header group.name ∧
          (group.methods.map Method.name).Pairwise (· ≤ ·) ∧
          ∀ method ∈ group.methods, BelongsTo method.name group.name ∧
            method = ⟨method.name, index.commentFor method.name, none, none⟩) ∧
      ((allMethods (ofNames names index)).map Method.name).Perm names ∧
      ∀ others : List String, names.Perm others → ofNames others index = ofNames names index := by
  refine ⟨?_, ?_, ?_, ?_⟩
  · have hnames : (ofNames names index).map Group.name = Dictionary.names (gather names) := by
      rw [ofNames, List.map_map]
      rfl
    rw [hnames]
    exact ascending_gather names
  · intro group hgroup
    rw [ofNames] at hgroup
    obtain ⟨entry, hentry, rfl⟩ := List.mem_map.mp hgroup
    obtain ⟨hmembers, hsome⟩ := eq_members_of_mem hentry
    refine ⟨sortedMethods_ne_nil hsome, rfl, ?_, ?_⟩
    · exact List.pairwise_map.mpr (pairwise_sortedMethods index entry.2)
    · intro method hmethod
      obtain ⟨hname, heq⟩ := mem_sortedMethods.mp hmethod
      refine ⟨(belongsTo_iff _ _).mpr ?_, heq⟩
      rw [hmembers] at hname
      simpa using List.of_mem_filter hname
  · have hall := (allMethods_ofNames_perm names index).map Method.name
    rwa [List.map_map, show Method.name ∘ methodOf index = id from rfl, List.map_id] at hall
  · intro others hperm
    rw [ofNames_eq_map_headed, ofNames_eq_map_headed, mapValues_gather_perm index hperm]

/-- Names with one word and with two, one of them listed twice and one outside ASCII. -/
def sectorNames : List String :=
  ["SectorsStatus", "ÉtatÂge", "Version", "SectorsList", "SectorsList"]

/-- An index that knows a method and a group. -/
def sectorIndex : Comment.Index :=
  ⟨[("Version", "Version is the version.\n")], [("Sectors", "Sector management.\n")]⟩

/-- The name that is listed twice is reported under the header of its group, in either order. -/
theorem ofNames_grouped_sectors :
    ((allMethods (ofNames sectorNames sectorIndex)).map Method.name).count "SectorsList" = 2 ∧
      (∃ group ∈ ofNames sectorNames sectorIndex, ∃ method ∈ group.methods,
        method.name = "SectorsList" ∧ group.name = "Sectors" ∧
          group.header = "Sector management.\n") ∧
      ofNames sectorNames.reverse sectorIndex = ofNames sectorNames sectorIndex := by
  obtain ⟨-, hgroups, hall, hperm⟩ := ofNames_grouped sectorNames sectorIndex
  refine ⟨?_, ?_, hperm sectorNames.reverse (List.reverse_perm sectorNames).symm⟩
  · rw [hall.count_eq]
    decide
  · have hlisted : "SectorsList" ∈ (allMethods (ofNames sectorNames sectorIndex)).map Method.name :=
      hall.mem_iff.mpr (by decide)
    obtain ⟨method, hmethod, hname⟩ := List.mem_map.mp hlisted
    obtain ⟨group, hgroup, hmember⟩ := List.mem_flatMap.mp hmethod
    obtain ⟨-, hheader, -, hmethods⟩ := hgroups group hgroup
    have hown : groupName method.name = group.name :=
      (belongsTo_iff _ _).mp (hmethods method hmember).1
    have hsectors : group.name = "Sectors" := by
      rw [← hown, hname]
      decide
    refine ⟨group, hgroup, method, hmember, hname, hsectors, ?_⟩
    rw [hheader, hsectors]
    decide

end Group

end RollCall
