import Mathlib.Data.List.Nodup
import RollCall.Proofs.Comment.Index
import RollCall.Proofs.Text

/-!
# RollCall.Proofs.Comment.LastEntry — which entry of a list an index speaks for

Entries are taken up in the order of their names, and of two that speak of the same thing the later
one stays. So a method has the documentation of its last entry in the list, and a group the header of
the last entry by name that declares it. Both are cases of one statement, `byName_split`: of the
entries with some property, the last one by name is also the last one after sorting, because sorting
keeps the order of entries of one name.

Where every entry has a name of its own there is one sorted order only, so the index does not show the
order of the list.
-/

namespace RollCall.Comment

/-! ## §A Markers -/

/-- **`Heads text group header`** — the text starts with the marker, the rest of its first line is the
name of the group with blanks around it, and the header is all that follows that line. -/
def Heads (text group header : String) : Prop :=
  ∃ line, '\n' ∉ line ∧ group.toList = Text.trim line ∧
    (text.toList = marker.toList ++ line ∧ header = "" ∨
      text.toList = marker.toList ++ line ++ '\n' :: header.toList)

/-- **`Declares texts group header`** — of the texts that start with the marker, the first one heads
the group. -/
def Declares (texts : List String) (group header : String) : Prop :=
  ∃ before text after, texts = before ++ text :: after ∧
    (∀ t ∈ before, ¬marker.toList <+: t.toList) ∧ Heads text group header

theorem markerOf?_eq_none_iff (text : String) :
    markerOf? text = none ↔ ¬marker.toList <+: text.toList := by
  rw [markerOf?, Option.map_eq_none_iff, Text.afterLead?_eq_none_iff]

theorem markerOf?_append (text : String) {line : List Char} {header : List (List Char)}
    {rest : List Char} (htext : text.toList = marker.toList ++ rest)
    (hlines : Text.lines rest = line :: header) :
    markerOf? text =
      some (String.ofList (Text.trim line), String.ofList (Text.unlines header)) := by
  rw [markerOf?, Text.afterLead?_eq_some_iff.mpr htext, Option.map_some, hlines]

theorem markerOf?_eq_some_iff (text group header : String) :
    markerOf? text = some (group, header) ↔ Heads text group header := by
  constructor
  · intro h
    obtain ⟨rest, hrest, -⟩ := Option.map_eq_some_iff.mp h
    have htext := Text.afterLead?_eq_some_iff.mp hrest
    cases hlines : Text.lines rest with
    | nil => exact absurd hlines (Text.lines_ne_nil rest)
    | cons line others =>
        rw [markerOf?_append text htext hlines] at h
        obtain ⟨rfl, rfl⟩ := Prod.mk.inj (Option.some.inj h)
        obtain ⟨-, hnewline, rfl⟩ := Text.lines_eq_iff.mp hlines
        refine ⟨line, hnewline line List.mem_cons_self, String.toList_ofList, ?_⟩
        cases others with
        | nil => exact .inl ⟨by simpa [Text.unlines] using htext, rfl⟩
        | cons next others =>
            right
            rw [Text.unlines_cons (List.cons_ne_nil _ _), ← List.append_assoc] at htext
            rw [htext, String.toList_ofList]
  · rintro ⟨line, hline, hgroup, ⟨htext, rfl⟩ | htext⟩
    · rw [markerOf?_append text htext (Text.lines_of_notMem hline), ← hgroup, String.ofList_toList]
      rfl
    · rw [List.append_assoc] at htext
      rw [markerOf?_append text htext (Text.lines_append_cons hline _), ← hgroup,
        String.ofList_toList, Text.unlines_lines, String.ofList_toList]

/-- The group that an entry declares, and its header. -/
def heading? (e : Annotated) : Option (String × String) := e.2.findSome? markerOf?

theorem heading?_eq_some_iff (e : Annotated) (group header : String) :
    heading? e = some (group, header) ↔ Declares e.2 group header := by
  simp only [heading?, List.findSome?_eq_some_iff, markerOf?_eq_some_iff, markerOf?_eq_none_iff,
    Declares]
  constructor
  · rintro ⟨before, text, after, htexts, hheads, hbefore⟩
    exact ⟨before, text, after, htexts, hbefore, hheads⟩
  · rintro ⟨before, text, after, htexts, hbefore, hheads⟩
    exact ⟨before, text, after, htexts, hheads, hbefore⟩

namespace Index

/-! ## §B The last entry by name -/

/-- **`LastByName p entries e`** — of the entries with the property `p`, the entry `e` has the last
name, and of those with its name it stands last. -/
def LastByName (p : Annotated → Prop) (entries : List Annotated) (e : Annotated) : Prop :=
  ∃ front back, entries = front ++ e :: back ∧ p e ∧
    (∀ f ∈ front, p f → f.1 ≤ e.1) ∧ ∀ f ∈ back, p f → f.1 < e.1

section Last

variable {p : Annotated → Prop} {entries : List Annotated} {e : Annotated}

theorem LastByName.mem (h : LastByName p entries e) : e ∈ entries := by
  obtain ⟨front, back, rfl, -⟩ := h
  simp

theorem LastByName.holds (h : LastByName p entries e) : p e := by
  obtain ⟨front, back, -, hp, -⟩ := h
  exact hp

theorem LastByName.le (h : LastByName p entries e) {f : Annotated} (hf : f ∈ entries) (hp : p f) :
    f.1 ≤ e.1 := by
  obtain ⟨front, back, rfl, -, hfront, hback⟩ := h
  rcases List.mem_append.mp hf with hf | hf
  · exact hfront f hf hp
  · rcases List.mem_cons.mp hf with rfl | hf
    · exact le_refl _
    · exact le_of_lt (hback f hf hp)

theorem exists_lastByName (h : ∃ e ∈ entries, p e) : ∃ e, LastByName p entries e := by
  induction entries with
  | nil => simp at h
  | cons a entries ih =>
      by_cases hrest : ∃ e ∈ entries, p e
      · obtain ⟨e, hlast⟩ := ih hrest
        -- an entry in front takes the place of `e` by a later name only, not by the same one
        by_cases ha : p a ∧ e.1 < a.1
        · refine ⟨a, [], entries, rfl, ha.1, by simp, ?_⟩
          intro f hf hp
          exact lt_of_le_of_lt (hlast.le hf hp) ha.2
        · obtain ⟨front, back, rfl, he, hfront, hback⟩ := hlast
          refine ⟨e, a :: front, back, rfl, he, ?_, hback⟩
          intro f hf hp
          rcases List.mem_cons.mp hf with rfl | hf
          · exact not_lt.mp fun hlt => ha ⟨hp, hlt⟩
          · exact hfront f hf hp
      · have ha : p a := ((List.exists_mem_cons_iff _ _ _).mp h).resolve_right hrest
        exact ⟨a, [], entries, rfl, ha, by simp, fun f hf hp => absurd ⟨f, hf, hp⟩ hrest⟩

/-- A list with an entry of the property has a last one. -/
theorem exists_split_last (h : ∃ e ∈ entries, p e) :
    ∃ front e back, entries = front ++ e :: back ∧ p e ∧ ∀ f ∈ back, ¬p f := by
  induction entries with
  | nil => simp at h
  | cons a entries ih =>
      by_cases hrest : ∃ e ∈ entries, p e
      · obtain ⟨front, e, back, rfl, he, hback⟩ := ih hrest
        exact ⟨a :: front, e, back, rfl, he, hback⟩
      · have ha : p a := ((List.exists_mem_cons_iff _ _ _).mp h).resolve_right hrest
        exact ⟨[], a, entries, rfl, ha, fun f hf hp => hrest ⟨f, hf, hp⟩⟩

theorem getLast?_filter_split {front back : List Annotated} {q : Annotated → Bool}
    (hq : q e = true) (hback : ∀ f ∈ back, q f = false) :
    ((front ++ e :: back).filter q).getLast? = some e := by
  have hnone : back.filter q = [] := by simpa using hback
  rw [List.filter_append, List.filter_cons_of_pos hq, hnone]
  simp

/-- Of the entries of its own name with the property, the last one by name is the last. -/
theorem LastByName.getLast?_filter [DecidablePred p] (h : LastByName p entries e) :
    (entries.filter fun f => decide (p f) && decide (f.1 = e.1)).getLast? = some e := by
  obtain ⟨front, back, rfl, hp, -, hback⟩ := h
  apply getLast?_filter_split
  · simp [hp]
  · intro f hf
    simp only [Bool.and_eq_false_iff, decide_eq_false_iff_not]
    by_cases hpf : p f
    · exact .inr (ne_of_lt (hback f hf hpf))
    · exact .inl hpf

theorem pairwise_byName (entries : List Annotated) :
    (byName entries).Pairwise fun a b => a.1 ≤ b.1 :=
  Dictionary.pairwise_mergeSort_key Prod.fst entries

theorem filter_byName [DecidablePred p] (entries : List Annotated) (name : String) :
    (byName entries).filter (fun f => decide (p f) && decide (f.1 = name)) =
      entries.filter fun f => decide (p f) && decide (f.1 = name) := by
  rw [← List.filter_filter, ← List.filter_filter]
  exact congrArg _ (Dictionary.filter_mergeSort_key Prod.fst entries name)

/-- The last entry with the property after sorting has the last name of all with the property. -/
theorem LastByName.name_eq (h : LastByName p entries e) {front back : List Annotated}
    {last : Annotated} (hsplit : byName entries = front ++ last :: back) (hlast : p last)
    (hback : ∀ f ∈ back, ¬p f) : last.1 = e.1 := by
  apply le_antisymm
  · apply h.le _ hlast
    rw [← (byName_perm entries).mem_iff, hsplit]
    simp
  · have hmem : e ∈ front ++ last :: back := by
      rw [← hsplit, (byName_perm entries).mem_iff]
      exact h.mem
    have hsorted := pairwise_byName entries
    rw [hsplit, List.pairwise_append] at hsorted
    rcases List.mem_append.mp hmem with hfront | hrest
    · exact hsorted.2.2 e hfront last List.mem_cons_self
    · rcases List.mem_cons.mp hrest with rfl | hrest
      · exact le_refl _
      · exact absurd h.holds (hback e hrest)

/-- **The last entry by name comes last.** Behind it in the sorted list no entry has the property. -/
theorem byName_split (h : LastByName p entries e) :
    ∃ front back, byName entries = front ++ e :: back ∧ ∀ f ∈ back, ¬p f := by
  classical
  have hmem : e ∈ byName entries := (byName_perm entries).mem_iff.mpr h.mem
  obtain ⟨front, last, back, hsplit, hp, hback⟩ := exists_split_last ⟨e, hmem, h.holds⟩
  have hname : last.1 = e.1 := h.name_eq hsplit hp hback
  -- among the entries of one name sorting changes nothing, so it is `e` itself
  have hlast : ((byName entries).filter fun f => decide (p f) && decide (f.1 = e.1)).getLast? =
      some last := by
    rw [hsplit]
    apply getLast?_filter_split
    · simp [hp, hname]
    · intro f hf
      simp [hback f hf]
  rw [filter_byName, h.getLast?_filter] at hlast
  obtain rfl := Option.some.inj hlast
  exact ⟨front, back, hsplit, hback⟩

end Last

/-! ## §C What the index holds -/

theorem foldl_add_groups (entries : List Annotated) (index : Index) :
    (entries.foldl add index).groups =
      Dictionary.setAll index.groups (entries.filterMap heading?) := by
  induction entries generalizing index with
  | nil => rfl
  | cons entry entries ih =>
      rw [List.foldl_cons, ih, List.filterMap_cons]
      unfold add heading?
      cases entry.2.findSome? markerOf? with
      | none => rfl
      | some heading => rfl

theorem ofMethods_groups (entries : List Annotated) :
    (ofMethods entries).groups =
      Dictionary.ofList ((byName entries).filterMap heading?) :=
  foldl_add_groups (byName entries) empty

section Held

variable {entries : List Annotated} {e : Annotated}

theorem commentFor_of_last {front back : List Annotated} (h : e.1 ∉ Dictionary.names back) :
    (ofMethods (front ++ e :: back)).commentFor e.1 = own e.2 := by
  have habsent : ∀ f ∈ back, f.1 ≠ e.1 := fun f hf hname => h (List.mem_map.mpr ⟨f, hf, hname⟩)
  have hlast : LastByName (fun f => f.1 = e.1) (front ++ e :: back) e :=
    ⟨front, back, rfl, rfl, fun f _ hf => le_of_eq hf, fun f hf hname => absurd hname (habsent f hf)⟩
  obtain ⟨before, after, hsplit, hafter⟩ := byName_split hlast
  have hnames : e.1 ∉ Dictionary.names (after.map fun f => (f.1, own f.2)) := by
    rw [Dictionary.names, List.map_map]
    intro hmem
    obtain ⟨f, hf, hname⟩ := List.mem_map.mp hmem
    exact hafter f hf hname
  rw [commentFor, ofMethods_methods, hsplit, List.map_append, List.map_cons,
    Dictionary.get?_ofList_append_cons hnames, Option.getD_some]

theorem commentFor_of_notMem {m : String} (h : m ∉ Dictionary.names entries) :
    (ofMethods entries).commentFor m = placeholder := by
  have hnone : Dictionary.get? m (ofMethods entries).methods = none := by
    rw [Dictionary.get?_eq_none_iff, ofMethods_methods, Dictionary.mem_names_ofList,
      Dictionary.names, List.map_map]
    intro hmem
    exact h (((byName_perm entries).map Prod.fst).mem_iff.mp hmem)
  rw [commentFor, hnone, Option.getD_none]

/-- What some entry declares, the sorted entries declare. -/
theorem mem_filterMap_byName (group header : String) :
    (group, header) ∈ (byName entries).filterMap heading? ↔
      ∃ e ∈ entries, Declares e.2 group header := by
  simp only [List.mem_filterMap, heading?_eq_some_iff, (byName_perm entries).mem_iff]

theorem mem_names_groups (group : String) :
    group ∈ Dictionary.names (ofMethods entries).groups ↔
      ∃ e ∈ entries, ∃ header, Declares e.2 group header := by
  rw [ofMethods_groups, Dictionary.mem_names_ofList, Dictionary.names, List.mem_map]
  constructor
  · rintro ⟨⟨name, header⟩, hmem, rfl⟩
    obtain ⟨e, he, hdeclares⟩ := (mem_filterMap_byName name header).mp hmem
    exact ⟨e, he, header, hdeclares⟩
  · rintro ⟨e, he, header, hdeclares⟩
    exact ⟨(group, header), (mem_filterMap_byName group header).mpr ⟨e, he, hdeclares⟩, rfl⟩

theorem header_of_lastByName {group header : String}
    (h : LastByName (fun f => ∃ text, Declares f.2 group text) entries e)
    (hdeclares : Declares e.2 group header) : (ofMethods entries).header group = header := by
  obtain ⟨front, back, hsplit, hback⟩ := byName_split h
  have hown := (heading?_eq_some_iff _ _ _).mpr hdeclares
  have hnames : group ∉ Dictionary.names (back.filterMap heading?) := by
    intro hmem
    obtain ⟨⟨name, text⟩, hentry, rfl⟩ := List.mem_map.mp hmem
    obtain ⟨f, hf, hfound⟩ := List.mem_filterMap.mp hentry
    exact hback f hf ⟨text, (heading?_eq_some_iff _ _ _).mp hfound⟩
  rw [Index.header, ofMethods_groups, hsplit, List.filterMap_append,
    List.filterMap_cons_some hown, Dictionary.get?_ofList_append_cons hnames, Option.getD_some]

theorem header_of_undeclared {group : String}
    (h : ¬∃ e ∈ entries, ∃ header, Declares e.2 group header) :
    (ofMethods entries).header group = "" := by
  rw [← mem_names_groups, ← Dictionary.get?_eq_none_iff] at h
  rw [Index.header, h, Option.getD_none]

end Held

theorem byName_eq_of_perm {entries others : List Annotated}
    (h : (Dictionary.names entries).Nodup) (hperm : entries.Perm others) :
    byName entries = byName others := by
  apply Dictionary.mergeSort_key_perm Prod.fst entries _ hperm
  intro a ha b hb hname
  exact List.inj_on_of_nodup_map h ha hb hname

/-- **The index speaks for the last entries.** A method has the documentation of its last entry, or
the placeholder if it has none. A group has the header that the first marker of its last entry by name
gives it, where the entries that count are those whose first marker names the group; without such an
entry the header is empty and the group is no key. Where every entry has a name of its own, the index
is the same for every order of the entries. -/
theorem ofMethods_lastEntries (entries : List Annotated) :
    (∀ m,
      (∃ front texts back, entries = front ++ (m, texts) :: back ∧ m ∉ Dictionary.names back ∧
        (ofMethods entries).commentFor m = own texts) ∨
      m ∉ Dictionary.names entries ∧ (ofMethods entries).commentFor m = placeholder) ∧
    (∀ group,
      (∃ e header, LastByName (fun f => ∃ text, Declares f.2 group text) entries e ∧
        Declares e.2 group header ∧ (ofMethods entries).header group = header) ∨
      (¬∃ e ∈ entries, ∃ header, Declares e.2 group header) ∧
        (ofMethods entries).header group = "") ∧
    (∀ group, group ∈ Dictionary.names (ofMethods entries).groups ↔
      ∃ e ∈ entries, ∃ header, Declares e.2 group header) ∧
    ((Dictionary.names entries).Nodup → ∀ others : List Annotated, entries.Perm others →
      ofMethods others = ofMethods entries) := by
  refine ⟨?_, ?_, mem_names_groups, ?_⟩
  · intro m
    by_cases hm : m ∈ Dictionary.names entries
    · left
      obtain ⟨entry, hentry, hname⟩ := List.mem_map.mp hm
      obtain ⟨front, ⟨name, texts⟩, back, rfl, rfl, hback⟩ :=
        exists_split_last (p := fun f => f.1 = m) ⟨entry, hentry, hname⟩
      have habsent : name ∉ Dictionary.names back := by
        intro hmem
        obtain ⟨f, hf, hfname⟩ := List.mem_map.mp hmem
        exact hback f hf hfname
      exact ⟨front, texts, back, rfl, habsent, commentFor_of_last habsent⟩
    · exact .inr ⟨hm, commentFor_of_notMem hm⟩
  · intro group
    by_cases hgroup : ∃ e ∈ entries, ∃ header, Declares e.2 group header
    · left
      obtain ⟨e, hlast⟩ := exists_lastByName hgroup
      obtain ⟨header, hdeclares⟩ := hlast.holds
      exact ⟨e, header, hlast, hdeclares, header_of_lastByName hlast hdeclares⟩
    · exact .inr ⟨hgroup, header_of_undeclared hgroup⟩
  · intro hnodup others hperm
    rw [ofMethods, ofMethods, byName_eq_of_perm hnodup hperm]

/-- Two methods that give one group a header, the second one with documentation besides. -/
def sectorEntries : List Annotated :=
  [("SectorB", ["MethodGroup: Sector\nfrom B\n"]),
   ("SectorA", ["MethodGroup:  Sector \nfrom A\n", "SectorA is A.\n"])]

/-- The later name gives the header, whichever comes first in the list. -/
theorem ofMethods_lastEntries_sector :
    (ofMethods sectorEntries).header "Sector" = "from B\n" ∧
      (Dictionary.names sectorEntries).Nodup ∧
      ofMethods sectorEntries.reverse = ofMethods sectorEntries := by
  obtain ⟨-, hheaders, -, horder⟩ := ofMethods_lastEntries sectorEntries
  have hnames : (Dictionary.names sectorEntries).Nodup := by decide
  refine ⟨?_, hnames, horder hnames _ (List.reverse_perm sectorEntries).symm⟩
  have hb : Declares ["MethodGroup: Sector\nfrom B\n"] "Sector" "from B\n" :=
    (heading?_eq_some_iff ("SectorB", _) _ _).mp (by decide)
  rcases hheaders "Sector" with ⟨e, header, hlast, hdeclares, hheader⟩ | ⟨hnone, -⟩
  · have hle := hlast.le (f := ("SectorB", ["MethodGroup: Sector\nfrom B\n"])) (by decide) ⟨_, hb⟩
    rcases List.mem_cons.mp hlast.mem with rfl | hmem
    · have hsame := ((heading?_eq_some_iff _ _ _).mpr hb).symm.trans
        ((heading?_eq_some_iff ("SectorB", _) _ _).mpr hdeclares)
      rw [hheader]
      exact (Prod.mk.inj (Option.some.inj hsame)).2.symm
    · obtain rfl := List.mem_singleton.mp hmem
      exact absurd hle (by decide)
  · exact absurd ⟨_, List.mem_cons_self, _, hb⟩ hnone

end Index

end RollCall.Comment
