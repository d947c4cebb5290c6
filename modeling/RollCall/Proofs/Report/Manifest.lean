import RollCall.Proofs.Json.RoundTrip
import RollCall.Proofs.Report

/-!
# RollCall.Proofs.Report.Manifest — the text of a manifest

The text of a manifest is settled by two things: the set of the method names and the list of the
subscriptions. The names ascend in the text, each stands there once, and reading the text gives them
back whatever characters they are made of. So neither the grouping of the methods nor their order
shows.

An object that is read is a dictionary, which puts its members in order by itself. What stands where
in a text is therefore said by `membersInTurn?`, the reader of members without that last step.
-/

namespace RollCall

/-! ## §A Objects as text -/

namespace Json

/-- A member as it is written. -/
def memberText (m : String × Json) : List Char := quoted m.1 ++ ':' :: chars m.2

/-- The members of a text that is one object and nothing else, in the order of the text and with all
repetitions. -/
def membersInTurn? (s : String) : Option (List (String × Json)) :=
  match s.toList with
  | ['{', '}'] => some []
  | '{' :: cs =>
    match readMembers (cs.length + 1) (maxDepth - 1) cs with
    | some (ms, []) => some ms
    | _ => none
  | _ => none

theorem memberText_append_memberChars (m : String × Json) (ms : List (String × Json)) :
    memberText m ++ memberChars ms = [','].intercalate ((m :: ms).map memberText) ++ ['}'] := by
  induction ms generalizing m with
  | nil => simp [memberChars, List.intercalate]
  | cons n ms ih =>
      have htail : memberChars (n :: ms) = ',' :: (memberText n ++ memberChars ms) := by
        simp [memberChars, memberText]
      rw [htail, ih n, List.map_cons, List.map_cons, List.map_cons, List.intercalate_cons_cons]
      simp

/-- An object is written as its members with a comma between two of them, in braces. -/
theorem chars_obj (ms : List (String × Json)) :
    chars (.obj ms) = '{' :: [','].intercalate (ms.map memberText) ++ ['}'] := by
  cases ms with
  | nil => rfl
  | cons m ms =>
      have hfront : chars (.obj (m :: ms)) = '{' :: (memberText m ++ memberChars ms) := by
        simp [chars, memberText]
      rw [hfront, memberText_append_memberChars, List.cons_append]

/-- Written members are read in turn. -/
theorem membersInTurn?_compact {ms : List (String × Json)} (hreads : ∀ m ∈ ms, Reads m.2)
    (hdepth : nesting (.obj ms) ≤ maxDepth) :
    membersInTurn? (compact (.obj ms)) = some (rereadMembers ms) := by
  unfold membersInTurn? compact
  rw [String.toList_ofList]
  rw [nesting] at hdepth
  cases ms with
  | nil => rfl
  | cons m ms =>
      obtain ⟨k, v⟩ := m
      have htext : chars (.obj ((k, v) :: ms)) =
          '{' :: (quoted k ++ ':' :: (chars v ++ (memberChars ms ++ []))) := by
        simp only [chars, List.cons_append, List.append_assoc, List.append_nil]
      have hread := readMembers_written k v ms (hreads (k, v) List.mem_cons_self)
        (fun m hm => hreads m (List.mem_cons_of_mem _ hm))
        ((quoted k ++ ':' :: (chars v ++ (memberChars ms ++ []))).length + 1) (maxDepth - 1) []
        (by simp only [List.length_append, List.length_cons]; omega) (by omega)
      rw [htext]
      -- a member begins with a quote, so this is not the text of the empty object
      rw [quoted_append] at hread ⊢
      show (match readMembers _ _ ('"' :: _) with
        | some (ms, []) => some ms
        | _ => none) = _
      rw [hread]

end Json

/-! ## §B Manifests as text -/

namespace Manifest

/-- What is written behind a name. -/
def entryText (subscribed : Bool) : String :=
  if subscribed then "\x7b\"subscription\":true\x7d" else "\x7b\x7d"

/-- The same groups in another order, each with its methods in another order. -/
def Reordered (groups others : List Group) : Prop :=
  ∃ middle, groups.Perm middle ∧
    List.Forall₂ (fun g h => h.name = g.name ∧ h.header = g.header ∧ g.methods.Perm h.methods)
      middle others

theorem Reordered.allMethods_perm {groups others : List Group} (h : Reordered groups others) :
    (Group.allMethods groups).Perm (Group.allMethods others) := by
  obtain ⟨middle, hperm, hsame⟩ := h
  refine (hperm.flatMap_right Group.methods).trans ?_
  clear hperm
  unfold Group.allMethods
  induction hsame with
  | nil => exact List.Perm.refl _
  | cons hfirst _ ih =>
      rw [List.flatMap_cons, List.flatMap_cons]
      exact hfirst.2.2.append ih

theorem ascending_ofGroups (groups : List Group) (subscriptions : List String) :
    Dictionary.Ascending (ofGroups groups subscriptions) :=
  Dictionary.ascending_ofList _

/-- Every entry is worked out from its name. -/
theorem ofGroups_eq_map (groups : List Group) (subscriptions : List String) :
    ofGroups groups subscriptions =
      (Dictionary.names (ofGroups groups subscriptions)).map
        fun name => (name, subscriptions.contains name) := by
  rw [Dictionary.names, List.map_map]
  refine (List.map_id _).symm.trans (List.map_congr_left ?_)
  rintro ⟨name, subscribed⟩ hentry
  have hname : name ∈ (Group.allMethods groups).map Method.name := by
    rw [← mem_names_ofGroups groups subscriptions]
    exact List.mem_map_of_mem hentry
  have hfound := (Dictionary.get?_eq_some_iff (ascending_ofGroups groups subscriptions).nodup
    name subscribed).mpr hentry
  rw [get?_ofGroups hname, Option.some.injEq] at hfound
  simp [← hfound]

/-- A manifest depends on the set of the method names alone. -/
theorem ofGroups_congr {groups others : List Group}
    (h : ∀ name, name ∈ (Group.allMethods groups).map Method.name ↔
      name ∈ (Group.allMethods others).map Method.name) (subscriptions : List String) :
    ofGroups groups subscriptions = ofGroups others subscriptions := by
  apply (ascending_ofGroups _ _).ext (ascending_ofGroups _ _)
  intro name
  by_cases hname : name ∈ (Group.allMethods groups).map Method.name
  · rw [get?_ofGroups hname, get?_ofGroups ((h name).mp hname)]
  · have hother : name ∉ (Group.allMethods others).map Method.name :=
      fun ho => hname ((h name).mpr ho)
    rw [← mem_names_ofGroups _ subscriptions, ← Dictionary.get?_eq_none_iff] at hname hother
    rw [hname, hother]

theorem chars_entry (subscribed : Bool) :
    Json.chars (entry subscribed) = (entryText subscribed).toList := by
  cases subscribed <;> rfl

theorem legible_entry (subscribed : Bool) : Json.Legible (entry subscribed) := by
  cases subscribed with
  | false => exact .obj Dictionary.ascending_nil nofun
  | true =>
      refine .obj (List.pairwise_singleton _ _) ?_
      intro m hm
      rw [List.mem_singleton.mp hm]
      exact .bool true

theorem reread_entry (subscribed : Bool) : Json.reread (entry subscribed) = entry subscribed := by
  cases subscribed <;> rfl

theorem nesting_entry_le (subscribed : Bool) : Json.nesting (entry subscribed) ≤ 1 := by
  cases subscribed <;> decide

section Rendering

variable (manifest : Manifest)

theorem rereadMembers_entries :
    Json.rereadMembers (Dictionary.mapValues entry manifest) =
      Dictionary.mapValues entry manifest := by
  rw [Json.rereadMembers_eq_mapValues, Dictionary.mapValues, Dictionary.mapValues, List.map_map]
  refine List.map_congr_left ?_
  intro e _
  show (e.1, Json.reread (entry e.2)) = (e.1, entry e.2)
  rw [reread_entry]

theorem nesting_toJson_le : Json.nesting manifest.toJson ≤ 2 := by
  have hmembers : Json.nestingMembers (Dictionary.mapValues entry manifest) ≤ 1 := by
    induction manifest with
    | nil => decide
    | cons e manifest ih =>
        have hfirst := nesting_entry_le e.2
        show max (Json.nesting (entry e.2)) _ ≤ 1
        exact max_le hfirst ih
  rw [toJson, Json.nesting]
  omega

theorem toList_render :
    manifest.render.toList =
      '{' :: [','].intercalate (manifest.map fun e =>
        Json.quoted e.1 ++ ':' :: (entryText e.2).toList) ++ ['}'] := by
  rw [render, Json.compact, String.toList_ofList, toJson, Json.chars_obj, Dictionary.mapValues,
    List.map_map]
  congr 4
  funext e
  show Json.memberText (e.1, entry e.2) = _
  rw [Json.memberText, chars_entry]

theorem membersInTurn?_render :
    Json.membersInTurn? manifest.render = some (Dictionary.mapValues entry manifest) := by
  rw [render, toJson, Json.membersInTurn?_compact, rereadMembers_entries]
  · intro m hm
    obtain ⟨e, -, rfl⟩ := List.mem_map.mp hm
    exact (legible_entry e.2).reads
  · exact (nesting_toJson_le manifest).trans (by decide)

theorem read?_render (h : Dictionary.Ascending manifest) :
    Json.read? manifest.render = some manifest.toJson := by
  have hlegible : Json.Legible manifest.toJson := by
    refine .obj ?_ ?_
    · unfold Dictionary.Ascending
      rw [Dictionary.names_mapValues]
      exact h
    · intro m hm
      obtain ⟨e, -, rfl⟩ := List.mem_map.mp hm
      exact legible_entry e.2
  rw [Json.read?_eq_readNested?, render,
    Json.readNested?_compact hlegible ((nesting_toJson_le manifest).trans (by decide)), toJson,
    Json.reread, rereadMembers_entries]

end Rendering

/-- **One text for a set of methods.** The text of the manifest of any groups is an object without a
blank or a newline around its tokens. Its names ascend strictly, and are those of the methods of all
groups; behind a name stands whether it is among the subscriptions. The members read back are these,
in the order of the text. Another order of the groups or of the methods inside them gives the same
text. -/
theorem render_canonical (groups : List Group) (subscriptions : List String) :
    ∃ names : List String,
      names.Pairwise (· < ·) ∧
      (∀ name, name ∈ names ↔ ∃ g ∈ groups, ∃ m ∈ g.methods, m.name = name) ∧
      (ofGroups groups subscriptions).render.toList =
        '{' :: [','].intercalate (names.map fun name =>
          Json.quoted name ++ ':' :: (if name ∈ subscriptions then "\x7b\"subscription\":true\x7d"
            else "\x7b\x7d").toList) ++ ['}'] ∧
      Json.membersInTurn? (ofGroups groups subscriptions).render =
        some (names.map fun name =>
          (name, if name ∈ subscriptions then .obj [("subscription", .bool true)] else .obj [])) ∧
      Json.read? (ofGroups groups subscriptions).render =
        some (.obj (names.map fun name =>
          (name, if name ∈ subscriptions then .obj [("subscription", .bool true)] else .obj []))) ∧
      ∀ others, Reordered groups others →
        (ofGroups others subscriptions).render = (ofGroups groups subscriptions).render := by
  have hmembers : Dictionary.mapValues entry (ofGroups groups subscriptions) =
      (Dictionary.names (ofGroups groups subscriptions)).map fun name =>
        (name, if name ∈ subscriptions then .obj [("subscription", .bool true)] else .obj []) := by
    conv_lhs => rw [ofGroups_eq_map]
    rw [Dictionary.mapValues, List.map_map]
    refine List.map_congr_left ?_
    intro name _
    simp [entry]
  refine ⟨Dictionary.names (ofGroups groups subscriptions), ascending_ofGroups groups subscriptions,
    ?_, ?_, ?_, ?_, ?_⟩
  · intro name
    rw [mem_names_ofGroups, Group.allMethods, List.map_flatMap, List.mem_flatMap]
    simp only [List.mem_map]
  · rw [toList_render]
    conv_lhs => rw [ofGroups_eq_map]
    rw [List.map_map]
    congr 4
    funext name
    simp [entryText]
  · rw [membersInTurn?_render, hmembers]
  · rw [read?_render _ (ascending_ofGroups groups subscriptions), toJson, hmembers]
  · intro others hothers
    rw [ofGroups_congr]
    intro name
    exact (hothers.allMethods_perm.map Method.name).mem_iff.symm

/-- Two groups that share a method, whose names hold a quote, a backslash, a newline and a letter
beyond ASCII. -/
def unrulyGroups : List Group :=
  [⟨"Chain", "", [⟨"Chain\"\\", "", none, none⟩, ⟨"Änd\n", "", none, none⟩]⟩,
   ⟨"", "", [⟨"Änd\n", "again", none, none⟩]⟩]

/-- The text of their manifest, and of the manifest of the same groups the other way round. -/
theorem render_canonical_unruly :
    (ofGroups unrulyGroups ["Änd\n"]).render =
        "\x7b\"Chain\\\"\\\\\":\x7b\x7d,\"Änd\\n\":\x7b\"subscription\":true\x7d\x7d" ∧
      Json.membersInTurn? (ofGroups unrulyGroups ["Änd\n"]).render =
        some [("Chain\"\\", .obj []), ("Änd\n", .obj [("subscription", .bool true)])] ∧
      Reordered unrulyGroups unrulyGroups.reverse ∧
      (ofGroups unrulyGroups.reverse ["Änd\n"]).render =
        (ofGroups unrulyGroups ["Änd\n"]).render := by
  have hreordered : Reordered unrulyGroups unrulyGroups.reverse :=
    ⟨unrulyGroups.reverse, (List.reverse_perm _).symm,
      List.forall₂_same.mpr fun g _ => ⟨rfl, rfl, List.Perm.refl _⟩⟩
  obtain ⟨-, -, -, -, -, -, hsame⟩ := render_canonical unrulyGroups ["Änd\n"]
  refine ⟨by decide +kernel, ?_, hreordered, hsame _ hreordered⟩
  exact (membersInTurn?_render _).trans (by rfl)

end Manifest

end RollCall
