import RollCall.Proofs.Dictionary
import RollCall.Report.Manifest

/-!
# RollCall.Proofs.Report — groups and manifest hold the methods they are made from

Sorting method names into groups neither loses nor repeats one, and the methods of all groups are the
methods of the names, each with its own documentation. The manifest of groups has exactly their
methods as its names.
-/

namespace RollCall

/-! ## §A Groups -/

namespace Group

/-- Puts a name behind the others of its group. -/
def place (groups : Dictionary (List String)) (name : String) : Dictionary (List String) :=
  Dictionary.set (groupName name)
    ((Dictionary.get? (groupName name) groups).getD [] ++ [name]) groups

/-- Adding a name to one of the lists adds it to all of them together. -/
theorem flatMap_set_perm {groups : Dictionary (List String)} (h : Dictionary.Ascending groups)
    (group name : String) :
    ((Dictionary.set group ((Dictionary.get? group groups).getD [] ++ [name]) groups).flatMap
      Prod.snd).Perm (name :: groups.flatMap Prod.snd) := by
  induction groups with
  | nil => exact List.Perm.refl _
  | cons entry groups ih =>
      obtain ⟨k, members⟩ := entry
      obtain ⟨hk, hrest⟩ := (Dictionary.ascending_cons _ _).mp h
      rw [Dictionary.get?_cons, Dictionary.set]
      by_cases hlt : group < k
      · have hnone : Dictionary.get? group groups = none := by
          rw [Dictionary.get?_eq_none_iff]
          exact fun hmem => lt_asymm hlt (hk group hmem)
        rw [if_pos hlt, if_neg (ne_of_gt hlt), hnone]
        exact List.Perm.refl _
      · rw [if_neg hlt]
        by_cases heq : k = group
        · rw [if_pos heq, if_pos heq]
          simp only [List.flatMap_cons, Option.getD_some, List.append_assoc]
          exact List.perm_middle
        · rw [if_neg heq, if_neg heq]
          simp only [List.flatMap_cons]
          exact ((ih hrest).append_left members).trans List.perm_middle

theorem gather_fold (names : List String) :
    ∀ groups : Dictionary (List String), Dictionary.Ascending groups →
      Dictionary.Ascending (names.foldl place groups) ∧
        ((names.foldl place groups).flatMap Prod.snd).Perm
          (groups.flatMap Prod.snd ++ names) := by
  induction names with
  | nil =>
      intro groups h
      rw [List.append_nil]
      exact ⟨h, List.Perm.refl _⟩
  | cons name names ih =>
      intro groups h
      obtain ⟨hascending, hperm⟩ := ih (place groups name) (h.set _ _)
      refine ⟨hascending, hperm.trans ?_⟩
      have hplace := flatMap_set_perm h (groupName name) name
      exact (hplace.append_right names).trans List.perm_middle.symm

theorem gather_perm (names : List String) : ((gather names).flatMap Prod.snd).Perm names :=
  (gather_fold names [] Dictionary.ascending_nil).2

/-- The methods of all groups are the methods of the names they are made from. -/
theorem allMethods_ofNames_perm (names : List String) (index : Comment.Index) :
    (allMethods (ofNames names index)).Perm (names.map (methodOf index)) := by
  have hsorted : (allMethods (ofNames names index)).Perm
      ((gather names).flatMap fun e => e.2.map (methodOf index)) := by
    rw [allMethods, ofNames, List.flatMap_map]
    exact List.Perm.flatMap_left _ fun e _ => List.mergeSort_perm _ _
  rw [← List.map_flatMap] at hsorted
  exact hsorted.trans ((gather_perm names).map (methodOf index))

end Group

/-! ## §B Manifest -/

namespace Manifest

theorem mem_names_ofGroups (groups : List Group) (subscriptions : List String) (m : String) :
    m ∈ Dictionary.names (ofGroups groups subscriptions) ↔
      m ∈ (Group.allMethods groups).map Method.name := by
  rw [ofGroups, Dictionary.mem_names_ofList, Dictionary.names, List.map_map]
  rfl

theorem get?_ofGroups {groups : List Group} {m : String}
    (h : m ∈ (Group.allMethods groups).map Method.name) (subscriptions : List String) :
    Dictionary.get? m (ofGroups groups subscriptions) = some (subscriptions.contains m) := by
  refine Dictionary.get?_ofList_of_forall ?_ ?_
  · intro entry hentry
    obtain ⟨method, -, rfl⟩ := List.mem_map.mp hentry
    rfl
  · rw [Dictionary.names, List.map_map]
    exact h

end Manifest

end RollCall
