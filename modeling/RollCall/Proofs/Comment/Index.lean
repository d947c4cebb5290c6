import RollCall.Comment.Index
import RollCall.Proofs.Dictionary

/-!
# RollCall.Proofs.Comment.Index — what an index of comments says about a method

The comments of methods are taken up in the order of the names, each under its method. What is found
for a method is the documentation of its last entry in that order.
-/

namespace RollCall.Comment.Index

theorem byName_perm (entries : List Annotated) : (byName entries).Perm entries :=
  List.mergeSort_perm _ _

theorem foldl_add_methods (entries : List Annotated) (index : Index) :
    (entries.foldl add index).methods =
      Dictionary.setAll index.methods (entries.map fun e => (e.1, own e.2)) := by
  induction entries generalizing index with
  | nil => rfl
  | cons entry entries ih =>
      rw [List.foldl_cons, ih]
      rfl

theorem ofMethods_methods (entries : List Annotated) :
    (ofMethods entries).methods =
      Dictionary.ofList ((byName entries).map fun e => (e.1, own e.2)) :=
  foldl_add_methods (byName entries) empty

/-- Entries of different names are looked up one by one. -/
theorem commentFor_ofMethods {entries : List Annotated} (h : (Dictionary.names entries).Nodup)
    (m : String) :
    (ofMethods entries).commentFor m = ((Dictionary.get? m entries).map own).getD placeholder := by
  have hsorted : (Dictionary.names ((byName entries).map fun e => (e.1, own e.2))).Nodup := by
    have hnames : Dictionary.names ((byName entries).map fun e => (e.1, own e.2)) =
        Dictionary.names (byName entries) := by
      rw [Dictionary.names, List.map_map]
      rfl
    rw [hnames]
    exact ((byName_perm entries).map Prod.fst).nodup_iff.mpr h
  have hperm : ((byName entries).map fun e => (e.1, own e.2)).Perm
      (Dictionary.mapValues own entries) := (byName_perm entries).map _
  rw [commentFor, ofMethods_methods, Dictionary.get?_ofList, Dictionary.get?_reverse hsorted,
    Dictionary.get?_eq_of_perm hsorted hperm, Dictionary.get?_mapValues]

end RollCall.Comment.Index
