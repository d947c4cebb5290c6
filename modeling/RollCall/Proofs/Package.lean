import RollCall.Package
import RollCall.Proofs.Dictionary

/-!
# RollCall.Proofs.Package — the two lookups of a name

A package declares names in the order of its files. Looking up a name in the index gives the last
declaration of that name, whatever it is. Walking gives the first one that is written as an interface
and is no alias. Both are stated here on the one list of declarations of the package, so that what
keeps them apart can be read off: an alias, or a name that is declared more than once.
-/

namespace RollCall

open RollCall.Source

namespace Package

/-- The declared names of all files, in order. -/
def specs (p : Package) : List Spec := p.files.flatMap fun f => f.file.specs

/-- The elements of the first declaration of a name that is an interface and no alias. -/
def firstInterface? (name : String) (specs : List Spec) : Option (List Element) :=
  specs.findSome? fun s => if s.aliased || s.name != name then none else s.elements

/-- The elements of the last declaration of a name, if it is an interface. -/
def lastInterface? (name : String) (specs : List Spec) : Option (List Element) :=
  (specs.reverse.find? fun s => s.name == name).bind Spec.elements

/-! ## §A Walking -/

theorem walkSpecs_fst (name path : String) (specs : List Spec) :
    (walkSpecs name path specs).1 =
      (firstInterface? name specs).map (WalkedInterface.ofElements name path) := by
  induction specs with
  | nil => rfl
  | cons s specs ih =>
      rw [walkSpecs, firstInterface?, List.findSome?_cons]
      by_cases hskip : (s.aliased || s.name != name) = true
      · rw [if_pos hskip, if_pos hskip]
        exact ih
      · rw [if_neg hskip, if_neg hskip]
        cases s.elements with
        | none => exact ih
        | some elements => rfl

theorem walkFiles_fst (name : String) (files : List PackageFile) :
    ∃ path, (walkFiles name files).1 =
      (firstInterface? name (files.flatMap fun f => f.file.specs)).map
        (WalkedInterface.ofElements name path) := by
  induction files with
  | nil => exact ⟨"", rfl⟩
  | cons f files ih =>
      have hfile := walkSpecs_fst name f.path f.file.specs
      rw [walkFiles, List.flatMap_cons, firstInterface?, List.findSome?_append,
        ← firstInterface?, ← firstInterface?]
      cases hwalk : walkSpecs name f.path f.file.specs with
      | mk found warnings =>
          rw [hwalk] at hfile
          cases hfirst : firstInterface? name f.file.specs with
          | none =>
              rw [hfirst] at hfile
              cases hfile
              exact ih
          | some elements =>
              rw [hfirst] at hfile
              cases hfile
              exact ⟨f.path, rfl⟩

/-- Walking a name gives its first interface declaration, aliases apart. -/
theorem walk_fst (p : Package) (name : String) :
    ∃ path, (p.walk name).1 =
      (firstInterface? name p.specs).map (WalkedInterface.ofElements name path) :=
  walkFiles_fst name p.files

/-- The methods of an interface with the given elements have the names of its shape. -/
theorem mem_names_ofElements (name path : String) (elements : List Element) (m : String) :
    m ∈ Dictionary.names (WalkedInterface.ofElements name path elements).methods ↔
      m ∈ (shapeOf elements).methods := by
  rw [WalkedInterface.ofElements, Dictionary.mem_names_ofList, Dictionary.names, List.map_filterMap,
    shapeOf, List.mem_filterMap, List.mem_filterMap]
  refine exists_congr fun e => and_congr_right fun _ => ?_
  cases e.kind <;> simp

theorem ascending_walk {p : Package} {name : String} {walked : WalkedInterface}
    (h : (p.walk name).1 = some walked) : Dictionary.Ascending walked.methods := by
  obtain ⟨path, hwalk⟩ := p.walk_fst name
  rw [h] at hwalk
  obtain ⟨elements, -, rfl⟩ := Option.map_eq_some_iff.mp hwalk.symm
  exact Dictionary.ascending_ofList _

/-- A method as the walked declaration of an interface has it. -/
def walkedMethod? (p : Package) (interface method : String) : Option WalkedMethod :=
  (p.walk interface).1.bind fun walked => Dictionary.get? method walked.methods

/-- The first interface declaration of a name lists the method. -/
def FirstDeclares (p : Package) (name method : String) : Prop :=
  ∃ elements, firstInterface? name p.specs = some elements ∧ method ∈ (shapeOf elements).methods

theorem walkedMethod?_isSome_iff (p : Package) (name m : String) :
    (p.walkedMethod? name m).isSome = true ↔ p.FirstDeclares name m := by
  obtain ⟨path, hwalk⟩ := p.walk_fst name
  rw [walkedMethod?, hwalk, FirstDeclares]
  cases firstInterface? name p.specs with
  | none => simp
  | some elements =>
      rw [Option.map_some, Option.bind_some, ← Dictionary.has, Dictionary.has_iff,
        mem_names_ofElements]
      simp

/-! ## §B The index -/

theorem index_eq_setAll (decls : List Declaration) :
    Index.ofList decls = Dictionary.ofList (decls.map fun d => (d.name, d)) := by
  rw [Index.ofList, Dictionary.ofList, Dictionary.setAll, List.foldl_map]
  rfl

theorem declarations_eq_map (p : Package) :
    p.declarations = p.specs.map fun s => ⟨s.name, s.type, s.elements.map shapeOf⟩ := by
  rw [declarations, specs, List.map_flatMap]
  rfl

/-- The index keeps the last declaration of a name. -/
theorem get?_index (p : Package) (name : String) :
    Dictionary.get? name p.index =
      (p.specs.reverse.find? fun s => s.name == name).map
        fun s => ⟨s.name, s.type, s.elements.map shapeOf⟩ := by
  rw [index, index_eq_setAll, Dictionary.get?_ofList, declarations_eq_map, List.map_map,
    ← List.map_reverse]
  induction p.specs.reverse with
  | nil => rfl
  | cons s specs ih =>
      rw [List.map_cons, Dictionary.get?_cons, List.find?_cons]
      by_cases hname : s.name = name
      · subst hname
        simp
      · have hbeq : (s.name == name) = false := beq_false_of_ne hname
        simp only [Function.comp, hname, if_false, hbeq]
        exact ih

/-- The shape of a name is that of its last declaration. -/
theorem shape?_index (p : Package) (name : String) :
    p.index.shape? name = (lastInterface? name p.specs).map shapeOf := by
  rw [Index.shape?, get?_index, lastInterface?]
  cases p.specs.reverse.find? fun s => s.name == name <;> rfl

end Package

end RollCall
