import RollCall.Proofs.Dictionary
import RollCall.Proofs.Source.ParameterReading
import RollCall.Proofs.Source.RoundTrip

/-!
# RollCall.Proofs.Source.InterfaceReading — printed interfaces are read method by method

The text of a printed interface is cut into tokens, and the direct reader takes one method from each
line. A method keeps its name; its parameters and results are the types that their lists are read
as. From there on the elements of the interface are known: walking the interface finds each method
under its name, and its shape lists the names in the order of the lines.
-/

namespace RollCall.Source.Plain

open RollCall.Printed
open RollCall.Text (Spot)
open RollCall.Text.Spot (Ahead)

/-! ## §A One method -/

/-- The declared signature is that of the printed method. -/
structure Signs (s : Signature) (m : Method) : Prop where
  name : s.name = m.name
  params : s.params = m.params.read
  results : s.results = m.results.read

/-- The tree is that of the method. -/
structure OutlinesMethod (o : Outline) (m : Method) : Prop where
  items : ∃ s, bodyItems o = [.element (.method s) (spanOf o)] ∧ Signs s m
  clean : Clean o

/-- The trees of the results: none, a type, or a list. -/
def OutlinesResults (r : Results) (results : List Outline) : Prop :=
  match r with
  | .none => results = []
  | .bare t => ∃ o, results = [o] ∧ Outlines o (some .result) t
  | .listed l => ∃ o, results = [o] ∧ OutlinesList o (some .result) l

theorem result_reads {r : Results} (hreadable : r.isReadable = true) {ts : List Token}
    (h : SpellsResults r ts) {fuel : Nat} (hfuel : ts.length ≤ fuel) {newline : Token}
    (hnewline : newline.shape = .newline) (rest : List Token) (done : List Outline) :
    ∃ results, (⟨done, ts ++ newline :: rest⟩ : Progress).result (type fuel) true =
      some ⟨done ++ results, newline :: rest⟩ ∧ OutlinesResults r results := by
  have hgap : gap true (newline :: rest) = ([], newline :: rest) :=
    gap_true rest (by rw [hnewline]; decide)
  have hpeek : peek true (newline :: rest) = some .newline := by
    rw [peek, hgap]
    exact congrArg some hnewline
  cases r with
  | none =>
      obtain rfl := h
      refine ⟨[], ?_, rfl⟩
      rw [Progress.result, List.nil_append, hpeek, List.append_nil]
      rfl
  | bare t =>
      have hpoint : NoPoint true (newline :: rest) := by
        rw [NoPoint, hpeek]
        decide
      obtain ⟨o, hnode, ho⟩ :=
        Reads.node (reads t) hreadable h hfuel true (some .result) hpoint done
      refine ⟨[o], ?_, o, rfl, ho⟩
      obtain ⟨first, inner, rfl, hfirst⟩ := spells_head h
      have hhead : peek true (first :: inner ++ newline :: rest) = some first.shape :=
        peek_solid true _ (startsType_isSolid hfirst)
      have hbracket : first.shape ≠ .sign '(' := by
        intro hbracket
        rw [hbracket] at hfirst
        cases hfirst
      rw [Progress.result, hhead]
      dsimp only
      rw [if_neg hbracket, if_pos hfirst, hnode]
  | listed l =>
      obtain ⟨o, hnode, ho⟩ :=
        node_parameters hreadable h hfuel (some .result) (newline :: rest) done
      refine ⟨[o], ?_, o, rfl, ho⟩
      obtain ⟨opening, inner, rfl, hopening⟩ := spellsList_head h
      have hhead : peek true (opening :: inner ++ newline :: rest) = some (.sign '(') := by
        rw [List.cons_append, peek_shape true _ hopening rfl]
      rw [Progress.result, hhead]
      dsimp only
      rw [if_pos rfl, hnode]

/-- The results are the first child for results, if there is one. -/
theorem resultTypes_of_outlines {r : Results} {results : List Outline}
    (h : OutlinesResults r results) :
    ((results.find? fun c => c.role == some .result).map resultTypes).getD [] = r.read := by
  cases r with
  | none =>
      obtain rfl := h
      rfl
  | bare t =>
      obtain ⟨o, rfl, ho⟩ := h
      have hkind : (o.kind == .parameters) = false :=
        beq_eq_false_iff_ne.mpr (Kind.ne_of_isType ho.kind rfl)
      rw [List.find?_cons, ho.role, beq_self_eq_true, Option.map_some, Option.getD_some,
        resultTypes, hkind, if_neg Bool.false_ne_true, ho.type]
      rfl
  | listed l =>
      obtain ⟨o, rfl, ho⟩ := h
      rw [List.find?_cons, ho.role, beq_self_eq_true, Option.map_some, Option.getD_some,
        resultTypes, ho.kind, beq_self_eq_true, if_pos rfl, ho.types]
      rfl

theorem outlinesResults_plain {r : Results} {results : List Outline}
    (h : OutlinesResults r results) : ∀ c ∈ results, Clean c ∧ c.kind ≠ .comment := by
  cases r with
  | none =>
      obtain rfl := h
      exact List.forall_mem_nil _
  | bare t =>
      obtain ⟨o, rfl, ho⟩ := h
      exact List.forall_mem_singleton.mpr ⟨ho.clean, Kind.ne_of_isType ho.kind rfl⟩
  | listed l =>
      obtain ⟨o, rfl, ho⟩ := h
      refine List.forall_mem_singleton.mpr ⟨ho.clean, ?_⟩
      rw [ho.kind]
      decide

/-- The tree of a method with the given name, parameters and results. -/
def methodOutline (name : Token) (params : Outline) (results : List Outline) : Outline :=
  .ofChildren .methodElement none ([name.node .fieldName none] ++ [params] ++ results)

section Method

variable {m : Method} {name : Token} {params : Outline} {results : List Outline}

theorem signature?_methodOutline (htext : name.text = m.name.toList)
    (hparams : OutlinesList params (some .parameters) m.params)
    (hresults : OutlinesResults m.results results) :
    ∃ s, signature? (methodOutline name params results) = some s ∧ Signs s m := by
  have hchildren : (methodOutline name params results).children =
      name.node .fieldName none :: params :: results := children_ofChildren _ _ _
  have hname : ((methodOutline name params results).children.find? fun c => c.kind == .fieldName) =
      some (name.node .fieldName none) := by
    rw [hchildren]
    rfl
  have hparam : (methodOutline name params results).child? .parameters = some params := by
    rw [Outline.child?, hchildren, List.find?_cons_of_neg (by exact Bool.false_ne_true),
      List.find?_cons_of_pos (by rw [hparams.role]; rfl)]
  have hresult : (methodOutline name params results).child? .result =
      results.find? fun c => c.role == some .result := by
    rw [Outline.child?, hchildren, List.find?_cons_of_neg (by exact Bool.false_ne_true),
      List.find?_cons_of_neg (by rw [hparams.role]; decide)]
  refine ⟨_, by rw [signature?, hname, Option.map_some], ?_, ?_, ?_⟩
  · have hstring : (name.node .fieldName none).string = String.ofList name.text := rfl
    rw [hstring, htext, String.ofList_toList]
  · rw [hparam]
    exact hparams.types
  · rw [hresult]
    exact resultTypes_of_outlines hresults

theorem outlinesMethod_methodOutline (htext : name.text = m.name.toList)
    (hparams : OutlinesList params (some .parameters) m.params)
    (hresults : OutlinesResults m.results results) :
    OutlinesMethod (methodOutline name params results) m := by
  have hplain : ∀ c ∈ [name.node .fieldName none] ++ [params] ++ results,
      Clean c ∧ c.kind ≠ .comment := by
    intro c hc
    simp only [List.mem_append, List.mem_singleton] at hc
    rcases hc with (rfl | rfl) | hc
    · exact ⟨clean_token name (by decide) (by decide) none, fun h => nomatch h⟩
    · exact ⟨hparams.clean, by rw [hparams.kind]; decide⟩
    · exact outlinesResults_plain hresults c hc
  have hkind : (methodOutline name params results).kind = .methodElement := kind_ofChildren _ _ _
  constructor
  · obtain ⟨s, hs, hsigns⟩ := signature?_methodOutline htext hparams hresults
    refine ⟨s, ?_, hsigns⟩
    have hcomments : ((methodOutline name params results).children.filter fun c =>
        c.kind == .comment) = [] := by
      rw [methodOutline, children_ofChildren, List.filter_eq_nil_iff]
      intro c hc
      simpa using (hplain c hc).2
    have helement : elementKind? (methodOutline name params results) = some (.method s) := by
      rw [elementKind?, hkind]
      dsimp only
      rw [hs]
      rfl
    have hremark : ((methodOutline name params results).kind == .comment) = false := by
      rw [hkind]
      rfl
    rw [bodyItems, hremark, if_neg Bool.false_ne_true, helement]
    dsimp only
    rw [hcomments]
    rfl
  · exact clean_ofChildren (by decide) (by decide) none fun c hc => (hplain c hc).1

end Method

/-- A method is read from its tokens. -/
theorem element_reads {m : Method} (hreadable : m.isReadable = true) {ts : List Token}
    (h : SpellsMethod m ts) {fuel : Nat} (hfuel : ts.length ≤ fuel) {newline : Token}
    (hnewline : newline.shape = .newline) (rest : List Token) :
    ∃ o, element (type fuel) (ts ++ newline :: rest) = some (o, newline :: rest) ∧
      OutlinesMethod o m := by
  rw [Method.isReadable, Bool.and_eq_true, Bool.and_eq_true] at hreadable
  obtain ⟨⟨-, hparams⟩, hresults⟩ := hreadable
  obtain ⟨name, params, results, rfl, hname, htext, hspellsParams, hspellsResults⟩ := h
  simp only [List.length_cons, List.length_append] at hfuel
  have hparamsFuel : params.length ≤ fuel := by omega
  have hresultsFuel : results.length ≤ fuel := by omega
  obtain ⟨p, hpnode, hp⟩ := node_parameters hparams hspellsParams hparamsFuel (some .parameters)
    (results ++ newline :: rest) [name.node .fieldName none]
  obtain ⟨rs, hrs, hro⟩ := result_reads hresults hspellsResults hresultsFuel hnewline rest
    ([name.node .fieldName none] ++ [p])
  refine ⟨methodOutline name p rs, ?_, outlinesMethod_methodOutline htext hp hro⟩
  obtain ⟨opening, inner, rfl, hopening⟩ := spellsList_head hspellsParams
  have hpeek : peek true (opening :: inner ++ (results ++ newline :: rest)) = some (.sign '(') := by
    rw [List.cons_append, peek_shape true _ hopening rfl]
  rw [List.cons_append, List.append_assoc, element, if_pos ⟨hname, hpeek⟩]
  dsimp only
  rw [hpnode, Option.bind_eq_bind, Option.bind_some, hrs]
  rfl

/-! ## §B All methods -/

/-- The item of a body is the method. -/
def IsMethod (item : BodyItem) (m : Method) : Prop :=
  ∃ s span, item = .element (.method s) span ∧ Signs s m

theorem gap_newline {t : Token} (h : t.shape = .newline) (ts : List Token) :
    gap false (t :: ts) = gap false ts := by
  rw [gap, h]
  rfl

theorem items_newline {item : Reader} {closing : Char} {t : Token} (h : t.shape = .newline)
    (n : Nat) (done : List Outline) (ts : List Token) :
    Progress.items item closing n ⟨done, t :: ts⟩ = Progress.items item closing n ⟨done, ts⟩ := by
  cases n with
  | zero => rfl
  | succ n =>
      rw [Progress.items, Progress.items, peek, peek, gap_newline h, Progress.take, Progress.take,
        Progress.takeAs, Progress.takeAs, gap_newline h, Progress.node, Progress.node,
        gap_newline h]

/-- One method of an interface is read, with the end of its line. -/
theorem items_method {m : Method} (hreadable : m.isReadable = true) {ts : List Token}
    (h : SpellsMethod m ts) {fuel : Nat} (hfuel : ts.length ≤ fuel) {newline : Token}
    (hnewline : newline.shape = .newline) (n : Nat) (done : List Outline) (rest : List Token) :
    ∃ o, OutlinesMethod o m ∧
      Progress.items (element (type fuel)) '}' (n + 1) ⟨done, ts ++ newline :: rest⟩ =
        Progress.items (element (type fuel)) '}' n ⟨done ++ [o] ++ [newline.leaf], rest⟩ := by
  obtain ⟨o, hread, ho⟩ := element_reads hreadable h hfuel hnewline rest
  refine ⟨o, ho, ?_⟩
  obtain ⟨name, params, results, rfl, hname, -⟩ := h
  have hsolid : name.shape.isSolid = true := by
    rw [hname]
    rfl
  have hclosing : name.shape ≠ .sign '}' := by
    rw [hname]
    decide
  have hremark : newline.shape ≠ .remark := by
    rw [hnewline]
    decide
  exact (items_item n (gap_solid false _ hsolid) hclosing hread hremark).trans
    (if_pos (.inl hnewline))

/-- All methods of an interface are read, line by line, up to its closing brace. -/
theorem items_methods {ms : List Method} (hreadable : ∀ m ∈ ms, m.isReadable = true)
    {ts : List Token} (h : SpellsMethods ms ts) {fuel n : Nat} (hfuel : ts.length ≤ fuel)
    (hn : ts.length ≤ n) (done : List Outline) (rest : List Token) :
    ∃ parts, Progress.items (element (type fuel)) '}' n ⟨done, ts ++ rest⟩ =
        some ⟨done ++ parts, rest⟩ ∧ (∀ c ∈ parts, Clean c) ∧
      List.Forall₂ IsMethod (parts.flatMap bodyItems) ms := by
  induction ms generalizing ts n done with
  | nil =>
      obtain ⟨closing, rfl, hclosing⟩ := h
      obtain ⟨n, rfl⟩ := Nat.exists_eq_add_of_le' hn
      have hsolid : closing.shape.isSolid = true := by
        rw [hclosing]
        rfl
      refine ⟨[closing.leaf], items_end n (gap_solid false rest hsolid) hclosing, by simp, ?_⟩
      rw [List.flatMap_singleton, bodyItems_leaf hsolid]
      exact .nil
  | cons m ms ih =>
      obtain ⟨first, newline, others, rfl, hfirst, hnewline, hothers⟩ := h
      simp only [List.length_cons, List.length_append] at hfuel hn
      have hfirstFuel : first.length ≤ fuel := by omega
      have hothersFuel : others.length ≤ fuel := by omega
      obtain ⟨n, rfl⟩ : ∃ k, n = k + 1 := ⟨n - 1, by omega⟩
      have hothersN : others.length ≤ n := by omega
      obtain ⟨o, ho, hitem⟩ := items_method (hreadable m List.mem_cons_self) hfirst hfirstFuel
        hnewline n done (others ++ rest)
      obtain ⟨parts, hparts, hclean, hmethods⟩ :=
        ih (fun k hk => hreadable k (List.mem_cons_of_mem _ hk)) hothers hothersFuel hothersN
          (done ++ [o] ++ [newline.leaf])
      refine ⟨o :: newline.leaf :: parts, ?_, by simpa [ho.clean] using hclean, ?_⟩
      · rw [List.append_assoc, List.cons_append, hitem, hparts, List.append_assoc,
          List.append_assoc]
        rfl
      · obtain ⟨s, hitems, hsigns⟩ := ho.items
        have hnone : bodyItems newline.leaf = [] := by
          rw [leaf_eq hnewline]
          rfl
        rw [List.flatMap_cons, List.flatMap_cons, hitems, hnone]
        exact .cons ⟨s, _, rfl, hsigns⟩ hmethods

/-! ## §C The elements of the interface -/

/-- The element is the method. -/
def IsElement (e : Element) (m : Method) : Prop := ∃ s, e.kind = .method s ∧ Signs s m

theorem elements_attachComments {items : List BodyItem} {ms : List Method}
    (h : List.Forall₂ IsMethod items ms) :
    List.Forall₂ IsElement (attachComments items) ms := by
  have hnumbered : ∀ n, List.Forall₂ (fun x m => ∃ s, x.2.1 = ElementKind.method s ∧ Signs s m)
      (elementsFrom n items) ms := by
    induction h with
    | nil => exact fun n => .nil
    | cons hitem _ ih =>
        obtain ⟨s, span, rfl, hsigns⟩ := hitem
        exact fun n => .cons ⟨s, rfl, hsigns⟩ (ih (n + 1))
  rw [attachComments, List.forall₂_map_left_iff]
  exact hnumbered 0

/-- A tree is that of an interface type with the methods. -/
structure OutlinesInterface (o : Outline) (ms : List Method) : Prop where
  kind : o.kind = .interfaceType
  type : typeOf o = .interface
  elements : List.Forall₂ IsElement (interfaceElements o) ms

/-- A printed interface is read from its text. -/
theorem readsAs_interface {ms : List Method} (hreadable : ∀ m ∈ ms, m.isReadable = true) :
    ReadsAs (interfaceText ms) (OutlinesInterface · ms) := by
  intro s e hahead hend
  obtain ⟨ts, hscan, word, opening, newline, inner, rfl, hword, hopening, hnewline, hinner⟩ :=
    scans_interface hreadable hahead
  refine ⟨_, hscan, ⟨word, _, rfl, by rw [hword]; rfl⟩, ?_⟩
  intro fuel rest hfuel hrest
  simp only [List.length_cons] at hfuel
  obtain ⟨fuel, rfl⟩ := Nat.exists_eq_add_of_le' (Nat.le_of_add_left_le hfuel)
  have hinnerFuel : inner.length ≤ fuel := by omega
  have hn : inner.length ≤ (newline :: (inner ++ rest)).length + 1 := by
    simp only [List.length_cons, List.length_append]
    omega
  obtain ⟨parts, hparts, hclean, hmethods⟩ := items_methods hreadable hinner hinnerFuel hn
    ([word.leaf] ++ [opening.leaf]) rest
  refine ⟨.ofChildren .interfaceType (some .type) ([word.leaf] ++ [opening.leaf] ++ parts), ?_,
    role_ofChildren _ _ _, clean_ofChildren (by decide) (by decide) _ (by simpa using hclean),
    kind_ofChildren _ _ _, ?_, ?_⟩
  · rw [List.cons_append, List.cons_append, List.cons_append, type, hword]
    simp only
    rw [take_solid hopening rfl, Option.bind_eq_bind, Option.bind_some, Progress.allItems]
    dsimp only
    rw [items_newline hnewline, hparts]
    rfl
  · obtain ⟨a, b, hnode⟩ :=
      ofChildren_eq .interfaceType (some .type) ([word.leaf] ++ [opening.leaf] ++ parts)
    rw [hnode, typeOf]
  · rw [interfaceElements, children_ofChildren, List.flatMap_append, List.flatMap_append,
      List.flatMap_singleton, List.flatMap_singleton, bodyItems_leaf (by rw [hword]; rfl),
      bodyItems_leaf (by rw [hopening]; rfl)]
    exact elements_attachComments hmethods

end RollCall.Source.Plain

namespace RollCall.Package

open RollCall.Printed
open RollCall.Source
open RollCall.Source.Plain (isName IsElement Signs)

/-! ## §D Looking the interface up -/

theorem shapeOf_methods {elements : List Element} {ms : List Method}
    (h : List.Forall₂ IsElement elements ms) : shapeOf elements = ⟨ms.map Method.name, []⟩ := by
  induction h with
  | nil => rfl
  | cons he _ ih =>
      obtain ⟨s, hkind, hsigns⟩ := he
      rw [shapeOf, Shape.mk.injEq] at ih ⊢
      rw [List.filterMap_cons, List.filterMap_cons, hkind]
      dsimp only
      rw [ih.1, ih.2, hsigns.name]
      exact ⟨rfl, rfl⟩

/-- The methods of a walked interface are entered one by one. -/
theorem methods_ofElements {elements : List Element} {ms : List Method}
    (h : List.Forall₂ IsElement elements ms) (name path : String) :
    ∃ entries, (WalkedInterface.ofElements name path elements).methods = Dictionary.ofList entries ∧
      List.Forall₂ (fun x m => x.1 = m.name ∧ Signs x.2.signature m) entries ms := by
  refine ⟨_, rfl, ?_⟩
  induction h with
  | nil => exact .nil
  | cons he _ ih =>
      obtain ⟨s, hkind, hsigns⟩ := he
      rw [List.filterMap_cons, hkind]
      exact .cons ⟨hsigns.name, hsigns⟩ ih

theorem names_entries {entries : Dictionary WalkedMethod} {ms : List Method}
    (h : List.Forall₂ (fun x m => x.1 = m.name ∧ Signs x.2.signature m) entries ms) :
    Dictionary.names entries = ms.map Method.name := by
  induction h with
  | nil => rfl
  | cons hx _ ih => rw [Dictionary.names_cons, ih, hx.1, List.map_cons]

theorem entry_of_method {entries : Dictionary WalkedMethod} {ms : List Method}
    (h : List.Forall₂ (fun x m => x.1 = m.name ∧ Signs x.2.signature m) entries ms) {m : Method}
    (hm : m ∈ ms) : ∃ found, (m.name, found) ∈ entries ∧ Signs found.signature m := by
  induction h with
  | nil => cases hm
  | @cons x k _ _ hx _ ih =>
      rcases List.mem_cons.mp hm with rfl | hm
      · exact ⟨x.2, by rw [← hx.1]; exact List.mem_cons_self, hx.2⟩
      · obtain ⟨found, hfound, hsigns⟩ := ih hm
        exact ⟨found, List.mem_cons_of_mem _ hfound, hsigns⟩

/-- Where no name stands twice, every entry of a list is found in its dictionary. -/
theorem get?_ofList_of_mem {entries : Dictionary WalkedMethod}
    (hdistinct : (Dictionary.names entries).Nodup) {name : String} {found : WalkedMethod}
    (h : (name, found) ∈ entries) :
    Dictionary.get? name (Dictionary.ofList entries) = some found := by
  rw [Dictionary.get?_ofList, Dictionary.get?_reverse hdistinct]
  exact (Dictionary.get?_eq_some_iff hdistinct name found).mpr h

theorem names_ofList_perm {entries : Dictionary WalkedMethod}
    (hdistinct : (Dictionary.names entries).Nodup) :
    (Dictionary.names (Dictionary.ofList entries)).Perm (Dictionary.names entries) :=
  (List.perm_ext_iff_of_nodup (Dictionary.ascending_ofList entries).nodup hdistinct).mpr
    fun name => Dictionary.mem_names_ofList name entries

/-- The package of one file that declares a printed interface. -/
def printed (path name : String) (ms : List Method) : Package :=
  ⟨[⟨path, File.ofSource (String.ofList (Plain.declaring name (interfaceText ms)))⟩]⟩

/-- A printed interface is found with its methods, each with the types that its lists are read as;
they are the types that are meant exactly where no name too many is read as another type. -/
theorem walk_printed (path : String) {name : String} (hname : isName name = true)
    {ms : List Method} (hreadable : ∀ m ∈ ms, m.isReadable = true)
    (hdistinct : (ms.map Method.name).Nodup) :
    (printed path name ms).diagnostics = [] ∧
    (printed path name ms).declarations = [⟨name, .interface, some ⟨ms.map Method.name, []⟩⟩] ∧
    ∃ w, (printed path name ms).walk name = (some w, []) ∧ w.embedded = [] ∧
      (Dictionary.names w.methods).Perm (ms.map Method.name) ∧
      ∀ m ∈ ms, ∃ found, Dictionary.get? m.name w.methods = some found ∧
        found.signature.name = m.name ∧ found.signature.params = m.params.read ∧
        found.signature.results = m.results.read ∧
        ((found.signature.params = m.params.types ∧ found.signature.results = m.results.types) ↔
          ∀ g ∈ m.params.groups ++ m.results.groups, ∀ n ∈ g.surplus, nameType n = g.type) := by
  obtain ⟨o, hfile, ho⟩ := Plain.ofSource_declaring hname (Plain.readsAs_interface hreadable)
  have helements : elementsOf o = some (interfaceElements o) := by
    rw [elementsOf, ho.kind, beq_self_eq_true, if_pos rfl]
  have hpackage : printed path name ms = ⟨[⟨path, ⟨some "api",
      [⟨name, false, .interface, some (interfaceElements o)⟩], []⟩⟩]⟩ := by
    rw [printed, hfile, ho.type, helements]
  -- from here on only the elements matter, not the tree that they come from
  have hshape := shapeOf_methods ho.elements
  obtain ⟨entries, hmethods, hentries⟩ := methods_ofElements ho.elements name path
  have hnames := names_entries hentries
  rw [hpackage]
  refine ⟨rfl, ?_, .ofElements name path (interfaceElements o), ?_, ?_, ?_, ?_⟩
  · rw [← hshape]
    rfl
  · have hskip : (false || name != name) = false := by simp
    rw [walk, walkFiles, walkSpecs]
    dsimp only
    rw [hskip, if_neg Bool.false_ne_true]
  · rw [WalkedInterface.ofElements, hshape]
  · rw [hmethods, ← hnames]
    exact names_ofList_perm (hnames ▸ hdistinct)
  · intro m hm
    obtain ⟨found, hfound, hsigns⟩ := entry_of_method hentries hm
    refine ⟨found, ?_, hsigns.name, hsigns.params, hsigns.results, ?_⟩
    · rw [hmethods]
      exact get?_ofList_of_mem (hnames ▸ hdistinct) hfound
    · rw [hsigns.params, hsigns.results, m.params.read_eq_iff, m.results.read_eq_iff,
        List.forall_mem_append]

/-- Three methods: ten names for one type, a variadic parameter behind a name of another package,
and an unnamed list. -/
def busyMethods : List Method :=
  [⟨"M", .named [⟨["a", "b", "c", "d", "e", "f", "g", "h", "i"], "j", .plain "int"⟩] none, .none⟩,
   ⟨"Each",
      .named [⟨[], "ctx", .named (some "context") "Context"⟩] (some ("keys", .plain "string")),
      .listed (.named [⟨["n"], "m", .plain "int"⟩, ⟨[], "err", .plain "error"⟩] none)⟩,
   ⟨"Get", .unnamed [.plain "K", .slice (.plain "V")] none,
      .bare (.map (.plain "K") (.pointer (.plain "V")))⟩]

/-- Of ten names with one type only nine are read with it. -/
theorem walk_printed_tenNames :
    String.ofList (Plain.declaring "I" (interfaceText busyMethods)) =
      "package api\ntype I interface \x7b\n\tM(a, b, c, d, e, f, g, h, i, j int)\n" ++
      "\tEach(ctx context.Context, keys ...string) (n, m int, err error)\n" ++
      "\tGet(K, []V) map[K]*V\n\x7d\n" ∧
    (∀ m ∈ busyMethods, m.isReadable = true) ∧ (busyMethods.map Method.name).Nodup ∧
    ∃ w found, (printed "api.go" "I" busyMethods).walk "I" = (some w, []) ∧
      Dictionary.get? "M" w.methods = some found ∧
      found.signature.params = .plain "a" :: List.replicate 9 (.plain "int") ∧
      found.signature.params ≠ List.replicate 10 (.plain "int") := by
  have hreadable : ∀ m ∈ busyMethods, m.isReadable = true := by decide +kernel
  have hdistinct : (busyMethods.map Method.name).Nodup := by decide +kernel
  refine ⟨by decide +kernel, hreadable, hdistinct, ?_⟩
  have hname : isName "I" = true := by decide +kernel
  obtain ⟨-, -, w, hwalk, -, -, hmethods⟩ := walk_printed "api.go" hname hreadable hdistinct
  obtain ⟨found, hfound, -, hparams, -⟩ := hmethods _ List.mem_cons_self
  have hread : found.signature.params = .plain "a" :: List.replicate 9 (.plain "int") := hparams
  refine ⟨w, found, hwalk, hfound, hread, ?_⟩
  rw [hread]
  simp [GoType.plain]

end RollCall.Package
