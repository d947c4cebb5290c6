import RollCall.Package
import RollCall.Proofs.Source.TypeReading

/-!
# RollCall.Proofs.Source.RoundTrip — spelling a type and reading it are inverse

A file that declares one type under a name is read back as just that: its package, one declaration,
no fault. `ofSource_declaring` says so of any text for the type that the direct reader can take, so
that the files that declare interfaces go the same way. For the spelling of a readable type the type
that is declared is the type that was spelled.
-/

namespace RollCall.Source.Plain

open RollCall.GoType (isReadable)
open RollCall.Text (Spot)
open RollCall.Text.Spot (Ahead)

/-! ## §A The tokens of a file with one declaration -/

/-- The text of a file of the package `api` that declares one type. -/
def declaring (name : String) (body : List Char) : List Char :=
  Keyword.package.word.toList ++ ([' '] ++ ("api".toList ++ (['\n'] ++ (Keyword.type.word.toList ++
    ([' '] ++ (name.toList ++ ([' '] ++ (body ++ ['\n']))))))))

/-- **`TypeTokens ts P`** — the tokens are read as the type of a declaration, and its tree has the
property. -/
structure TypeTokens (ts : List Token) (P : Outline → Prop) : Prop where
  head : ∃ first rest, ts = first :: rest ∧ first.shape.startsType = true
  reads : ∀ {fuel : Nat} {rest : List Token}, ts.length ≤ fuel → NoPoint true rest →
    ∃ o, type fuel true (some .type) (ts ++ rest) = some (o, rest) ∧ o.role = some .type ∧ Clean o ∧
      P o

/-- A text that is read as the type of a declaration, whose tree has the property. -/
def ReadsAs (body : List Char) (P : Outline → Prop) : Prop :=
  ∀ {s e : Spot}, Ahead s body e → e.rest = ['\n'] → ∃ ts, Scans s ts e ∧ TypeTokens ts P

/-- The tokens around the type in a file with one declaration. -/
structure FileTokens (name : String) where
  package : Token
  label : Token
  newline : Token
  word : Token
  declared : Token
  ending : Token
  finish : Token
  package_shape : package.shape = .keyword .package
  label_shape : label.shape = .name
  label_text : label.text = "api".toList
  newline_shape : newline.shape = .newline
  word_shape : word.shape = .keyword .type
  declared_shape : declared.shape = .name
  declared_text : declared.text = name.toList
  ending_shape : ending.shape = .newline
  finish_shape : finish.shape = .finish

/-- All tokens of the file, those of the type among them. -/
def FileTokens.around {name : String} (f : FileTokens name) (ts : List Token) : List Token :=
  f.package :: f.label :: f.newline :: f.word :: f.declared :: (ts ++ [f.ending, f.finish])

theorem tokens?_declaring {name : String} (hname : isName name = true) {body : List Char}
    {P : Outline → Prop} (hbody : ReadsAs body P) :
    ∃ (f : FileTokens name) (ts : List Token),
      tokens? (declaring name body) = some (f.around ts) ∧ TypeTokens ts P := by
  obtain ⟨e, hahead, hend⟩ : ∃ e, Ahead (Spot.start (declaring name body)) (declaring name body) e ∧
      e.rest = [] :=
    Spot.ahead_of_rest (List.append_nil _).symm
  obtain ⟨m₁, hpackage, hahead⟩ := hahead.split
  obtain ⟨m₂, hblank, hahead⟩ := hahead.split
  obtain ⟨m₃, hlabel, hahead⟩ := hahead.split
  obtain ⟨m₄, hnewline, hahead⟩ := hahead.split
  obtain ⟨m₅, hword, hahead⟩ := hahead.split
  obtain ⟨m₆, hblank', hahead⟩ := hahead.split
  obtain ⟨m₇, hdeclared, hahead⟩ := hahead.split
  obtain ⟨m₈, hblank'', hahead⟩ := hahead.split
  obtain ⟨m₉, htype, hending⟩ := hahead.split
  obtain ⟨ts, hscan, hts⟩ := hbody htype (by rw [hending.1, hend]; rfl)
  have hapi : isName "api" = true := by decide +kernel
  have hscans := (scans_keyword .package hpackage (bounded_of_ahead hblank (by decide))).append
    ((scans_blank hblank).append
    ((scans_name hapi hlabel (bounded_of_ahead hnewline (by decide))).append
    ((scans_line hnewline).append
    ((scans_keyword .type hword (bounded_of_ahead hblank' (by decide))).append
    ((scans_blank hblank').append
    ((scans_name hname hdeclared (bounded_of_ahead hblank'' (by decide))).append
    ((scans_blank hblank'').append (hscan.append (scans_line hending)))))))))
  let f : FileTokens name :=
    { package := ⟨.keyword .package, Spot.start (declaring name body), m₁⟩
      label := ⟨.name, m₂, m₃⟩, newline := ⟨.newline, m₃, m₄⟩
      word := ⟨.keyword .type, m₄, m₅⟩, declared := ⟨.name, m₆, m₇⟩, ending := ⟨.newline, m₉, e⟩
      finish := ⟨.finish, e, e⟩, package_shape := rfl, label_shape := rfl
      label_text := hlabel.textTo, newline_shape := rfl, word_shape := rfl, declared_shape := rfl
      declared_text := hdeclared.textTo, ending_shape := rfl, finish_shape := rfl }
  refine ⟨f, ts, ?_, hts⟩
  rw [tokens?_of_scans hscans hend]
  simp [f, FileTokens.around]

/-! ## §B Reading the file -/

section Reading

variable {name : String} (f : FileTokens name) {ts : List Token} {o : Outline}

/-- The tree of the package clause. -/
def FileTokens.clause : Outline :=
  .ofChildren .packageClause none [f.package.leaf, f.label.node .packageName none]

/-- The tree of the specification with a type. -/
def FileTokens.spec (o : Outline) : Outline :=
  .ofChildren .typeSpec none [f.declared.node .typeName none, o]

/-- The tree of the declaration with a type. -/
def FileTokens.declaration (o : Outline) : Outline :=
  .ofChildren (.other "types") none [f.word.leaf, f.spec o]

theorem typeSpec_reads (hhead : ∃ first more, ts = first :: more ∧ first.shape.startsType = true)
    {depth : Nat} {rest : List Token}
    (hread : type depth true (some .type) (ts ++ rest) = some (o, rest)) :
    typeSpec depth (f.declared :: (ts ++ rest)) = some (f.spec o, rest) := by
  obtain ⟨first, more, rfl, hfirst⟩ := hhead
  have hsolid := startsType_isSolid hfirst
  have hpeek : peek false (first :: more ++ rest) ≠ some (.sign '=') := by
    rw [List.cons_append, peek_solid false _ hsolid]
    intro hequals
    rw [Option.some.inj hequals] at hfirst
    cases hfirst
  have hnode : (⟨[f.declared.node .typeName none], first :: more ++ rest⟩ : Progress).node
      (type depth true (some .type)) = some ⟨[f.declared.node .typeName none, o], rest⟩ :=
    node_solid hsolid hread
  rw [typeSpec, if_pos f.declared_shape]
  dsimp only
  rw [if_neg hpeek, hnode]
  rfl

theorem typeDeclaration_reads {depth : Nat} {us rest : List Token}
    (hspec : typeSpec depth (f.declared :: us) = some (f.spec o, rest)) :
    typeDeclaration depth (f.word :: f.declared :: us) = some (f.declaration o, rest) := by
  have hsolid : f.declared.shape.isSolid = true := by
    rw [f.declared_shape]
    rfl
  have hpeek : peek false (f.declared :: us) ≠ some (.sign '(') := by
    rw [peek_solid false _ hsolid, f.declared_shape]
    decide
  rw [typeDeclaration, if_neg hpeek, node_solid hsolid hspec]
  rfl

theorem packageClause_reads (rest : List Token) :
    packageClause (f.package :: f.label :: rest) = some (f.clause, rest) := by
  rw [packageClause, takeAs_solid f.label_shape rfl]
  rfl

theorem behind_newline {next : Progress → Option (List Outline)} {marksEnd : Bool}
    {done : List Outline} {t : Token} (ht : t.shape = .newline) (rest : List Token) :
    behind next marksEnd ⟨done, t :: rest⟩ = next ⟨done ++ [t.leaf], rest⟩ := by
  rw [behind, gap_true rest (by rw [ht]; decide)]
  dsimp only
  rw [if_pos (.inl ht), List.append_nil]

theorem noPoint_ending : NoPoint true [f.ending, f.finish] := by
  rw [NoPoint, peek, gap_true _ (by rw [f.ending_shape]; decide)]
  simp [f.ending_shape]

theorem declarations_reads {depth : Nat} (n : Nat)
    (hdeclaration : typeDeclaration depth (f.word :: f.declared :: (ts ++ [f.ending, f.finish])) =
      some (f.declaration o, [f.ending, f.finish])) :
    declarations depth (n + 3) ⟨[], f.around ts⟩ =
      some [f.clause, f.newline.leaf, f.declaration o, f.ending.leaf] := by
  have hpackage : f.package.shape.isSolid = true := by rw [f.package_shape]; rfl
  have hword : f.word.shape.isSolid = true := by rw [f.word_shape]; rfl
  have hfinish : f.finish.shape.isSolid = true := by rw [f.finish_shape]; rfl
  -- the package clause
  rw [FileTokens.around, declarations, peek_solid false _ hpackage, f.package_shape]
  dsimp only
  rw [node_solid hpackage (packageClause_reads f _), Option.bind_some,
    behind_newline f.newline_shape]
  -- the declaration
  rw [declarations, peek_solid false _ hword, f.word_shape]
  dsimp only
  rw [node_solid hword hdeclaration, Option.bind_some, behind_newline f.ending_shape]
  -- the end of the file
  rw [declarations, peek_solid false _ hfinish, f.finish_shape]
  dsimp only
  rw [gap_solid false _ hfinish]
  rfl

theorem clean_clause : Clean f.clause := by
  have hlabel : Clean (f.label.node .packageName none) :=
    clean_token f.label (by decide) (by decide) none
  exact clean_ofChildren (by decide) (by decide) none (by simp [hlabel])

/-- The declaration has no fault, and all that it declares is its specification. -/
theorem declaration_select (ho : Clean o) :
    Fault.ofOutline (f.declaration o) = [] ∧
      ∀ rest, (f.declaration o).select isSpec rest = f.spec o :: rest := by
  have hdeclared : Clean (f.declared.node .typeName none) :=
    clean_token f.declared (by decide) (by decide) none
  obtain ⟨a, b, hspec⟩ := ofChildren_eq .typeSpec none [f.declared.node .typeName none, o]
  obtain ⟨a', b', hdeclaration⟩ := ofChildren_eq (.other "types") none [f.word.leaf, f.spec o]
  rw [FileTokens.declaration, hdeclaration]
  constructor
  · refine ofOutlines_eq_nil ?_
    simp only [List.forall_mem_cons, List.not_mem_nil, false_imp_iff, implies_true, and_true]
    refine ⟨(clean_leaf f.word).1, ?_⟩
    rw [FileTokens.spec, hspec]
    refine ofOutlines_eq_nil ?_
    simp [hdeclared.1, ho.1]
  · intro rest
    have hinner : (f.spec o).select isSpec rest = f.spec o :: rest := by
      rw [FileTokens.spec, hspec, Outline.select, selectAll_eq (by simp [hdeclared.2, ho.2])]
      rfl
    rw [Outline.select, Outline.selectAll, Outline.selectAll, Outline.selectAll, hinner,
      (clean_leaf f.word).2]
    rfl

/-- The specification declares the type of the tree under the name. -/
theorem spec?_spec (h : o.role = some .type) :
    spec? (f.spec o) = some ⟨name, false, typeOf o, elementsOf o⟩ := by
  have hstring : (f.declared.node .typeName none).string = name := by
    have htext : (f.declared.node .typeName none).string = String.ofList f.declared.text := rfl
    rw [htext, f.declared_text, String.ofList_toList]
  have htype : (f.spec o).child? .type = some o := by
    have hname : (f.declared.node .typeName none).role ≠ some .type := fun h => nomatch h
    rw [Outline.child?, FileTokens.spec, children_ofChildren]
    simp [hname, h]
  have hfind : ((f.spec o).children.find? fun c => c.kind == .typeName) =
      some (f.declared.node .typeName none) := by
    rw [FileTokens.spec, children_ofChildren]
    rfl
  have hkind : ((f.spec o).kind == .typeAlias) = false := by
    rw [FileTokens.spec, kind_ofChildren]
    rfl
  rw [spec?, hfind, htype, hkind]
  simp [hstring, elementsOf]

/-- A file with one declaration is read as its package and that declaration. -/
theorem ofOutline_declaring (hrole : o.role = some .type) (hclean : Clean o) (a b : Spot) :
    File.ofOutline (.node (.other "source file") none false a b
      [f.clause, f.newline.leaf, f.declaration o, f.ending.leaf]) =
        ⟨some "api", [⟨name, false, typeOf o, elementsOf o⟩], []⟩ := by
  obtain ⟨hfault, hselect⟩ := declaration_select f hclean
  have hpackage : packageName? (.node (.other "source file") none false a b
      [f.clause, f.newline.leaf, f.declaration o, f.ending.leaf]) = some "api" := by
    have hclause : (f.clause.kind == .packageClause) = true := by
      rw [FileTokens.clause, kind_ofChildren]
      rfl
    have hlabel : (f.clause.children.find? fun c => c.kind == .packageName) =
        some (f.label.node .packageName none) := by
      rw [FileTokens.clause, children_ofChildren, leaf_eq f.package_shape]
      rfl
    have htext : (f.label.node .packageName none).string = String.ofList f.label.text := rfl
    rw [packageName?, Outline.children, List.find?_cons, hclause, Option.bind_some, hlabel,
      Option.map_some, htext, f.label_text, String.ofList_toList]
  have hspecs : Outline.select isSpec (.node (.other "source file") none false a b
      [f.clause, f.newline.leaf, f.declaration o, f.ending.leaf]) [] = [f.spec o] := by
    rw [Outline.select, Outline.selectAll, Outline.selectAll, Outline.selectAll, Outline.selectAll,
      Outline.selectAll, (clean_leaf f.ending).2, hselect, (clean_leaf f.newline).2,
      (clean_clause f).2]
    rfl
  have hfaults : Fault.ofOutline (.node (.other "source file") none false a b
      [f.clause, f.newline.leaf, f.declaration o, f.ending.leaf]) = [] := by
    refine ofOutlines_eq_nil ?_
    simp [(clean_clause f).1, (clean_leaf _).1, hfault]
  rw [File.ofOutline, hpackage, hspecs, hfaults, List.filterMap_cons, spec?_spec f hrole]
  rfl

end Reading

theorem ofSource_declaring {name : String} (hname : isName name = true) {body : List Char}
    {P : Outline → Prop} (hbody : ReadsAs body P) :
    ∃ o, File.ofSource (String.ofList (declaring name body)) =
        ⟨some "api", [⟨name, false, typeOf o, elementsOf o⟩], []⟩ ∧ P o := by
  obtain ⟨f, ts, htokens, hts⟩ := tokens?_declaring hname hbody
  have hdepth : ts.length ≤ (f.around ts).length := by
    simp only [FileTokens.around, List.length_cons, List.length_append]
    omega
  obtain ⟨o, hread, hrole, hclean, ho⟩ := hts.reads hdepth (noPoint_ending f)
  refine ⟨o, ?_, ho⟩
  have hdeclarations := declarations_reads f (ts.length + 5)
    (typeDeclaration_reads f (typeSpec_reads f hts.head hread))
  have hfuel : (f.around ts).length + 1 = ts.length + 5 + 3 := by
    simp only [FileTokens.around, List.length_cons, List.length_append, List.length_nil]
  have hlast : (f.around ts).getLast? = some f.finish := by
    simp [FileTokens.around, List.getLast?_cons]
  have hfile : file? (declaring name body) = some (.node (.other "source file") none false
      f.clause.start f.finish.stop [f.clause, f.newline.leaf, f.declaration o, f.ending.leaf]) := by
    rw [file?, htokens, Option.bind_eq_bind, Option.bind_some, hfuel, hdeclarations,
      Option.bind_eq_bind, Option.bind_some, hlast]
  rw [File.ofSource, String.toList_ofList, Outline.ofSource, hfile, Option.getD_some]
  exact ofOutline_declaring f hrole hclean _ _

/-! ## §C Spelled types -/

theorem readsAs_spell {t : GoType} (h : isReadable t = true) :
    ReadsAs t.spell (Outlines · (some .type) t) := by
  intro s e hahead hend
  obtain ⟨ts, hscan, hspells⟩ := scannable t h hahead (by rw [hend]; decide)
  refine ⟨ts, hscan, spells_head hspells, ?_⟩
  intro fuel rest hfuel hrest
  obtain ⟨o, hread, ho⟩ := reads t h hspells hfuel true (some .type) hrest
  exact ⟨o, hread, ho.role, ho.clean, ho⟩

/-- The text of the file with a type is as it is written down. -/
theorem declaring_spelling (t : GoType) :
    String.ofList (declaring "X" t.spell) = "package api\ntype X " ++ t.spelling ++ "\n" := by
  have hopening : "package api\ntype X ".toList = Keyword.package.word.toList ++ ([' '] ++
      ("api".toList ++ (['\n'] ++ (Keyword.type.word.toList ++ ([' '] ++
        ("X".toList ++ [' '])))))) := by decide +kernel
  have hending : "\n".toList = ['\n'] := by decide +kernel
  rw [← String.toList_inj, String.toList_append, String.toList_append, hopening, hending,
    GoType.spelling, @String.toList_ofList t.spell, @String.toList_ofList (declaring "X" t.spell),
    declaring]
  simp only [List.append_assoc]

end RollCall.Source.Plain

namespace RollCall.PackageFile

open RollCall.Source

/-- The spelling of a readable type is read back as the type. -/
theorem declarations_spelled (path : String) {t : GoType} (h : t.isReadable = true) :
    let f : PackageFile := ⟨path, File.ofSource ("package api\ntype X " ++ t.spelling ++ "\n")⟩
    f.file.package = some "api" ∧ f.declarations = [⟨"X", t, (emptyElements t).map shapeOf⟩] ∧
      f.diagnostics = [] := by
  have hname : Plain.isName "X" = true := by decide +kernel
  obtain ⟨o, hfile, ho⟩ := Plain.ofSource_declaring hname (Plain.readsAs_spell h)
  rw [Plain.declaring_spelling, ho.type, ho.elements] at hfile
  intro f
  have hf : f.file = ⟨some "api", [⟨"X", false, t, emptyElements t⟩], []⟩ := hfile
  rw [declarations, diagnostics, hf]
  exact ⟨rfl, rfl, rfl⟩

/-- A struct with an array behind a name, an embedded pointer to a name of another package, nested
channels in the key of a map, an empty struct and an empty interface. -/
def crowded : GoType :=
  .struct [⟨"A", .array (some 4) (.named none "T"), false⟩,
    ⟨"T", .pointer (.named (some "p") "T"), true⟩,
    ⟨"B", .map (.array (some 2) (.chan (.chan (.named none "T")))) (.struct []), false⟩,
    ⟨"C", .slice .interface, false⟩, ⟨"U", .named none "U", true⟩]

/-- The file that spells this struct out declares it, with every type that is nested in it. -/
theorem declarations_spelled_nested : crowded.isReadable = true ∧
    let source := "package api\ntype X struct \x7b A [4]T; *p.T; " ++
      "B map[[2]chan chan T]struct \x7b\x7d; C []interface \x7b\x7d; U \x7d\n"
    let f : PackageFile := ⟨"api.go", File.ofSource source⟩
    f.file.package = some "api" ∧ f.declarations = [⟨"X", crowded, none⟩] ∧ f.diagnostics = [] := by
  have hsource : "package api\ntype X struct \x7b A [4]T; *p.T; " ++
      "B map[[2]chan chan T]struct \x7b\x7d; C []interface \x7b\x7d; U \x7d\n" =
        "package api\ntype X " ++ crowded.spelling ++ "\n" := by decide +kernel
  have hreadable : crowded.isReadable = true := by decide +kernel
  refine ⟨hreadable, ?_⟩
  rw [hsource]
  exact declarations_spelled "api.go" hreadable

end RollCall.PackageFile
