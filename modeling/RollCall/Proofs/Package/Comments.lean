import RollCall.Proofs.Package
import RollCall.Proofs.Source.RemarkedScan
import RollCall.Proofs.Source.RoundTrip

/-!
# RollCall.Proofs.Package.Comments — comments do not change what a package declares

A comment is put into a file of a package, between two tokens. The declarations of the file stay as
they are, and so do the methods and embedded elements of every interface that is found in the
package, with the types of parameters and results.

This is shown in two steps. Whatever is read from a tree is the same with comments put in, for the
tree of any file at all. And a block comment that is put into the text of a plain file is put into
its tree, which is shown of the direct reader.

The place must not be inside of a text that a type is known by. That is meant to be so for function
types, for types without a shape of their own and for lengths of arrays. Names of other packages
are taken from their text as well, and there a comment in front of the point becomes a part of the
name of the package.
-/

namespace RollCall

open RollCall.Source

/-! ## §A Interfaces without comments -/

/-- The types of the parameters and results of an interface, by method. -/
def WalkedInterface.types (w : WalkedInterface) : Dictionary (List GoType × List GoType) :=
  Dictionary.mapValues (fun m => (m.signature.params, m.signature.results)) w.methods

/-- **`WalkedInterface.Agrees w w'`** — the same methods with the same types, and the same embedded
elements. -/
structure WalkedInterface.Agrees (w w' : WalkedInterface) : Prop where
  name : w.name = w'.name
  file : w.file = w'.file
  types : w.types = w'.types
  embedded : w.embedded = w'.embedded

/-- The method that an element declares, with its types. -/
def methodTypes? : ElementKind → Option (String × List GoType × List GoType)
  | .method s => some (s.name, s.params, s.results)
  | .embed _ => none

/-- What an element embeds. -/
def embed? : ElementKind → Option Embed
  | .method _ => none
  | .embed x => some x

@[simp]
theorem methodTypes?_bare (kind : ElementKind) : methodTypes? kind.bare = methodTypes? kind := by
  cases kind <;> rfl

@[simp]
theorem embed?_bare (kind : ElementKind) : embed? kind.bare = embed? kind := by
  cases kind <;> rfl

section Elements

variable {elements elements' : List Element}

theorem filterMap_bare {α : Type} {f : ElementKind → Option α} (hf : ∀ kind, f kind.bare = f kind)
    (elements : List Element) :
    elements.filterMap (fun e => f e.kind) = (bareElements elements).filterMap f := by
  rw [bareElements, List.filterMap_map]
  exact List.filterMap_congr fun e _ => (hf e.kind).symm

theorem shapeOf_eq_bare (elements : List Element) :
    shapeOf elements = ⟨((bareElements elements).filterMap methodTypes?).map Prod.fst,
      (bareElements elements).filterMap embed?⟩ := by
  rw [← filterMap_bare methodTypes?_bare, ← filterMap_bare embed?_bare, shapeOf, List.map_filterMap,
    Shape.mk.injEq]
  constructor
  · refine List.filterMap_congr fun e _ => ?_
    cases e.kind <;> rfl
  · refine List.filterMap_congr fun e _ => ?_
    cases e.kind <;> rfl

theorem types_ofElements (name file : String) (elements : List Element) :
    (WalkedInterface.ofElements name file elements).types =
      Dictionary.ofList ((bareElements elements).filterMap methodTypes?) := by
  rw [WalkedInterface.types, WalkedInterface.ofElements, Dictionary.mapValues_ofList,
    List.map_filterMap, ← filterMap_bare methodTypes?_bare]
  refine congrArg Dictionary.ofList (List.filterMap_congr fun e _ => ?_)
  cases e.kind <;> rfl

theorem ofElements_agrees (h : bareElements elements = bareElements elements')
    (name file : String) :
    (WalkedInterface.ofElements name file elements).Agrees
      (WalkedInterface.ofElements name file elements') := by
  refine ⟨rfl, rfl, ?_, ?_⟩
  · rw [types_ofElements, types_ofElements, h]
  · rw [WalkedInterface.ofElements, WalkedInterface.ofElements, shapeOf_eq_bare, shapeOf_eq_bare, h]

end Elements

/-! ## §B Looking names up -/

/-- **`WalksAlike x x'`** — the same interface is found, or none, and with the same warnings. -/
structure WalksAlike (x x' : Option WalkedInterface × List Warning) : Prop where
  found : Option.Rel WalkedInterface.Agrees x.1 x'.1
  warnings : x.2 = x'.2

theorem walksAlike_refl (x : Option WalkedInterface × List Warning) : WalksAlike x x := by
  refine ⟨?_, rfl⟩
  cases x.1 with
  | none => exact .none
  | some w => exact .some ⟨rfl, rfl, rfl, rfl⟩

theorem PackageFile.declarations_congr {f f' : PackageFile}
    (h : List.Forall₂ Spec.Agrees f.file.specs f'.file.specs) :
    f.declarations = f'.declarations := by
  rw [declarations, declarations]
  generalize f.file.specs = specs at h ⊢
  generalize f'.file.specs = specs' at h ⊢
  induction h with
  | nil => rfl
  | @cons s s' _ _ hs _ ih =>
      have hshape : s.elements.map shapeOf = s'.elements.map shapeOf := by
        have hbare : shapeOf = (fun kinds => ⟨(kinds.filterMap methodTypes?).map Prod.fst,
            kinds.filterMap embed?⟩) ∘ bareElements := funext shapeOf_eq_bare
        rw [hbare, ← Option.map_map, ← Option.map_map, hs.elements]
      rw [List.map_cons, List.map_cons, ih, hs.name, hs.type, hshape]

namespace Package

theorem walkSpecs_alike (target path : String) {specs specs' : List Spec}
    (h : List.Forall₂ Spec.Agrees specs specs') :
    WalksAlike (walkSpecs target path specs) (walkSpecs target path specs') := by
  induction h with
  | nil => exact walksAlike_refl _
  | @cons s s' specs specs' hs _ ih =>
      have helements := hs.elements
      rw [walkSpecs, walkSpecs, ← hs.aliased, ← hs.name]
      split
      · exact ih
      · cases hfirst : s.elements with
        | none =>
            rw [hfirst, Option.map_none] at helements
            rw [Option.map_eq_none_iff.mp helements.symm]
            exact ⟨ih.found, congrArg (_ :: ·) ih.warnings⟩
        | some elements =>
            rw [hfirst, Option.map_some] at helements
            obtain ⟨elements', hfirst', hbare⟩ := Option.map_eq_some_iff.mp helements.symm
            rw [hfirst']
            exact ⟨.some (ofElements_agrees hbare.symm target path), rfl⟩

theorem walkFiles_alike (target : String) {f f' : PackageFile} (hpath : f.path = f'.path)
    (h : List.Forall₂ Spec.Agrees f.file.specs f'.file.specs) (before after : List PackageFile) :
    WalksAlike (walkFiles target (before ++ f :: after))
      (walkFiles target (before ++ f' :: after)) := by
  induction before with
  | nil =>
      have hfile := walkSpecs_alike target f.path h
      rw [List.nil_append, List.nil_append, walkFiles, walkFiles, ← hpath]
      generalize walkSpecs target f.path f.file.specs = x at hfile ⊢
      generalize walkSpecs target f.path f'.file.specs = x' at hfile ⊢
      obtain ⟨found, warnings⟩ := x
      obtain ⟨found', warnings'⟩ := x'
      obtain ⟨hfound, rfl⟩ := hfile
      cases hfound with
      | none => exact walksAlike_refl _
      | some hagrees => exact ⟨.some hagrees, rfl⟩
  | cons g before ih =>
      rw [List.cons_append, List.cons_append, walkFiles, walkFiles]
      cases hwalk : walkSpecs target g.path g.file.specs with
      | mk found warnings =>
          cases found with
          | none => exact ⟨ih.found, congrArg (warnings ++ ·) ih.warnings⟩
          | some w => exact walksAlike_refl _

end Package

/-! ## §C A comment in a qualified name -/

namespace Source

open RollCall.Source.Plain (isName isBlockRemark)

theorem trim_of_ends {c d : Char} {text : List Char} (hfirst : Text.isBlank c = false)
    (hlast : Text.isBlank d = false) : Text.trim (c :: (text ++ [d])) = c :: (text ++ [d]) := by
  have hdrop : ∀ {c : Char} {cs : List Char}, Text.isBlank c = false →
      (c :: cs).dropWhile Text.isBlank = c :: cs := by
    intro c cs hc
    rw [List.dropWhile_cons, hc, if_neg Bool.false_ne_true]
  rw [Text.trim, hdrop hfirst, Text.trimEnd, ← List.cons_append, List.reverse_append,
    List.reverse_singleton, List.singleton_append, hdrop hlast, List.reverse_cons,
    List.reverse_reverse]

/-- A comment in front of the point of a qualified name is read as a part of the package. -/
theorem typeOf_remarkedName {package name : String} (hpackage : isName package = true)
    (hname : isName name = true) {remark : List Char} (hremark : isBlockRemark remark = true)
    (hpoint : '.' ∉ remark) {o : Outline} (hkind : o.kind = .qualifiedType)
    (htext : o.text = package.toList ++ (remark ++ '.' :: name.toList)) :
    typeOf o = .named (some (package ++ String.ofList remark)) name := by
  have hcut : Text.cutAt? (· == '.') o.text = some (package.toList ++ remark, name.toList) := by
    rw [htext, ← List.append_assoc]
    refine Plain.cutAt?_append (p := (· == '.')) (fun c hc => ?_) (beq_self_eq_true _) _
    rw [beq_eq_false_iff_ne]
    rintro rfl
    rcases List.mem_append.mp hc with hc | hc
    · exact Plain.ne_of_isNameContinue (Plain.isNameContinue_of_isName hpackage hc) (by decide) rfl
    · exact hpoint hc
  have hfirst : Text.trim (package.toList ++ remark) = package.toList ++ remark := by
    obtain ⟨c, cs, hlist, hstart, -, -⟩ := (Plain.isName_iff package).mp hpackage
    obtain ⟨body, rfl⟩ := Plain.isBlockRemark_end hremark
    rw [hlist, List.cons_append, ← List.append_assoc]
    exact trim_of_ends
      (Plain.isBlank_of_isNameContinue (Plain.isNameContinue_of_isNameStart hstart)) (by decide)
  have hsecond : Text.trim name.toList = name.toList := by
    refine Plain.trim_eq fun c hc => ?_
    exact Plain.isBlank_of_isNameContinue (Plain.isNameContinue_of_isName hname hc)
  have hparts : qualifiedParts? o.text = some (package ++ String.ofList remark, name) := by
    simp only [qualifiedParts?, hcut, Option.map_some, hfirst, hsecond, String.ofList_append,
      String.ofList_toList]
  cases o
  cases hkind
  rw [typeOf]
  rw [Outline.text, Outline.start, Outline.stop] at hparts
  rw [hparts]

/-- Such a name is read as the type of a declaration. -/
theorem readsAs_remarkedName {package name : String} (hpackage : isName package = true)
    (hname : isName name = true) {remark : List Char} (hremark : isBlockRemark remark = true)
    (hpoint : '.' ∉ remark) :
    Plain.ReadsAs (package.toList ++ (remark ++ '.' :: name.toList))
      (fun o => typeOf o = .named (some (package ++ String.ofList remark)) name ∧
        elementsOf o = none) := by
  intro s e hahead hend
  have htext := hahead.textTo
  obtain ⟨m, hfirst, hrest⟩ := hahead.split
  obtain ⟨m', hcomment, hrest⟩ := hrest.split
  obtain ⟨m'', hdot, hlast⟩ := hrest.head
  obtain ⟨c, cs, hlist, hstart, -⟩ := (Plain.isName_iff name).mp hname
  have hbounded : Plain.Bounded m.rest = true := by
    obtain ⟨rest, rfl, -⟩ := (Plain.isBlockRemark_iff remark).mp hremark
    rw [hcomment.1]
    rfl
  have hbehind : m''.rest = c :: (cs ++ e.rest) := by rw [hlast.1, hlist, List.cons_append]
  refine ⟨_, (Plain.scans_name hpackage hfirst hbounded).append
    ((Plain.scans_blockRemark hremark hcomment).append ((Plain.scans_point hdot hbehind hstart).append
      (Plain.scans_name hname hlast (by rw [hend]; rfl)))), ⟨⟨_, _, rfl, rfl⟩, ?_⟩⟩
  intro fuel rest hfuel _
  obtain ⟨fuel, rfl⟩ := Nat.exists_eq_add_of_le' (Nat.le_trans (Nat.succ_pos 3) hfuel)
  refine ⟨.node .qualifiedType (some .type) false s e
    [.node .packageName none false s m [], .node .comment none false m m' [],
      .node (.other ".") none false m' m'' [], .node .typeName none false m'' e []], rfl, rfl, ?_,
    typeOf_remarkedName hpackage hname hremark hpoint rfl htext, rfl⟩
  refine clean_node (by decide) (by decide) _ s e fun o ho => ?_
  simp only [List.mem_cons, List.not_mem_nil, or_false] at ho
  rcases ho with rfl | rfl | rfl | rfl <;>
    exact clean_node (by decide) (by decide) none _ _ fun _ h => absurd h List.not_mem_nil

end Source

/-! ## §D Files with the same types -/

open RollCall.Source.Plain (isName isBlockRemark isPlace declaring spotIn sameText_spotIn)
open RollCall.Text (Spot)

/-- The file of an outline. -/
def PackageFile.ofOutline (path : String) (root : Outline) : PackageFile :=
  ⟨path, File.ofOutline root⟩

/-- The file of a text. -/
def PackageFile.ofText (path : String) (text : List Char) : PackageFile :=
  ⟨path, File.ofSource (String.ofList text)⟩

/-- **`SameTypes f f'`** — both files declare the same types, and every interface is found in the same
way in a package with either of them, with the same types. -/
structure PackageFile.SameTypes (f f' : PackageFile) : Prop where
  declarations : f.declarations = f'.declarations
  walks : ∀ (before after : List PackageFile) (name : String),
    WalksAlike (Package.walk ⟨before ++ f :: after⟩ name) (Package.walk ⟨before ++ f' :: after⟩ name)

namespace PackageFile

/-- The file of a text is that of its outline. -/
theorem ofText_eq (path : String) (text : List Char) :
    ofText path text = ofOutline path (.ofSource text) := by
  rw [ofText, ofOutline, File.ofSource, String.toList_ofList]

/-- Comments in a tree do not change types, whatever file it is the tree of. -/
theorem sameTypes_ofOutline {k : Nat} {root root' : Outline} (h : Remarked (SameText k) root root')
    (hclear : isClearFile k root = true) (path : String) :
    (ofOutline path root).SameTypes (ofOutline path root') := by
  have hspecs := h.specs_agree hclear
  refine ⟨declarations_congr hspecs, fun before after name => ?_⟩
  have hpath : (ofOutline path root).path = (ofOutline path root').path := rfl
  exact Package.walkFiles_alike name hpath hspecs before after

/-- A block comment between two tokens of a plain file does not change types. -/
theorem sameTypes_ofText {front remark back : List Char} (hremark : isBlockRemark remark = true)
    (hplace : isPlace front.length (front ++ back) = true)
    (hclear : isClearFile front.length (.ofSource (front ++ back)) = true) (path : String) :
    (ofText path (front ++ back)).SameTypes (ofText path (front ++ (remark ++ back))) := by
  rw [ofText_eq, ofText_eq]
  exact sameTypes_ofOutline (Plain.ofSource_inserted hremark hplace) hclear path

/-- A comment in a qualified name changes nothing where the name belongs to an interface that is only
the type of a field. -/
example : (ofText "api.go" ("package api\ntype T struct \x7b F interface \x7b M(io".toList ++
      ".Reader) \x7d \x7d\n".toList)).SameTypes
    (ofText "api.go" ("package api\ntype T struct \x7b F interface \x7b M(io".toList ++
      ("/* of */".toList ++ ".Reader) \x7d \x7d\n".toList))) :=
  sameTypes_ofText (by decide +kernel) (by decide +kernel) (by decide +kernel) "api.go"

/-- A file that declares a qualified name with a comment in it declares another package. -/
theorem declarations_remarkedName (path : String) {declared package name : String}
    (hdeclared : isName declared = true) (hpackage : isName package = true)
    (hname : isName name = true) {remark : List Char} (hremark : isBlockRemark remark = true)
    (hpoint : '.' ∉ remark) :
    (ofText path
      (declaring declared (package.toList ++ (remark ++ '.' :: name.toList)))).declarations =
        [⟨declared, .named (some (package ++ String.ofList remark)) name, none⟩] := by
  obtain ⟨o, hfile, htype, helements⟩ := Plain.ofSource_declaring hdeclared
    (readsAs_remarkedName hpackage hname hremark hpoint)
  rw [declarations, ofText, hfile, htype, helements]
  rfl

end PackageFile

/-- **Comments do not change types.** Of any file: if comments are put into its tree, then its
declarations stay as they are and so does what is found in its package, as long as the place is
inside of no text that a type is known by. A block comment between two tokens of a plain file is put
into its tree, so this holds of the texts of plain files as well. Of the texts that types are known
by, those of qualified names are meant to be read apart from comments and are not: a comment in front
of the point becomes a part of the package. -/
theorem Package.walk_remarked (path : String) :
    (∀ (k : Nat) (root root' : Outline), Remarked (SameText k) root root' →
      isClearFile k root = true →
        (PackageFile.ofOutline path root).SameTypes (.ofOutline path root')) ∧
    (∀ front remark back : List Char, isBlockRemark remark = true →
      isPlace front.length (front ++ back) = true →
      isClearFile front.length (.ofSource (front ++ back)) = true →
        (PackageFile.ofText path (front ++ back)).SameTypes
          (.ofText path (front ++ (remark ++ back)))) ∧
    ∀ (remark : List Char) (declared package name : String), isBlockRemark remark = true →
      '.' ∉ remark → isName declared = true → isName package = true → isName name = true →
        (PackageFile.ofText path
          (declaring declared (package.toList ++ (remark ++ '.' :: name.toList)))).declarations =
            [⟨declared, .named (some (package ++ String.ofList remark)) name, none⟩] := by
  refine ⟨?_, ?_, ?_⟩
  · intro k root root' hremarked hclear
    exact PackageFile.sameTypes_ofOutline hremarked hclear path
  · intro front remark back hremark hplace hclear
    exact PackageFile.sameTypes_ofText hremark hplace hclear path
  · intro remark declared package name hremark hpoint hdeclared hpackage hname
    exact PackageFile.declarations_remarkedName path hdeclared hpackage hname hremark hpoint

/-- A plain file up to the middle of a parameter list. -/
def storeFront : List Char :=
  "package api\ntype Store interface \x7b\n\tGet(id, rev ".toList

/-- The file from there on. -/
def storeBack : List Char :=
  "[2]*Key) (map[string]chan io.Reader, error)\n\tCloser\n\x7d\n".toList

/-- A file with an import up to the type of a parameter. -/
def sourceFront : List Char :=
  "package api\nimport \"io\"\ntype Source interface \x7b Open(id ".toList

/-- The file from there on. -/
def sourceBack : List Char := "Key) io.Reader \x7d\n".toList

/-- The outline of this file as the grammar reads it, with comments in front of the type. -/
def sourceTreeWith (remark : List Char) (comments : List Outline) : Outline :=
  let spot := spotIn sourceFront remark sourceBack
  let branch (kind : Kind) (role : Option Role) (i j : Nat) (children : List Outline) : Outline :=
    .node kind role false (spot i) (spot j) children
  let leaf (kind : Kind) (i j : Nat) : Outline := branch kind none i j []
  let token (text : String) (i : Nat) : Outline := leaf (.other text) i (i + text.length)
  branch (.other "source file") none 0 73
    [branch .packageClause none 0 11 [token "package" 0, leaf .packageName 8 11],
      token "\n" 11,
      branch (.other "import") none 12 23
        [token "import" 12,
          branch (.other "import spec") none 19 23
            [branch (.other "string") none 19 23
              [token "\"" 19, leaf (.other "interpreted_string_literal_content") 20 22,
                token "\"" 22]]],
      token "\n" 23,
      branch (.other "types") none 24 72
        [token "type" 24,
          branch .typeSpec none 29 72
            [leaf .typeName 29 35,
              branch .interfaceType (some .type) 36 72
                [token "interface" 36, token "\x7b" 46,
                  branch .methodElement none 48 70
                    [leaf .fieldName 48 52,
                      branch .parameters (some .parameters) 52 60
                        [token "(" 52,
                          branch .parameter none 53 59
                            (leaf .name 53 55 :: comments ++
                              [branch .typeName (some .type) 56 59 []]),
                          token ")" 59],
                      branch .qualifiedType (some .result) 61 70
                        [leaf .packageName 61 63, token "." 63, leaf .typeName 64 70]],
                  token "\x7d" 71]]],
      token "\n" 72]

/-- A comment between the name of a parameter and its type. -/
def parameterRemark : List Char := "/* both */".toList

/-- The file with an import as it is. -/
def sourceTree : Outline := sourceTreeWith [] []

/-- The same file with the comment. -/
def remarkedSourceTree : Outline :=
  let start := Spot.start (sourceFront ++ (parameterRemark ++ sourceBack))
  sourceTreeWith parameterRemark [.node .comment none false (start.skip sourceFront.length)
    (start.skip (sourceFront.length + parameterRemark.length)) []]

theorem remarked_sourceTree :
    Remarked (SameText sourceFront.length) sourceTree remarkedSourceTree := by
  have hfront : sourceFront.length = 56 := by decide +kernel
  have hlength : (sourceFront ++ sourceBack).length = 73 := by decide +kernel
  -- node by node, and where the second tree has a comment nothing corresponds to it
  repeat' first
    | exact Threaded.nil
    | refine Threaded.remark ⟨rfl, rfl, rfl⟩ ?_
    | refine Threaded.cons (Remarked.node ?_ ?_) ?_
    | refine Remarked.node ?_ ?_
  all_goals exact sameText_spotIn _ _ _ (by decide) (hlength ▸ by decide) (hfront ▸ by decide)

/-- A comment between a parameter and its type changes nothing, in a file that is plain and in one that
is not. In a qualified name it changes the package. -/
theorem Package.walk_remarked_parameter :
    (isBlockRemark parameterRemark = true ∧
      isPlace storeFront.length (storeFront ++ storeBack) = true ∧
      isClearFile storeFront.length (.ofSource (storeFront ++ storeBack)) = true ∧
      (PackageFile.ofText "api.go" (storeFront ++ storeBack)).SameTypes
        (.ofText "api.go" (storeFront ++ (parameterRemark ++ storeBack))) ∧
      (Package.walk ⟨[.ofText "api.go" (storeFront ++ storeBack)]⟩ "Store").1.isSome = true) ∧
    (Remarked (SameText sourceFront.length) sourceTree remarkedSourceTree ∧
      isClearFile sourceFront.length sourceTree = true ∧
      (PackageFile.ofOutline "api.go" sourceTree).SameTypes (.ofOutline "api.go" remarkedSourceTree) ∧
      (Package.walk ⟨[.ofOutline "api.go" sourceTree]⟩ "Source").1.isSome = true) ∧
    (PackageFile.ofText "api.go" "package api\ntype T io/* both */.Closer\n".toList).declarations =
      [⟨"T", .named (some "io/* both */") "Closer", none⟩] := by
  have hremark : isBlockRemark parameterRemark = true := by decide +kernel
  have hplace : isPlace storeFront.length (storeFront ++ storeBack) = true := by decide +kernel
  have hclear : isClearFile storeFront.length (.ofSource (storeFront ++ storeBack)) = true := by
    decide +kernel
  have hsource : isClearFile sourceFront.length sourceTree = true := by decide +kernel
  obtain ⟨htrees, hplain, hqualified⟩ := Package.walk_remarked "api.go"
  refine ⟨⟨hremark, hplace, hclear, hplain _ _ _ hremark hplace hclear, by decide +kernel⟩,
    ⟨remarked_sourceTree, hsource, htrees _ _ _ remarked_sourceTree hsource, by decide +kernel⟩, ?_⟩
  exact hqualified parameterRemark "T" "io" "Closer" hremark (by decide +kernel) (by decide +kernel)
    (by decide +kernel) (by decide +kernel)

end RollCall
