import RollCall.Proofs.Example.MethodTexts
import RollCall.Proofs.Text
import RollCall.Report.Markdown

/-!
# RollCall.Proofs.Report.Headings — the headings of the readable list

A rendered list is made of pieces, and every piece ends with a newline. The lines of a text that is
cut at a newline are the lines of both parts, so the headings of the whole are those of the pieces
one after the other. A title is one heading, a header and a comment have none of their own, and an
example stands in one line behind its title, since no text of a JSON value holds a newline.
-/

namespace RollCall

/-! ## §A Texts of examples -/

namespace Example

/-- **`IsText text`** — the text is what some method takes or gives, as it was worked out with some
registered values and declarations. -/
def IsText (text : String) : Prop :=
  ∃ (types : Declarations) (params results : List GoType) (bench : Bench)
    (inputs response : String),
    (ofMethod types params results bench).1 = .ok (inputs, response) ∧
      (text = inputs ∨ text = response)

/-- The texts of a method are texts of JSON values. -/
theorem ofMethod_compact {types : Declarations} {params results : List GoType} {bench : Bench}
    {inputs response : String}
    (h : (ofMethod types params results bench).1 = .ok (inputs, response)) :
    ∃ (values : List Json) (reply : Json),
      inputs = (Json.arr values).compact ∧ response = reply.compact := by
  unfold ofMethod at h
  split at h
  · cases h
  · rename_i values middle _
    split at h
    · cases h
      exact ⟨values, .null, rfl, rfl⟩
    · split at h
      · cases h
      · rename_i reply _ _
        cases h
        exact ⟨values, reply, rfl, rfl⟩

/-- Every JSON value can be registered, so the texts of examples are those of all JSON values. -/
theorem isText_iff (text : String) : IsText text ↔ ∃ v : Json, text = v.compact := by
  constructor
  · rintro ⟨types, params, results, bench, inputs, response, hok, htext⟩
    obtain ⟨values, reply, hinputs, hresponse⟩ := ofMethod_compact hok
    rcases htext with rfl | rfl
    · exact ⟨_, hinputs⟩
    · exact ⟨_, hresponse⟩
  · rintro ⟨v, rfl⟩
    have hfound : Dictionary.get? (GoType.named none "T").spelling
        (Bench.fresh [("T", v)]).registry = some v := rfl
    have hreply : ofType [] (.named none "T") (.fresh [("T", v)]) = (.ok v, .fresh [("T", v)]) :=
      ofType_registered [] hfound
    refine ⟨[], [], [.named none "T"], .fresh [("T", v)], (Json.arr []).compact, v.compact, ?_,
      Or.inr rfl⟩
    unfold ofMethod
    rw [List.drop_nil, ofTypes]
    simp only [hreply]

theorem IsText.printable {text : String} (h : IsText text) : Printable text.toList := by
  obtain ⟨v, rfl⟩ := (isText_iff text).mp h
  exact Json.printable_compact v

end Example

namespace Markdown

open RollCall.Text

/-! ## §B Headings -/

/-- A line that opens a group or a method. -/
def isHeading (line : List Char) : Bool :=
  "## ".toList.isPrefixOf line || "### ".toList.isPrefixOf line

/-- The headings among the lines of a text, in order. -/
def headings (text : List Char) : List (List Char) := (lines text).filter isHeading

/-- What opens a group. -/
def groupHeading (g : Group) : List Char := "## ".toList ++ g.name.toList

/-- What opens a method. -/
def methodHeading (m : Method) : List Char := "### ".toList ++ m.name.toList

theorem isHeading_groupHeading (g : Group) : isHeading (groupHeading g) = true := by
  have hlead : "## ".toList.isPrefixOf (groupHeading g) = true :=
    List.isPrefixOf_iff_prefix.mpr (List.prefix_append _ _)
  rw [isHeading, hlead, Bool.true_or]

theorem isHeading_methodHeading (m : Method) : isHeading (methodHeading m) = true := by
  have hlead : "### ".toList.isPrefixOf (methodHeading m) = true :=
    List.isPrefixOf_iff_prefix.mpr (List.prefix_append _ _)
  rw [isHeading, hlead, Bool.or_true]

/-- A heading begins with a number sign. -/
theorem not_isHeading_cons {c : Char} (h : c ≠ '#') (line : List Char) :
    isHeading (c :: line) = false := by
  have hne : ('#' == c) = false := by simpa using h.symm
  show (('#' == c && _) || ('#' == c && _)) = false
  rw [hne, Bool.false_and, Bool.false_and, Bool.or_false]

/-- Cutting a text at a newline cuts the list of its headings. -/
theorem headings_append_newline (front rest : List Char) :
    headings (front ++ '\n' :: rest) = headings front ++ headings rest := by
  unfold headings
  rw [lines_eq_splitOn, List.splitOn_append_cons_self, List.filter_append, lines_eq_splitOn,
    lines_eq_splitOn]

theorem headings_nil : headings [] = [] := rfl

theorem headings_line {line : List Char} (h : '\n' ∉ line) :
    headings line = if isHeading line then [line] else [] := by
  rw [headings, lines_of_notMem h, List.filter_cons, List.filter_nil]

/-! ## §C The pieces of a rendered list -/

/-- **`Tame m`** — the name of the method is one line, its comment has no heading, and its examples,
if any, are texts of examples. -/
structure Tame (m : Method) : Prop where
  name : '\n' ∉ m.name.toList
  comment : headings m.comment.toList = []
  inputs : ∀ text, m.inputExample = some text → Example.IsText text
  response : ∀ text, m.responseExample = some text → Example.IsText text

/-- **`TameGroup g`** — the name of the group is one line, its header has no heading, and all its
methods are tame. -/
structure TameGroup (g : Group) : Prop where
  name : '\n' ∉ g.name.toList
  header : headings g.header.toList = []
  methods : ∀ m ∈ g.methods, Tame m

/-- The line of an example is no heading where its title begins like none, and the line behind it is
empty. -/
theorem headings_example (title : String) {c : Char} {more : List Char}
    (htitle : title.toList = c :: more) (hc : c ≠ '#') (hline : '\n' ∉ c :: more)
    {shown : Option String} (h : ∀ text, shown = some text → Example.IsText text)
    (rest : List Char) :
    headings ((example? title shown).toList ++ rest) = headings rest := by
  cases shown with
  | none => rfl
  | some text =>
      have hline : '\n' ∉ c :: (more ++ ": \x60".toList ++ text.toList ++ "\x60".toList) := by
        have htext : '\n' ∉ text.toList := fun hmem =>
          absurd ((h text rfl).printable '\n' hmem) (by decide)
        simp at hline ⊢
        tauto
      have hpiece : (example? title (some text)).toList ++ rest =
          (c :: (more ++ ": \x60".toList ++ text.toList ++ "\x60".toList)) ++
            '\n' :: ([] ++ '\n' :: rest) := by
        simp [example?, htitle]
      rw [hpiece, headings_append_newline, headings_append_newline, headings_line hline,
        not_isHeading_cons hc]
      rfl

theorem headings_method {m : Method} (h : Tame m) (rest : List Char) :
    headings ((method m).toList ++ rest) = methodHeading m :: headings rest := by
  have hname : '\n' ∉ methodHeading m := by
    simpa [methodHeading] using h.name
  have hpiece : (method m).toList ++ rest =
      methodHeading m ++ '\n' :: (m.comment.toList ++ '\n' :: ([] ++ '\n' ::
        ((example? "Inputs" m.inputExample).toList ++
          ((example? "Response" m.responseExample).toList ++ rest)))) := by
    simp [method, methodHeading]
  have hinputs := headings_example "Inputs" rfl (by decide) (by decide) h.inputs
  have hresponse := headings_example "Response" rfl (by decide) (by decide) h.response
  rw [hpiece, headings_append_newline, headings_append_newline, headings_append_newline,
    headings_line hname, isHeading_methodHeading, h.comment, headings_nil, hinputs, hresponse]
  rfl

theorem headings_methods {methods : List Method} (h : ∀ m ∈ methods, Tame m) (rest : List Char) :
    headings ((String.join (methods.map method)).toList ++ rest) =
      methods.map methodHeading ++ headings rest := by
  induction methods with
  | nil => rfl
  | cons m methods ih =>
      rw [List.map_cons, String.join_cons, String.toList_append, List.append_assoc,
        headings_method (h m List.mem_cons_self),
        ih fun n hn => h n (List.mem_cons_of_mem _ hn)]
      rfl

theorem headings_group {g : Group} (h : TameGroup g) (rest : List Char) :
    headings ((group g).toList ++ rest) =
      groupHeading g :: g.methods.map methodHeading ++ headings rest := by
  have hname : '\n' ∉ groupHeading g := by
    simpa [groupHeading] using h.name
  have hpiece : (group g).toList ++ rest =
      groupHeading g ++ '\n' :: (g.header.toList ++ '\n' :: ([] ++ '\n' ::
        ((String.join (g.methods.map method)).toList ++ rest))) := by
    simp [group, groupHeading]
  rw [hpiece, headings_append_newline, headings_append_newline, headings_append_newline,
    headings_line hname, isHeading_groupHeading, h.header, headings_nil,
    headings_methods h.methods]
  rfl

/-- **The headings of a rendered list are its groups and methods.** Names are single lines, headers
and comments bring no heading of their own, and examples are texts of any JSON values: then the
headings of the rendered text are, in order, the heading of every group with the headings of its
methods behind it. -/
theorem headings_render {groups : List Group} (h : ∀ g ∈ groups, TameGroup g) :
    headings (render groups).toList =
      groups.flatMap fun g =>
        ("## ".toList ++ g.name.toList) ::
          g.methods.map fun m => "### ".toList ++ m.name.toList := by
  -- the induction carries no rest: a group ends at a line boundary, so the groups behind it follow
  induction groups with
  | nil => rfl
  | cons g groups ih =>
      have hgroup := headings_group (h g List.mem_cons_self) (render groups).toList
      have hrender :
          (render (g :: groups)).toList = (group g).toList ++ (render groups).toList := by
        rw [render, List.map_cons, String.join_cons, String.toList_append, render]
      rw [hrender, hgroup, ih fun k hk => h k (List.mem_cons_of_mem _ hk)]
      rfl

/-- A group whose header has lines of its own and no newline at its end, with a method without a
comment and one whose example holds what looks like a heading. -/
def crowdedGroup : Group where
  name := "Chain"
  header := "About chains:\n#### see below"
  methods :=
    [⟨"ChainHead", "", none, none⟩,
     ⟨"ChainNotify", "Tells of heads.\n", none,
      some (Json.str "\n## Chain\n### ChainHead").compact⟩]

/-- The heading inside the example does not show. -/
theorem headings_render_crowded :
    TameGroup crowdedGroup ∧
      headings (render [crowdedGroup, crowdedGroup]).toList =
        ["## Chain".toList, "### ChainHead".toList, "### ChainNotify".toList,
         "## Chain".toList, "### ChainHead".toList, "### ChainNotify".toList] := by
  have htame : TameGroup crowdedGroup := by
    refine ⟨by decide, by decide, ?_⟩
    intro m hm
    simp only [crowdedGroup, List.mem_cons, List.not_mem_nil, or_false] at hm
    rcases hm with rfl | rfl
    · exact ⟨by decide, by decide, nofun, nofun⟩
    · refine ⟨by decide, by decide, nofun, ?_⟩
      intro text htext
      cases htext
      exact (Example.isText_iff _).mpr ⟨_, rfl⟩
  refine ⟨htame, headings_render ?_⟩
  intro g hg
  simp only [List.mem_cons, List.not_mem_nil, or_false, or_self] at hg
  rw [hg]
  exact htame

end Markdown

end RollCall
