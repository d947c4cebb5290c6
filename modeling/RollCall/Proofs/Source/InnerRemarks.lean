import RollCall.Proofs.Comment.Owners
import RollCall.Proofs.Comment.Runs
import RollCall.Source.Interface
import RollCall.Source.Reading

/-!
# RollCall.Proofs.Source.InnerRemarks — whose are the comments inside an element

A comment between the tokens of an element counts as standing right behind the element, and from then
on it is judged by its line alone. On the line where the element ends it is a group of its own and
goes to the element. On any line above, it is neither on the last line nor on the one after it, so it
goes to the next element, however far down that is, and nowhere only if there is none.

So a comment inside an element that is written on one line stays with it, and one that stands above
the last line of its element becomes a comment of the element that follows.
-/

namespace RollCall.Comment

/-! ## §A Runs around an element -/

theorem elements_append (front back : List Entry) :
    elements (front ++ back) = elements front ++ elements back :=
  List.filterMap_append

theorem elements_map_remark (remarks : List Remark) : elements (remarks.map .remark) = [] := by
  induction remarks with
  | nil => rfl
  | cons r remarks ih => exact ih

theorem spans_map_slot (runs : List Run) :
    spans (runs.map Run.slot) = elements (runs.flatMap Run.entries) := by
  induction runs with
  | nil => rfl
  | cons run runs ih =>
      rw [List.flatMap_cons, elements_append, ← ih]
      cases run with
      | remarks first others =>
          rw [Run.entries, elements_cons_remark, elements_map_remark]
          rfl
      | element span => rfl

theorem spans_map_slot_cons_remarks (first : Remark) (others : List Remark) (runs : List Run) :
    spans ((Run.remarks first others :: runs).map Run.slot) = spans (runs.map Run.slot) := rfl

theorem pushRemark_append_element (ended : Option Nat) (r : Remark) (runs tail : List Run)
    (span : Span) :
    pushRemark ended r (runs ++ .element span :: tail) =
      pushRemark ended r runs ++ .element span :: tail := by
  cases runs with
  | nil => rfl
  | cons run runs =>
      cases run with
      | element other => rfl
      | remarks first others =>
          rw [List.cons_append, pushRemark, pushRemark]
          split <;> rfl

/-- An element ends whatever run stands in front of it. -/
theorem runsFrom_append_element (ended : Option Nat) (front back : List Entry) (span : Span) :
    runsFrom ended (front ++ .element span :: back) =
      runsFrom ended front ++ .element span :: runsFrom (some span.lastLine) back := by
  induction front generalizing ended with
  | nil => rfl
  | cons entry front ih =>
      cases entry with
      | element other => simp [runsFrom, ih]
      | remark r => rw [List.cons_append, runsFrom, runsFrom, ih, pushRemark_append_element]

theorem place_append (front back : List Run) (i : Nat) :
    place (front ++ back) ((front.flatMap Run.entries).length + i) =
      front.length + place back i := by
  induction front with
  | nil => simp
  | cons run front ih =>
      rw [List.cons_append, List.flatMap_cons, List.length_append, Nat.add_assoc, place_cons_add, ih,
        List.length_cons]
      omega

/-- **The run of a comment that has only comments in front.** It starts with one of these or with the
comment itself, and that one starts on the line `ended` exactly if the comment does. -/
theorem exists_run_of_remark (ended : Option Nat) (front : List Remark) (r : Remark)
    (back : List Entry) :
    ∃ runs first others tail,
      runsFrom ended (front.map .remark ++ .remark r :: back) =
          runs ++ .remarks first others :: tail ∧
        place (runsFrom ended (front.map .remark ++ .remark r :: back)) front.length =
          runs.length ∧
        spans (runs.map Run.slot) = [] ∧ first ∈ front ++ [r] ∧
        (ended = some first.line ↔ ended = some r.line) := by
  induction front with
  | nil =>
      obtain ⟨others, tail, heq⟩ := pushRemark_eq_cons ended r (runsFrom ended back)
      refine ⟨[], r, others, tail, heq, ?_, rfl, by simp, Iff.rfl⟩
      rw [List.map_nil, List.nil_append, runsFrom, heq]
      rfl
  | cons p front ih =>
      obtain ⟨runs, first, others, tail, hruns, hplace, hspans, hfirst, hline⟩ := ih
      rw [hruns] at hplace
      rw [List.map_cons, List.cons_append, runsFrom, hruns, List.length_cons]
      rcases pushRemark_cases ended p (runs ++ .remarks first others :: tail) with
        ⟨next, more, rest, hhead, hjoins, heq⟩ | heq
      · -- the comment in front joins the first run, which is that of the comment or one before it
        rw [heq, place_same_run, ← hhead, hplace]
        cases runs with
        | nil =>
            cases hhead
            refine ⟨[], p, first :: others, tail, rfl, rfl, rfl, by simp, ?_⟩
            exact ⟨fun h => absurd h hjoins.1, fun h => absurd (hline.mpr h) hjoins.2.1⟩
        | cons run runs =>
            cases hhead
            rw [spans_map_slot_cons_remarks] at hspans
            refine ⟨.remarks p (next :: more) :: runs, first, others, tail, rfl, rfl, ?_,
              List.mem_cons_of_mem p hfirst, hline⟩
            rw [spans_map_slot_cons_remarks, hspans]
      · rw [heq, place_own_run, hplace]
        refine ⟨.remarks p [] :: runs, first, others, tail, rfl, rfl, ?_,
          List.mem_cons_of_mem p hfirst, hline⟩
        rw [spans_map_slot_cons_remarks, hspans]

/-! ## §B A comment behind its element -/

/-- **`keeper entries i`** — the number of the element that the comment at place `i` goes to, with its
group. -/
def keeper (entries : List Entry) (i : Nat) : Option Nat :=
  holder (slots entries) (place (runs entries) i)

/-- The group of a comment behind an element, with only comments between: it stands among the slots
behind that element and in front of the next one, and starts with one of these comments. -/
theorem exists_slot_behind (front : List Entry) (span : Span) (between : List Remark) (r : Remark)
    (back : List Entry) :
    let entries := front ++ .element span :: (between.map .remark ++ .remark r :: back)
    ∃ ahead c tail, slots entries = ahead ++ .cluster c :: tail ∧
      place (runs entries) (front.length + 1 + between.length) = ahead.length ∧
      spans ahead = elements front ++ [span] ∧ spans tail = elements back ∧
      (∃ first ∈ between ++ [r], c.line = first.line) ∧
      (c.line = span.lastLine ↔ r.line = span.lastLine) := by
  intro entries
  obtain ⟨inner, first, others, tail, hinner, hplace, hnone, hfirst, hline⟩ :=
    exists_run_of_remark (some span.lastLine) between r back
  have hruns : runs entries =
      runsFrom none front ++ .element span :: (inner ++ .remarks first others :: tail) := by
    rw [runs, runsFrom_append_element, hinner]
  refine ⟨(runsFrom none front).map Run.slot ++ .element span :: inner.map Run.slot,
    ⟨text ((first :: others).map Remark.text), first.line, (others.getLast?.getD first).lastLine⟩,
    tail.map Run.slot, ?_, ?_, ?_, ?_, ⟨first, hfirst, rfl⟩, ?_⟩
  · rw [slots_eq_map_slot, hruns, List.map_append, List.map_cons, List.map_append, List.map_cons,
      List.append_assoc, List.cons_append]
    rfl
  · have hskip := place_append (runsFrom none front)
      (.element span :: (inner ++ .remarks first others :: tail)) (1 + between.length)
    have helement := place_cons_add (.element span) (inner ++ .remarks first others :: tail)
      between.length
    have hone : (Run.element span).entries.length = 1 := rfl
    rw [flatMap_entries_runsFrom, ← Nat.add_assoc] at hskip
    rw [hone, ← hinner, hplace] at helement
    rw [hruns, hskip, ← hinner, helement]
    simp
  · have helement : spans (.element span :: inner.map Run.slot) =
        span :: spans (inner.map Run.slot) := rfl
    rw [spans_append, spans_map_slot, flatMap_entries_runsFrom, helement, hnone]
  · -- the runs behind the element have no other elements than those of `back`
    have hall := spans_map_slot (inner ++ .remarks first others :: tail)
    rw [← hinner, flatMap_entries_runsFrom, hinner, elements_append, elements_map_remark,
      elements_cons_remark, List.nil_append, List.map_append, spans_append, hnone,
      List.nil_append, spans_map_slot_cons_remarks] at hall
    exact hall
  · rw [Option.some.injEq, Option.some.injEq] at hline
    exact eq_comm.trans (hline.trans eq_comm)

/-- A comment behind an element, with only comments between, none of which starts below the line where
the element ends: it goes to the element if it starts on that line, and to the next one otherwise. -/
theorem keeper_behind (front : List Entry) (span : Span) (between : List Remark) (r : Remark)
    (back : List Entry) (h : ∀ s ∈ between ++ [r], s.line ≤ span.lastLine) :
    keeper (front ++ .element span :: (between.map .remark ++ .remark r :: back))
        (front.length + 1 + between.length) =
      if r.line = span.lastLine then some (elements front).length
      else (elements back).head?.map fun _ => (elements front).length + 1 := by
  obtain ⟨ahead, c, tail, hslots, hplace, hahead, htail, ⟨first, hfirst, hstart⟩, hline⟩ :=
    exists_slot_behind front span between r back
  have hle : c.line ≤ span.lastLine := hstart ▸ h first hfirst
  rw [keeper, hplace, hslots, holder_append_cons, hahead, htail, List.getLast?_concat,
    List.length_append, List.length_singleton]
  by_cases hown : r.line = span.lastLine
  · rw [if_pos hown, owner_of_staysBehind ⟨span, rfl, .inl (hline.mpr hown)⟩]
    rfl
  · have hnot : ¬StaysBehind (some span) (elements back).head? c := by
      have habove : c.line ≠ span.lastLine := fun heq => hown (hline.mp heq)
      rintro ⟨p, ⟨rfl⟩, hgroup⟩
      omega
    rw [if_neg hown, owner_of_not_staysBehind hnot, Option.map_map]
    rfl

end RollCall.Comment

namespace RollCall.Source

open RollCall.Comment

/-! ## §C The entries of a body -/

/-- The entries that nodes of a body give. -/
def bodyEntries (nodes : List Outline) : List Entry := (nodes.flatMap bodyItems).map BodyItem.entry

/-- The comments among nodes. -/
def remarksAmong (nodes : List Outline) : List Remark :=
  (nodes.filter fun c => c.kind == .comment).map remarkOf

theorem bodyEntries_append (front back : List Outline) :
    bodyEntries (front ++ back) = bodyEntries front ++ bodyEntries back := by
  simp [bodyEntries]

/-- An element counts as standing in front of the comments among its children. -/
theorem bodyItems_element {o : Outline} {kind : ElementKind} (h : elementKind? o = some kind) :
    bodyItems o = .element kind (spanOf o) ::
      (remarksAmong o.children).map BodyItem.remark := by
  have hkind : ¬(o.kind == .comment) = true := by
    intro hcomment
    simp [elementKind?, eq_of_beq hcomment] at h
  simp [bodyItems, hkind, h, remarksAmong]

theorem bodyEntries_cons_element {o : Outline} {kind : ElementKind} (h : elementKind? o = some kind)
    (back : List Outline) :
    bodyEntries (o :: back) =
      .element (spanOf o) :: ((remarksAmong o.children).map .remark ++ bodyEntries back) := by
  simp [bodyEntries, bodyItems_element h, BodyItem.entry]

theorem remarksAmong_append_cons (lead tail : List Outline) {c : Outline} (h : c.kind = .comment) :
    remarksAmong (lead ++ c :: tail) =
      remarksAmong lead ++ remarkOf c :: remarksAmong tail := by
  simp [remarksAmong, h]

/-! ### Elements by number -/

theorem elementsFrom_append (n : Nat) (front back : List BodyItem) :
    elementsFrom n (front ++ back) =
      elementsFrom n front ++
        elementsFrom (n + (elements (front.map BodyItem.entry)).length) back := by
  induction front generalizing n with
  | nil => rfl
  | cons item front ih =>
      cases item with
      | remark r => exact ih n
      | element kind span =>
          simp only [List.cons_append, elementsFrom, ih, List.map_cons, BodyItem.entry,
            elements_cons_element, List.length_cons]
          congr 3
          omega

theorem length_elementsFrom (n : Nat) (items : List BodyItem) :
    (elementsFrom n items).length = (elements (items.map BodyItem.entry)).length := by
  induction items generalizing n with
  | nil => rfl
  | cons item items ih =>
      cases item with
      | remark r => exact ih n
      | element kind span => exact congrArg (· + 1) (ih (n + 1))

/-- Elements are numbered by their places. -/
theorem number_of_elementsFrom {n i m : Nat} {items : List BodyItem} {kind : ElementKind}
    {span : Span} (h : (elementsFrom n items)[i]? = some (m, kind, span)) : m = n + i := by
  induction items generalizing n i with
  | nil => simp [elementsFrom] at h
  | cons item items ih =>
      cases item with
      | remark r => exact ih h
      | element other place =>
          cases i with
          | zero =>
              cases h
              rfl
          | succ i =>
              have hm := ih h
              omega

theorem comments_interfaceElements {body : Outline} {n : Nat} {e : Element}
    (h : (interfaceElements body)[n]? = some e) :
    e.comments = attached (assign 0 none (slots (bodyEntries body.children))) n := by
  rw [interfaceElements, attachComments, List.getElem?_map] at h
  obtain ⟨⟨m, kind, span⟩, hm, rfl⟩ := Option.map_eq_some_iff.mp h
  have hnumber := number_of_elementsFrom hm
  rw [Nat.zero_add] at hnumber
  rw [hnumber]
  rfl

/-! ## §D Comments between the tokens of an element -/

/-- **`InnerRemark body`** — a comment that is a child of an element of the body and lies in front of
the last token of it: neither the comment nor one of the element's comments in front of it starts
below the line where the element ends. -/
structure InnerRemark (body : Outline) where
  front : List Outline
  element : Outline
  back : List Outline
  body_eq : body.children = front ++ element :: back
  kind : ElementKind
  kind_eq : elementKind? element = some kind
  lead : List Outline
  remark : Outline
  tail : List Outline
  element_eq : element.children = lead ++ remark :: tail
  isComment : remark.kind = .comment
  inside : ∀ c ∈ lead ++ [remark], c.kind = .comment → c.line ≤ (spanOf element).lastLine

/-- Where the children of a node stand one behind the other, whatever has a token behind it starts no
deeper than the last token ends. -/
theorem line_le_of_ordered {o remark : Outline} {lead tail : List Outline}
    (hchildren : o.children = lead ++ remark :: tail) (hremark : remark.kind = .comment)
    (htoken : ∃ token ∈ tail, token.kind ≠ .comment)
    (hforward : ∀ c ∈ o.children, c.line ≤ c.lastLine)
    (hordered : o.children.Pairwise fun c d => c.lastLine ≤ d.line) {c : Outline}
    (hc : c ∈ lead ++ [remark]) : c.line ≤ (spanOf o).lastLine := by
  -- the last token of the node is the last one behind the comment
  have hlast : ∃ token ∈ tail, o.solid.getLast? = some token := by
    obtain ⟨token, hmem, hsolid⟩ := htoken
    have htail : token ∈ tail.filter fun c => c.kind != .comment :=
      List.mem_filter.mpr ⟨hmem, by simpa using hsolid⟩
    cases hlast : (tail.filter fun c => c.kind != .comment).getLast? with
    | none =>
        rw [List.getLast?_eq_none_iff.mp hlast] at htail
        cases htail
    | some last =>
        refine ⟨last, List.mem_of_mem_filter (List.mem_of_getLast? hlast), ?_⟩
        have hsplit : o.solid = lead.filter (fun c => c.kind != .comment) ++
            tail.filter fun c => c.kind != .comment := by
          simp [Outline.solid, hchildren, hremark]
        rw [hsplit, List.getLast?_append, hlast]
        rfl
  obtain ⟨token, hmem, hsolid⟩ := hlast
  have hsplit : o.children = (lead ++ [remark]) ++ tail := by
    rw [hchildren]
    simp
  rw [hsplit] at hordered hforward
  have hbelow : c.lastLine ≤ token.line := (List.pairwise_append.mp hordered).2.2 c hc token hmem
  have hstart : c.line ≤ c.lastLine := hforward c (List.mem_append_left _ hc)
  have hstop : token.line ≤ token.lastLine := hforward token (List.mem_append_right _ hmem)
  have hspan : (spanOf o).lastLine = token.lastLine := by
    rw [spanOf, hsolid]
    rfl
  omega

namespace InnerRemark

variable {body : Outline} (x : InnerRemark body)

/-- The place of the comment among the entries of the body. -/
def place : Nat := (bodyEntries x.front).length + 1 + (remarksAmong x.lead).length

/-- The number of the element that the comment is inside of. -/
def number : Nat := (elements (bodyEntries x.front)).length

/-- The elements that follow. -/
def later : List Span := elements (bodyEntries x.back)

theorem bodyEntries_eq :
    bodyEntries body.children = bodyEntries x.front ++ .element (spanOf x.element) ::
      ((remarksAmong x.lead).map .remark ++ .remark (remarkOf x.remark) ::
        ((remarksAmong x.tail).map .remark ++ bodyEntries x.back)) := by
  rw [x.body_eq, bodyEntries_append, bodyEntries_cons_element x.kind_eq, x.element_eq,
    remarksAmong_append_cons _ _ x.isComment, List.map_append, List.map_cons, List.append_assoc,
    List.cons_append]

theorem getElem?_place :
    (bodyEntries body.children)[x.place]? = some (.remark (remarkOf x.remark)) := by
  rw [x.bodyEntries_eq, place, Nat.add_assoc, List.getElem?_append_right (Nat.le_add_right _ _),
    Nat.add_sub_cancel_left, Nat.add_comm 1, List.getElem?_cons_succ]
  simp

/-- The group at the place of the comment is the one with the comment. -/
theorem exists_run :
    ∃ first others, (runs (bodyEntries body.children))[Comment.place
        (runs (bodyEntries body.children)) x.place]? = some (.remarks first others) ∧
      remarkOf x.remark ∈ first :: others := by
  have hentry := x.getElem?_place
  rw [← flatMap_entries_runsFrom none (bodyEntries body.children)] at hentry
  obtain ⟨run, hrun, hmem⟩ := exists_run_at_place hentry
  cases run with
  | remarks first others => exact ⟨first, others, hrun, by simpa [Run.entries] using hmem⟩
  | element span => simp [Run.entries] at hmem

theorem getElem?_number :
    ∃ e, (interfaceElements body)[x.number]? = some e ∧ e.kind = x.kind ∧
      e.span = spanOf x.element := by
  have hitems : body.children.flatMap bodyItems = x.front.flatMap bodyItems ++
      (bodyItems x.element ++ x.back.flatMap bodyItems) := by
    rw [x.body_eq, List.flatMap_append, List.flatMap_cons]
  have hhere : bodyItems x.element = .element x.kind (spanOf x.element) ::
      (remarksAmong x.element.children).map BodyItem.remark := bodyItems_element x.kind_eq
  have hnumber : x.number = (elementsFrom 0 (x.front.flatMap bodyItems)).length :=
    (length_elementsFrom 0 _).symm
  rw [interfaceElements, attachComments, List.getElem?_map, hitems, elementsFrom_append, hhere,
    hnumber, List.getElem?_append_right (Nat.le_refl _), Nat.sub_self]
  exact ⟨_, rfl, rfl, rfl⟩

/-- The comment goes to its element from the last line of it, and to the next one from above. -/
theorem keeper_eq :
    keeper (bodyEntries body.children) x.place =
      if x.remark.line = (spanOf x.element).lastLine then some x.number
      else x.later.head?.map fun _ => x.number + 1 := by
  have hlines : ∀ r ∈ remarksAmong x.lead ++ [remarkOf x.remark],
      r.line ≤ (spanOf x.element).lastLine := by
    intro r hr
    rcases List.mem_append.mp hr with hr | hr
    · obtain ⟨c, hc, rfl⟩ := List.mem_map.mp hr
      obtain ⟨hmem, hcomment⟩ := List.mem_filter.mp hc
      exact x.inside c (List.mem_append_left _ hmem) (eq_of_beq hcomment)
    · rw [List.mem_singleton.mp hr]
      exact x.inside x.remark (List.mem_append_right _ (List.mem_singleton_self _)) x.isComment
  rw [x.bodyEntries_eq, place, keeper_behind _ _ _ _ _ hlines, elements_append, elements_map_remark]
  rfl

end InnerRemark

/-- **A comment inside an element stays with it only on its last line.** The comment has a place among
the entries of the body and stands in the group at that place, its element is known by its number,
and the comments of every element are the groups that it holds. The comment goes to its own element
or to none exactly if it starts on the line where the element ends or no element follows. In all other
cases it becomes a comment of the next element. -/
theorem keeper_innerRemark {body : Outline} (x : InnerRemark body) :
    let entries := bodyEntries body.children
    entries[x.place]? = some (.remark (remarkOf x.remark)) ∧
      (∃ first others, (runs entries)[place (runs entries) x.place]? = some (.remarks first others) ∧
        remarkOf x.remark ∈ first :: others) ∧
      (∃ e, (interfaceElements body)[x.number]? = some e ∧ e.kind = x.kind ∧
        e.span = spanOf x.element) ∧
      (∀ n e, (interfaceElements body)[n]? = some e →
        e.comments = (List.range (slots entries).length).filterMap fun i =>
          if holder (slots entries) i = some n then clusterAt? (slots entries) i else none) ∧
      (keeper entries x.place = some x.number ∨ keeper entries x.place = none ↔
        x.remark.line = (spanOf x.element).lastLine ∨ x.later = []) ∧
      (keeper entries x.place = some x.number ↔
        x.remark.line = (spanOf x.element).lastLine) ∧
      (keeper entries x.place = some (x.number + 1) ↔
        x.remark.line ≠ (spanOf x.element).lastLine ∧ x.later ≠ []) := by
  intro entries
  refine ⟨x.getElem?_place, x.exists_run, x.getElem?_number, ?_, ?_⟩
  · intro n e he
    rw [comments_interfaceElements he, attached_assign]
  · have hkeeper : keeper entries x.place = _ := x.keeper_eq
    rw [hkeeper]
    by_cases hline : x.remark.line = (spanOf x.element).lastLine
    · simp [hline]
    · cases hlater : x.later with
      | nil => simp [hline]
      | cons span others => simp [hline]

/-- A file with a comment in front of a result that is written on several lines. -/
def walletSource : List Char :=
  ("package api\ntype Wallet interface \x7b\n\tSign(msg string) /* signature and key */ (\n" ++
    "\t\tstring,\n\t\terror,\n\t)\n\tLock() error\n\x7d\n").toList

/-- The interface of the file. -/
def walletBody : Outline :=
  ((Outline.ofSource walletSource).select (· == .interfaceType) []).headD
    (Outline.ofChildren .fault none [])

/-- The first method of the interface. -/
def walletSign : Outline := walletBody.children.getD 2 walletBody

theorem eq_take_append_getD_drop {α : Type} {l : List α} {i : Nat} (h : i < l.length) (x : α) :
    l = l.take i ++ l.getD i x :: l.drop (i + 1) := by
  rw [List.getD_eq_getElem?_getD, List.getElem?_eq_getElem h, Option.getD_some,
    ← List.drop_eq_getElem_cons h, List.take_append_drop]

theorem walletSign_wellPlaced :
    2 < walletBody.children.length ∧ 2 < walletSign.children.length ∧
      (elementKind? walletSign).isSome = true ∧
      (walletSign.children.getD 2 walletSign).kind = .comment ∧
      (∃ token ∈ walletSign.children.drop 3, token.kind ≠ .comment) ∧
      (∀ c ∈ walletSign.children, c.line ≤ c.lastLine) ∧
      walletSign.children.Pairwise fun c d => c.lastLine ≤ d.line := by
  decide +kernel

/-- The comment in it. -/
def walletRemark : InnerRemark walletBody where
  front := walletBody.children.take 2
  element := walletSign
  back := walletBody.children.drop 3
  body_eq := eq_take_append_getD_drop walletSign_wellPlaced.1 walletBody
  kind := (elementKind? walletSign).get walletSign_wellPlaced.2.2.1
  kind_eq := (Option.some_get _).symm
  lead := walletSign.children.take 2
  remark := walletSign.children.getD 2 walletSign
  tail := walletSign.children.drop 3
  element_eq := eq_take_append_getD_drop walletSign_wellPlaced.2.1 walletSign
  isComment := walletSign_wellPlaced.2.2.2.1
  inside := by
    obtain ⟨-, hlength, -, hcomment, htoken, hforward, hordered⟩ := walletSign_wellPlaced
    intro c hc _
    exact line_le_of_ordered (eq_take_append_getD_drop hlength walletSign) hcomment htoken hforward
      hordered hc

/-- The comment in the first method is the comment of the second. -/
theorem keeper_walletRemark :
    walletRemark.number = 0 ∧
      keeper (bodyEntries walletBody.children) walletRemark.place = some 1 ∧
      (interfaceElements walletBody).map Element.comments =
        [[], [⟨" signature and key\n", 3, 3⟩]] := by
  have hlines : walletRemark.number = 0 ∧
      walletRemark.remark.line ≠ (spanOf walletRemark.element).lastLine ∧
      walletRemark.later ≠ [] ∧
      (interfaceElements walletBody).map Element.comments =
        [[], [⟨" signature and key\n", 3, 3⟩]] := by
    decide +kernel
  obtain ⟨hnumber, hline, hlater, hcomments⟩ := hlines
  obtain ⟨-, -, -, -, -, -, hnext⟩ := keeper_innerRemark walletRemark
  rw [hnumber] at hnext
  exact ⟨hnumber, hnext.mpr ⟨hline, hlater⟩, hcomments⟩

end RollCall.Source
