import Mathlib.Data.List.Chain
import RollCall.Comment.Attachment

/-!
# RollCall.Proofs.Comment.Owners — every group of comments goes to a neighbour, or nowhere

`assign` goes along the slots of a body once, with the number of elements met and the last of them.
What it does with a group is the same as looking from the group's place in both directions: `holder`
says for every place, from the elements in front of it and behind it alone, which element a group
there goes to. Elements are known by their numbers, so the nearest one in front of a place with `n`
elements before it is number `n - 1`, and the nearest one behind is number `n`.

A body that is laid out block by block, each element with its own groups around it and a blank line
in front, is taken apart into these blocks again.
-/

namespace RollCall.Comment

/-! ## §A Places -/

/-- The span of a slot that is an element. -/
def Slot.span? : Slot → Option Span
  | .cluster _ => none
  | .element span => some span

/-- The group that a slot is. -/
def Slot.cluster? : Slot → Option Cluster
  | .cluster c => some c
  | .element _ => none

/-- The elements among slots, in order. -/
def spans (ss : List Slot) : List Span := ss.filterMap Slot.span?

/-- The group at a place. -/
def clusterAt? (ss : List Slot) (i : Nat) : Option Cluster := ss[i]?.bind Slot.cluster?

/-- The number of the neighbour on a side, for a group with that many elements in front. -/
def Side.number (count : Nat) : Side → Nat
  | .before => count - 1
  | .after => count

/-- **`holder ss i`** — the number of the element that the group at place `i` goes to. -/
def holder (ss : List Slot) (i : Nat) : Option Nat :=
  (clusterAt? ss i).bind fun c =>
    (owner (spans (ss.take i)).getLast? (spans (ss.drop (i + 1))).head? c).map
      (Side.number (spans (ss.take i)).length)

/-- **`StaysBehind before after c`** — the group `c` belongs to the element in front of it: it starts
on the line where that one ends, or on the next line with a blank line or nothing behind it. -/
def StaysBehind (before after : Option Span) (c : Cluster) : Prop :=
  ∃ p, before = some p ∧ (c.line = p.lastLine ∨
    c.line = p.lastLine + 1 ∧ ∀ n, after = some n → c.lastLine + 2 ≤ n.line)

/-! ## §B The rule for one group -/

section Rule

variable {before after : Option Span} {c : Cluster}

theorem owner_of_staysBehind (h : StaysBehind before after c) :
    owner before after c = some .before := by
  obtain ⟨p, rfl, hline | ⟨hline, hbelow⟩⟩ := h
  · cases after <;> simp [owner, hline]
  · cases after with
    | none => simp [owner, hline]
    | some n =>
        have hblank := hbelow n rfl
        have hgap : c.lastLine + 1 < n.line := by omega
        simp [owner, hline, hgap]

theorem owner_of_not_staysBehind (h : ¬StaysBehind before after c) :
    owner before after c = after.map fun _ => .after := by
  cases before with
  | none => cases after <;> rfl
  | some p =>
      have hline : c.line ≠ p.lastLine := fun heq => h ⟨p, rfl, .inl heq⟩
      cases after with
      | none =>
          have hnext : c.line ≠ p.lastLine + 1 := fun heq => h ⟨p, rfl, .inr ⟨heq, by simp⟩⟩
          simp [owner, hline, hnext]
      | some n =>
          have hnext : ¬(c.line = p.lastLine + 1 ∧ c.lastLine + 1 < n.line) := by
            rintro ⟨heq, hgap⟩
            refine h ⟨p, rfl, .inr ⟨heq, ?_⟩⟩
            rintro m ⟨rfl⟩
            omega
          simp only [owner, if_neg hline, if_neg hnext, Option.map_some]

end Rule

/-! ## §C One walk over the slots -/

theorem nextElement_eq_head? (ss : List Slot) : nextElement ss = (spans ss).head? := by
  induction ss with
  | nil => rfl
  | cons slot ss ih =>
      cases slot with
      | cluster c => exact ih
      | element span => rfl

theorem spans_append (front back : List Slot) : spans (front ++ back) = spans front ++ spans back :=
  List.filterMap_append

theorem clusterAt?_append_cons (front back : List Slot) (slot : Slot) :
    clusterAt? (front ++ slot :: back) front.length = slot.cluster? := by
  simp [clusterAt?]

theorem holder_append_cons (front back : List Slot) (c : Cluster) :
    holder (front ++ .cluster c :: back) front.length =
      (owner (spans front).getLast? (spans back).head? c).map
        (Side.number (spans front).length) := by
  rw [holder, clusterAt?_append_cons]
  simp [Slot.cluster?]

/-- A group at a place with the number of the element it goes to, if it goes to one. -/
def delivery? (ss : List Slot) (i : Nat) : Option (Nat × Cluster) :=
  (holder ss i).bind fun n => (clusterAt? ss i).map fun c => (n, c)

theorem delivery?_element (front back : List Slot) (span : Span) :
    delivery? (front ++ .element span :: back) front.length = none := by
  rw [delivery?, clusterAt?_append_cons]
  simp [Slot.cluster?]

theorem delivery?_cluster (front back : List Slot) (c : Cluster) :
    delivery? (front ++ .cluster c :: back) front.length =
      (owner (spans front).getLast? (nextElement back) c).map fun side =>
        (side.number (spans front).length, c) := by
  rw [delivery?, clusterAt?_append_cons, holder_append_cons, nextElement_eq_head?]
  cases owner (spans front).getLast? (spans back).head? c <;> rfl

/-- What the walk does behind `front` is what every place from there on asks for. -/
theorem assign_eq_filterMap_delivery? (front rest : List Slot) :
    assign (spans front).length (spans front).getLast? rest =
      (List.range' front.length rest.length).filterMap (delivery? (front ++ rest)) := by
  induction rest generalizing front with
  | nil => rfl
  | cons slot rest ih =>
      have hnext := ih (front ++ [slot])
      rw [spans_append, List.length_append, List.length_append, List.append_assoc,
        List.singleton_append, List.length_singleton] at hnext
      rw [List.length_cons, List.range'_succ]
      cases slot with
      | element span =>
          have hspans : spans [.element span] = [span] := rfl
          rw [hspans, List.length_singleton, List.getLast?_concat] at hnext
          rw [List.filterMap_cons_none (delivery?_element front rest span), assign, hnext]
      | cluster c =>
          have hspans : spans [.cluster c] = [] := rfl
          rw [hspans, List.length_nil, Nat.add_zero, List.append_nil] at hnext
          have hhere := delivery?_cluster front rest c
          rw [assign]
          split <;> rename_i hside <;> rw [hside] at hhere
          · rw [List.filterMap_cons_some hhere, hnext]
            rfl
          · rw [List.filterMap_cons_some hhere, hnext]
            rfl
          · rw [List.filterMap_cons_none hhere, hnext]

theorem attached_filterMap_delivery? (ss : List Slot) (places : List Nat) (n : Nat) :
    attached (places.filterMap (delivery? ss)) n =
      places.filterMap fun i => if holder ss i = some n then clusterAt? ss i else none := by
  rw [attached, List.filter_filterMap, List.map_filterMap]
  apply List.filterMap_congr
  intro i _
  rw [delivery?]
  cases holder ss i with
  | none => rfl
  | some m =>
      cases clusterAt? ss i with
      | none => simp
      | some c => by_cases hm : m = n <;> simp [hm]

/-- The groups of an element are those of the places it holds, in source order. -/
theorem attached_assign (ss : List Slot) (n : Nat) :
    attached (assign 0 none ss) n =
      (List.range ss.length).filterMap fun i =>
        if holder ss i = some n then clusterAt? ss i else none := by
  have hwalk := assign_eq_filterMap_delivery? [] ss
  have hstart : assign (spans []).length (spans []).getLast? ss = assign 0 none ss := rfl
  rw [hstart, List.length_nil, List.nil_append, ← List.range_eq_range'] at hwalk
  rw [hwalk, attached_filterMap_delivery?]

/-! ## §D The two neighbours -/

section Neighbours

variable {front back : List Slot} {c : Cluster}

/-- A group goes to the element in front, to the one behind, or nowhere. -/
theorem holder_cases (front : List Slot) (c : Cluster) (back : List Slot) :
    let stays := StaysBehind (spans front).getLast? (spans back).head? c
    let held := holder (front ++ .cluster c :: back) front.length
    (stays ∧ ∃ n, n + 1 = (spans front).length ∧ held = some n) ∨
      (¬stays ∧ spans back ≠ [] ∧ held = some (spans front).length) ∨
      (¬stays ∧ spans back = [] ∧ held = none) := by
  intro stays held
  have hheld : held = _ := holder_append_cons front back c
  by_cases h : stays
  · left
    have hpos : 0 < (spans front).length := by
      obtain ⟨p, hp, -⟩ := h
      exact List.length_pos_of_mem (List.mem_of_getLast? hp)
    refine ⟨h, (spans front).length - 1, by omega, ?_⟩
    rw [hheld, owner_of_staysBehind h]
    rfl
  · right
    rw [owner_of_not_staysBehind h] at hheld
    cases hback : spans back with
    | nil =>
        rw [hback] at hheld
        exact .inr ⟨h, rfl, hheld⟩
    | cons span others =>
        rw [hback] at hheld
        exact .inl ⟨h, List.cons_ne_nil span others, hheld⟩

/-- The rule, said for each of the three outcomes. -/
theorem holder_neighbours (front : List Slot) (c : Cluster) (back : List Slot) :
    let stays := StaysBehind (spans front).getLast? (spans back).head? c
    let held := holder (front ++ .cluster c :: back) front.length
    (∀ n, held = some n →
        n + 1 = (spans front).length ∨ n = (spans front).length ∧ spans back ≠ []) ∧
      ((∃ n, n + 1 = (spans front).length ∧ held = some n) ↔ stays) ∧
      (held = some (spans front).length ↔ ¬stays ∧ spans back ≠ []) ∧
      (held = none ↔ ¬stays ∧ spans back = []) := by
  intro stays held
  -- from here on only the three outcomes count
  have hcases := holder_cases front c back
  change (stays ∧ ∃ n, n + 1 = (spans front).length ∧ held = some n) ∨
    (¬stays ∧ spans back ≠ [] ∧ held = some (spans front).length) ∨
    (¬stays ∧ spans back = [] ∧ held = none) at hcases
  generalize (spans front).length = count at *
  rcases hcases with ⟨hstays, n, rfl, hheld⟩ | ⟨hstays, hback, hheld⟩ | ⟨hstays, hback, hheld⟩
  · simp [hstays, hheld]
  · simp [hstays, hheld, hback]
  · simp [hstays, hheld, hback]

end Neighbours

/-! ## §E Bodies laid out in blocks -/

/-- **`Block`** — an element with the groups that lead it in, a blank line between any two of them,
and the groups behind it that start on the line where it ends. -/
structure Block where
  leading : List Cluster
  span : Span
  trailing : List Cluster
  forward : ∀ c ∈ leading ++ trailing, c.line ≤ c.lastLine
  spaced : leading.IsChain fun c d => c.lastLine + 2 ≤ d.line
  level : ∀ c ∈ trailing, c.line = span.lastLine

namespace Block

/-- The slots of a block. -/
def slots (b : Block) : List Slot :=
  b.leading.map .cluster ++ .element b.span :: b.trailing.map .cluster

/-- The groups of a block, which are to be those of its element. -/
def groups (b : Block) : List Cluster := b.leading ++ b.trailing

/-- The line on which a block ends. -/
def lastLine (b : Block) : Nat := (b.trailing.getLast?.map Cluster.lastLine).getD b.span.lastLine

/-- The groups that lead in the second of two blocks have a blank line in front. -/
def Above (a b : Block) : Prop := ∀ c, b.leading.head? = some c → a.lastLine + 2 ≤ c.line

theorem span_lastLine_le (b : Block) : b.span.lastLine ≤ b.lastLine := by
  rw [lastLine]
  cases hlast : b.trailing.getLast? with
  | none => exact Nat.le_refl _
  | some c =>
      have hmem := List.mem_of_getLast? hlast
      rw [← b.level c hmem]
      exact b.forward c (List.mem_append_right _ hmem)

/-- Groups with blank lines between them are all as far down as the first of them. -/
theorem le_line_of_spaced {line : Nat} {cs : List Cluster}
    (hforward : ∀ c ∈ cs, c.line ≤ c.lastLine)
    (hspaced : cs.IsChain fun c d => c.lastLine + 2 ≤ d.line)
    (hhead : ∀ c, cs.head? = some c → line ≤ c.line) : ∀ c ∈ cs, line ≤ c.line := by
  induction cs with
  | nil => simp
  | cons d cs ih =>
      obtain ⟨hnext, hrest⟩ := List.isChain_cons.mp hspaced
      have hd : line ≤ d.line := hhead d rfl
      have hends : d.line ≤ d.lastLine := hforward d List.mem_cons_self
      intro c hc
      rcases List.mem_cons.mp hc with rfl | hc
      · exact hd
      · refine ih (fun e he => hforward e (List.mem_cons_of_mem d he)) hrest ?_ c hc
        intro e he
        have hgap := hnext e he
        omega

theorem Above.not_staysBehind {a b : Block} (h : Above a b) {after : Option Span} {c : Cluster}
    (hc : c ∈ b.leading) : ¬StaysBehind (some a.span) after c := by
  have hfar : a.lastLine + 2 ≤ c.line :=
    le_line_of_spaced (fun d hd => b.forward d (List.mem_append_left _ hd)) b.spaced h c hc
  have hends := a.span_lastLine_le
  rintro ⟨p, hp, hline⟩
  cases hp
  omega

end Block

theorem assign_leading {count : Nat} {before : Option Span} {cs : List Cluster} (span : Span)
    (rest : List Slot) (h : ∀ c ∈ cs, ¬StaysBehind before (some span) c) :
    assign count before (cs.map .cluster ++ .element span :: rest) =
      cs.map (fun c => (count, c)) ++ assign (count + 1) (some span) rest := by
  induction cs with
  | nil => rfl
  | cons c cs ih =>
      have hnext : nextElement (cs.map Slot.cluster ++ .element span :: rest) = some span := by
        simp [nextElement_eq_head?, spans, List.filterMap_map, Function.comp_def, Slot.span?]
      have howner := owner_of_not_staysBehind (h c List.mem_cons_self)
      rw [List.map_cons, List.cons_append, assign, hnext, howner, List.map_cons, List.cons_append]
      exact congrArg _ (ih fun d hd => h d (List.mem_cons_of_mem c hd))

theorem assign_trailing {count : Nat} {span : Span} {cs : List Cluster} (rest : List Slot)
    (h : ∀ c ∈ cs, c.line = span.lastLine) :
    assign (count + 1) (some span) (cs.map .cluster ++ rest) =
      cs.map (fun c => (count, c)) ++ assign (count + 1) (some span) rest := by
  induction cs with
  | nil => rfl
  | cons c cs ih =>
      have hstays (after : Option Span) : StaysBehind (some span) after c :=
        ⟨span, rfl, .inl (h c List.mem_cons_self)⟩
      rw [List.map_cons, List.cons_append, assign, owner_of_staysBehind (hstays _), List.map_cons,
        List.cons_append]
      exact congrArg _ (ih fun d hd => h d (List.mem_cons_of_mem c hd))

theorem assign_block {count : Nat} {before : Option Span} (b : Block) (rest : List Slot)
    (h : ∀ c ∈ b.leading, ¬StaysBehind before (some b.span) c) :
    assign count before (b.slots ++ rest) =
      b.groups.map (fun c => (count, c)) ++ assign (count + 1) (some b.span) rest := by
  rw [Block.slots, List.append_assoc, List.cons_append, assign_leading b.span _ h,
    assign_trailing rest b.level, Block.groups, List.map_append, List.append_assoc]

theorem attached_append (xs ys : List (Nat × Cluster)) (n : Nat) :
    attached (xs ++ ys) n = attached xs n ++ attached ys n := by
  simp [attached]

theorem attached_map (cs : List Cluster) (m n : Nat) :
    attached (cs.map fun c => (m, c)) n = if m = n then cs else [] := by
  by_cases h : m = n <;> simp [attached, List.filter_map, Function.comp_def, h]

/-- Behind `count` elements, the last of which is `before`, the blocks of a body give their own groups
to their own elements. -/
theorem attached_assign_blocks {count : Nat} {before : Option Span} {blocks : List Block}
    (habove : blocks.IsChain Block.Above)
    (hfirst : ∀ b c, blocks.head? = some b → c ∈ b.leading →
      ¬StaysBehind before (some b.span) c) (n : Nat) :
    attached (assign count before (blocks.flatMap Block.slots)) n =
      if n < count then [] else (blocks[n - count]?.map Block.groups).getD [] := by
  induction blocks generalizing count before with
  | nil => simp [assign, attached]
  | cons b blocks ih =>
      obtain ⟨hnext, hrest⟩ := List.isChain_cons.mp habove
      have hbelow : ∀ d c, blocks.head? = some d → c ∈ d.leading →
          ¬StaysBehind (some b.span) (some d.span) c :=
        fun d c hd hc => (hnext d hd).not_staysBehind hc
      rw [List.flatMap_cons, assign_block b _ fun c hc => hfirst b c rfl hc, attached_append,
        attached_map, ih hrest hbelow]
      rcases Nat.lt_trichotomy n count with hlt | rfl | hgt
      · simp [hlt, hlt.ne', Nat.lt_succ_of_lt hlt]
      · simp
      · have hsub : n - count = n - (count + 1) + 1 := by omega
        have hlater : ¬n < count + 1 := by omega
        rw [if_neg hgt.ne, if_neg hlater, if_neg hgt.not_gt, hsub, List.getElem?_cons_succ,
          List.nil_append]

/-- **Comments go to their neighbours.** A group goes to one element at most, which is the nearest one
in front or the nearest one behind. It goes to the one in front exactly if it stays behind it;
otherwise to the one behind it, and nowhere exactly if there is none. The groups of an element are
those that go to it, in source order.

So in a body of blocks, each with a blank line in front of the groups that lead it in, every element
has the groups of its own block. -/
theorem attached_neighbours :
    (∀ ss : List Slot,
      (∀ n, attached (assign 0 none ss) n =
        (List.range ss.length).filterMap fun i =>
          if holder ss i = some n then clusterAt? ss i else none) ∧
      ∀ front c back, ss = front ++ .cluster c :: back →
        (∀ n, holder ss front.length = some n →
          n + 1 = (spans front).length ∨ n = (spans front).length ∧ spans back ≠ []) ∧
        ((∃ n, n + 1 = (spans front).length ∧ holder ss front.length = some n) ↔
          StaysBehind (spans front).getLast? (spans back).head? c) ∧
        (holder ss front.length = some (spans front).length ↔
          ¬StaysBehind (spans front).getLast? (spans back).head? c ∧ spans back ≠ []) ∧
        (holder ss front.length = none ↔
          ¬StaysBehind (spans front).getLast? (spans back).head? c ∧ spans back = [])) ∧
    ∀ blocks : List Block, blocks.IsChain Block.Above → ∀ n b, blocks[n]? = some b →
      attached (assign 0 none (blocks.flatMap Block.slots)) n = b.leading ++ b.trailing := by
  constructor
  · intro ss
    refine ⟨attached_assign ss, ?_⟩
    rintro front c back rfl
    exact holder_neighbours front c back
  · intro blocks habove n b hb
    have hfirst : ∀ b c, blocks.head? = some b → c ∈ b.leading →
        ¬StaysBehind none (some b.span) c := by
      rintro b c - - ⟨p, hp, -⟩
      cases hp
    rw [attached_assign_blocks habove hfirst]
    simp [hb, Block.groups]

/-- Two methods: the first with a marker, its own comment above and one behind it, the second with a
comment above. -/
def listBlocks : List Block :=
  [{ leading := [⟨"MethodGroup: Log\n", 2, 3⟩, ⟨"List lists\n", 5, 5⟩]
     span := ⟨6, 6⟩
     trailing := [⟨"paths\n", 6, 6⟩]
     forward := by simp
     spaced := by simp
     level := by simp },
   { leading := [⟨"Set sets\n", 8, 9⟩]
     span := ⟨10, 12⟩
     trailing := []
     forward := by simp
     spaced := by simp
     level := by simp }]

/-- Both have their own groups, and the one behind the first method goes to the method in front. -/
theorem attached_listBlocks :
    attached (assign 0 none (listBlocks.flatMap Block.slots)) 0 =
        [⟨"MethodGroup: Log\n", 2, 3⟩, ⟨"List lists\n", 5, 5⟩, ⟨"paths\n", 6, 6⟩] ∧
      attached (assign 0 none (listBlocks.flatMap Block.slots)) 1 = [⟨"Set sets\n", 8, 9⟩] ∧
      ∃ n, n + 1 = 1 ∧ holder (listBlocks.flatMap Block.slots) 3 = some n := by
  obtain ⟨hslots, hblocks⟩ := attached_neighbours
  have habove : listBlocks.IsChain Block.Above := by
    refine List.isChain_cons_cons.mpr ⟨?_, List.isChain_singleton _⟩
    rintro c ⟨rfl⟩
    decide
  refine ⟨hblocks listBlocks habove 0 _ rfl, hblocks listBlocks habove 1 _ rfl, ?_⟩
  obtain ⟨-, hrule⟩ := hslots (listBlocks.flatMap Block.slots)
  have hplace := hrule ((listBlocks.flatMap Block.slots).take 3) _ _ rfl
  exact hplace.2.1.mpr ⟨⟨6, 6⟩, rfl, .inl rfl⟩

end RollCall.Comment
