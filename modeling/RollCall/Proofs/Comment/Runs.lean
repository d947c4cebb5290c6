import Mathlib.Data.List.Chain
import RollCall.Comment.Attachment

/-!
# RollCall.Proofs.Comment.Runs — the groups of comments are the runs of a body

`slots` goes along the entries of a body with the comments gathered so far and the line where the
last element ended. `runs` cuts the same entries into stretches from the other end: an element is a
stretch of its own, and a comment goes to the stretch behind it exactly if it joins the first comment
there. The slots are those of the runs, one for each and in order, because the comments gathered at
any time are the start of a run: each of them joins the next.

Whether two comments that stand next to each other are in one run depends on the two and on the
nearest element in front, so what a group is can be read off without following the loop.
-/

namespace RollCall.Comment

/-! ## §A Runs -/

/-- **`Run`** — consecutive entries that make one slot: some comments, at least one, or an element. -/
inductive Run where
  | remarks (first : Remark) (others : List Remark)
  | element (span : Span)
deriving DecidableEq, Repr

namespace Run

/-- The entries of a run. -/
def entries : Run → List Entry
  | .remarks first others => .remark first :: others.map .remark
  | .element span => [.element span]

/-- The slot of a run. A group has the text of all of its comments, in order, the first line of its
first and the last line of its last one. -/
def slot : Run → Slot
  | .remarks first others =>
    .cluster ⟨text ((first :: others).map Remark.text), first.line,
      (others.getLast?.getD first).lastLine⟩
  | .element span => .element span

end Run

/-- **`Joins ended a b`** — the comment `b` behind the comment `a` is in one group with it, where the
nearest element in front ended on the line `ended`. -/
def Joins (ended : Option Nat) (a b : Remark) : Prop :=
  ended ≠ some a.line ∧ ended ≠ some b.line ∧ b.line ≤ a.lastLine + 1

instance (ended : Option Nat) (a b : Remark) : Decidable (Joins ended a b) :=
  inferInstanceAs (Decidable (_ ∧ _ ∧ _))

/-- Puts a comment in front of runs: into the first one, or as a run of its own. -/
def pushRemark (ended : Option Nat) (r : Remark) : List Run → List Run
  | .remarks first others :: runs =>
    if Joins ended r first then .remarks r (first :: others) :: runs
    else .remarks r [] :: .remarks first others :: runs
  | runs => .remarks r [] :: runs

/-- The runs of entries behind an element that ended on the given line. -/
def runsFrom : Option Nat → List Entry → List Run
  | _, [] => []
  | ended, .remark r :: entries => pushRemark ended r (runsFrom ended entries)
  | _, .element span :: entries => .element span :: runsFrom (some span.lastLine) entries

/-- The runs of a body. -/
def runs (entries : List Entry) : List Run := runsFrom none entries

/-- The number of the run that the entry with the given number is in. -/
def place : List Run → Nat → Nat
  | [], _ => 0
  | run :: runs, i =>
    if i < run.entries.length then 0 else place runs (i - run.entries.length) + 1

/-- The span of an entry that is an element. -/
def Entry.span? : Entry → Option Span
  | .remark _ => none
  | .element span => some span

/-- The elements among entries, in order. -/
def elements (entries : List Entry) : List Span := entries.filterMap Entry.span?

/-- The line on which the last element among entries ends. -/
def elementEnd (entries : List Entry) : Option Nat :=
  (elements entries).getLast?.map Span.lastLine

/-! ## §B A comment in front of runs -/

section Push

variable {ended : Option Nat} {r first : Remark} {others : List Remark} {runs tail : List Run}

theorem pushRemark_of_joins (h : Joins ended r first) :
    pushRemark ended r (.remarks first others :: tail) = .remarks r (first :: others) :: tail := by
  simp [pushRemark, h]

theorem pushRemark_of_not_joins
    (h : ∀ first others tail, runs = .remarks first others :: tail → ¬Joins ended r first) :
    pushRemark ended r runs = .remarks r [] :: runs := by
  unfold pushRemark
  split
  · rename_i first others tail
    exact if_neg (h first others tail rfl)
  · rfl

/-- What becomes of a comment in front of runs. -/
theorem pushRemark_cases (ended : Option Nat) (r : Remark) (runs : List Run) :
    (∃ first others tail, runs = .remarks first others :: tail ∧ Joins ended r first ∧
      pushRemark ended r runs = .remarks r (first :: others) :: tail) ∨
    pushRemark ended r runs = .remarks r [] :: runs := by
  by_cases h : ∃ first others tail, runs = .remarks first others :: tail ∧ Joins ended r first
  · obtain ⟨first, others, tail, rfl, hjoins⟩ := h
    exact .inl ⟨first, others, tail, rfl, hjoins, pushRemark_of_joins hjoins⟩
  · right
    apply pushRemark_of_not_joins
    intro first others tail hruns hjoins
    exact h ⟨first, others, tail, hruns, hjoins⟩

theorem pushRemark_eq_cons (ended : Option Nat) (r : Remark) (runs : List Run) :
    ∃ others tail, pushRemark ended r runs = .remarks r others :: tail := by
  rcases pushRemark_cases ended r runs with ⟨_, _, _, -, -, heq⟩ | heq
  · exact ⟨_, _, heq⟩
  · exact ⟨_, _, heq⟩

theorem flatMap_entries_pushRemark (ended : Option Nat) (r : Remark) (runs : List Run) :
    (pushRemark ended r runs).flatMap Run.entries = .remark r :: runs.flatMap Run.entries := by
  rcases pushRemark_cases ended r runs with ⟨_, _, _, rfl, -, heq⟩ | heq
  · simp [heq, Run.entries]
  · simp [heq, Run.entries]

/-- Runs that start with comments come from entries that start with the first of these. -/
theorem head?_of_runsFrom {entries : List Entry}
    (h : runsFrom ended entries = .remarks first others :: tail) :
    entries.head? = some (.remark first) := by
  cases entries with
  | nil => simp [runsFrom] at h
  | cons entry entries =>
      cases entry with
      | remark r =>
          obtain ⟨_, _, heq⟩ := pushRemark_eq_cons ended r (runsFrom ended entries)
          rw [runsFrom, heq] at h
          cases h
          rfl
      | element span => simp [runsFrom] at h

end Push

/-! ## §C Nothing is lost -/

theorem flatMap_entries_runsFrom (ended : Option Nat) (entries : List Entry) :
    (runsFrom ended entries).flatMap Run.entries = entries := by
  induction entries generalizing ended with
  | nil => rfl
  | cons entry entries ih =>
      cases entry with
      | remark r => rw [runsFrom, flatMap_entries_pushRemark, ih]
      | element span => simp [runsFrom, Run.entries, ih]

/-! ## §D The slots are those of the runs -/

/-- The run of comments, if there are any. -/
def stretch : List Remark → List Run
  | [] => []
  | first :: others => [.remarks first others]

theorem clusterOf_eq_map_stretch (remarks : List Remark) :
    clusterOf remarks = (stretch remarks).map Run.slot := by
  cases remarks with
  | nil => rfl
  | cons first others => simp [clusterOf, stretch, Run.slot, List.getLast?_cons]

/-- Comments each of which joins the next are a run where the last does not join what follows. -/
theorem runsFrom_stretch {ended : Option Nat} {remarks : List Remark} {entries : List Entry}
    (hchain : remarks.IsChain (Joins ended))
    (hend : ∀ a b, remarks.getLast? = some a → entries.head? = some (.remark b) →
      ¬Joins ended a b) :
    runsFrom ended (remarks.map .remark ++ entries) =
      stretch remarks ++ runsFrom ended entries := by
  induction remarks with
  | nil => rfl
  | cons a rest ih =>
      rw [List.map_cons, List.cons_append, runsFrom]
      cases rest with
      | nil =>
          apply pushRemark_of_not_joins
          intro first others tail hruns
          exact hend a first rfl (head?_of_runsFrom hruns)
      | cons b rest =>
          obtain ⟨hjoins, hrest⟩ := List.isChain_cons_cons.mp hchain
          rw [ih hrest hend]
          exact pushRemark_of_joins hjoins

/-- **The loop gathers the runs.** The comments gathered so far join each other and do not start
where the last element ended, so they are the start of the next run. -/
theorem gather_eq_map_slot {pending : List Remark} {ended : Option Nat} (entries : List Entry)
    (hchain : pending.IsChain (Joins ended)) (hlines : ∀ r ∈ pending, ended ≠ some r.line) :
    gather pending ended entries =
      (runsFrom ended (pending.map .remark ++ entries)).map Run.slot := by
  induction entries generalizing pending ended with
  | nil =>
      rw [runsFrom_stretch hchain (by simp), gather, clusterOf_eq_map_stretch]
      simp [runsFrom]
  | cons entry entries ih =>
      cases entry with
      | element span =>
          rw [gather, runsFrom_stretch hchain (by simp), ih List.isChain_nil (by simp)]
          simp [clusterOf_eq_map_stretch, runsFrom, Run.slot]
      | remark r =>
          unfold gather
          split
          · -- a comment on the line where the element ended joins neither side
            rename_i hended
            have hright : runsFrom ended (.remark r :: entries) =
                stretch [r] ++ runsFrom ended entries := by
              apply runsFrom_stretch (List.isChain_singleton r)
              rintro a b ⟨rfl⟩ - hjoins
              exact hjoins.1 hended
            have hleft : ∀ a b, pending.getLast? = some a →
                (Entry.remark r :: entries).head? = some (.remark b) → ¬Joins ended a b := by
              rintro a b - ⟨rfl⟩ hjoins
              exact hjoins.2.1 hended
            rw [runsFrom_stretch hchain hleft, hright, ih List.isChain_nil (by simp)]
            simp [clusterOf_eq_map_stretch]
          · rename_i hended
            split
            · rename_i hapart
              have hfar : ∀ a, pending.getLast? = some a → ¬Joins ended a r := by
                intro a ha hjoins
                simp only [apart, ha, decide_eq_true_eq] at hapart
                exact absurd hjoins.2.2 (by omega)
              rw [ih (List.isChain_singleton r) (by simpa using hended),
                runsFrom_stretch hchain (by simpa using hfar), clusterOf_eq_map_stretch]
              simp
            · rename_i hnear
              have hjoins : ∀ a, pending.getLast? = some a → Joins ended a r := by
                intro a ha
                refine ⟨hlines a (List.mem_of_getLast? ha), hended, ?_⟩
                simp only [apart, ha, decide_eq_true_eq] at hnear
                omega
              rw [ih]
              · simp
              · apply List.isChain_append.mpr
                exact ⟨hchain, List.isChain_singleton r, by simpa using hjoins⟩
              · intro s hs
                rcases List.mem_append.mp hs with hs | hs
                · exact hlines s hs
                · rw [List.mem_singleton.mp hs]
                  exact hended

theorem slots_eq_map_slot (entries : List Entry) :
    slots entries = (runs entries).map Run.slot :=
  gather_eq_map_slot entries List.isChain_nil (by simp)

/-! ## §E Who is in one group -/

/-- The run at the place of an entry has the entry. -/
theorem exists_run_at_place {runs : List Run} {i : Nat} {entry : Entry}
    (h : (runs.flatMap Run.entries)[i]? = some entry) :
    ∃ run, runs[place runs i]? = some run ∧ entry ∈ run.entries := by
  induction runs generalizing i with
  | nil => simp at h
  | cons run runs ih =>
      rw [List.flatMap_cons] at h
      unfold place
      split
      · rename_i hlt
        rw [List.getElem?_append_left hlt] at h
        exact ⟨run, rfl, List.mem_of_getElem? h⟩
      · rename_i hge
        rw [List.getElem?_append_right (Nat.le_of_not_lt hge)] at h
        exact ih h

theorem place_cons_add (run : Run) (runs : List Run) (i : Nat) :
    place (run :: runs) (run.entries.length + i) = place runs i + 1 := by
  simp [place]

theorem place_own_run (r : Remark) (runs : List Run) (i : Nat) :
    place (.remarks r [] :: runs) (i + 1) = place runs i + 1 := by
  rw [Nat.add_comm i 1]
  exact place_cons_add (.remarks r []) runs i

theorem place_same_run (r first : Remark) (others : List Remark) (tail : List Run) (i : Nat) :
    place (.remarks r (first :: others) :: tail) (i + 1) =
      place (.remarks first others :: tail) i := by
  simp [place, Run.entries]

/-- A comment in front moves all places alike. -/
theorem place_pushRemark (ended : Option Nat) (r : Remark) (runs : List Run) :
    ∃ n, ∀ i, place (pushRemark ended r runs) (i + 1) = place runs i + n := by
  rcases pushRemark_cases ended r runs with ⟨first, others, tail, rfl, -, heq⟩ | heq
  · exact ⟨0, fun i => heq ▸ place_same_run r first others tail i⟩
  · exact ⟨1, fun i => heq ▸ place_own_run r runs i⟩

@[simp]
theorem elements_cons_remark (r : Remark) (entries : List Entry) :
    elements (.remark r :: entries) = elements entries := rfl

@[simp]
theorem elements_cons_element (span : Span) (entries : List Entry) :
    elements (.element span :: entries) = span :: elements entries := rfl

theorem elementEnd_nil : elementEnd [] = none := rfl

theorem elementEnd_cons_remark (r : Remark) (entries : List Entry) :
    elementEnd (.remark r :: entries) = elementEnd entries := rfl

theorem elementEnd_cons_element (span : Span) (entries : List Entry) :
    elementEnd (.element span :: entries) = (elementEnd entries).or (some span.lastLine) := by
  rw [elementEnd, elementEnd, elements_cons_element, List.getLast?_cons]
  cases (elements entries).getLast? <;> rfl

theorem place_eq_place_succ_iff (ended : Option Nat) (front : List Entry) (a b : Remark)
    (back : List Entry) :
    place (runsFrom ended (front ++ .remark a :: .remark b :: back)) front.length =
        place (runsFrom ended (front ++ .remark a :: .remark b :: back)) (front.length + 1) ↔
      Joins ((elementEnd front).or ended) a b := by
  induction front generalizing ended with
  | nil =>
      obtain ⟨others, tail, hb⟩ := pushRemark_eq_cons ended b (runsFrom ended back)
      rw [List.nil_append, runsFrom, runsFrom, hb]
      by_cases hjoins : Joins ended a b
      · rw [pushRemark_of_joins hjoins]
        simp [place, Run.entries, elementEnd_nil, hjoins]
      · rw [pushRemark_of_not_joins (by rintro _ _ _ ⟨rfl⟩; exact hjoins)]
        simp [place, Run.entries, elementEnd_nil, hjoins]
  | cons entry front ih =>
      cases entry with
      | remark r =>
          obtain ⟨n, hn⟩ := place_pushRemark ended r
            (runsFrom ended (front ++ .remark a :: .remark b :: back))
          rw [List.cons_append, runsFrom, List.length_cons, hn, hn, elementEnd_cons_remark, ← ih ended]
          omega
      | element span =>
          have hshift := place_cons_add (.element span)
            (runsFrom (some span.lastLine) (front ++ .remark a :: .remark b :: back))
          have hlength : (Run.element span).entries.length = 1 := rfl
          rw [hlength] at hshift
          rw [List.cons_append, runsFrom, List.length_cons, Nat.add_comm front.length 1, hshift,
            Nat.add_assoc, hshift, elementEnd_cons_element, Option.or_assoc]
          rw [Option.some_or, ← ih (some span.lastLine)]
          omega

/-- **Grouping cuts a body into runs.** All entries are kept, in order, each in the run at its place,
and the slots are those of the runs. Of two comments with nothing between them, the second is in the
group of the first exactly if neither starts on the line where the nearest element in front ends and
the second starts at most one line below the end of the first. -/
theorem slots_runs (entries : List Entry) :
    (runs entries).flatMap Run.entries = entries ∧
      slots entries = (runs entries).map Run.slot ∧
      (∀ i entry, entries[i]? = some entry →
        ∃ run, (runs entries)[place (runs entries) i]? = some run ∧ entry ∈ run.entries) ∧
      ∀ front a b back, entries = front ++ .remark a :: .remark b :: back →
        (place (runs entries) front.length = place (runs entries) (front.length + 1) ↔
          elementEnd front ≠ some a.line ∧ elementEnd front ≠ some b.line ∧
            b.line ≤ a.lastLine + 1) := by
  have hall : (runs entries).flatMap Run.entries = entries := flatMap_entries_runsFrom none entries
  refine ⟨hall, slots_eq_map_slot entries, ?_, ?_⟩
  · intro i entry hentry
    rw [← hall] at hentry
    exact exists_run_at_place hentry
  · rintro front a b back rfl
    have hiff := place_eq_place_succ_iff none front a b back
    rw [Option.or_none] at hiff
    exact hiff

/-- Two comments in a row, a third behind a blank line, an element, a comment behind it on its last
line and one below that. -/
def remarkedElement : List Entry :=
  [.remark ⟨"// MethodGroup: Log", 1, 1⟩, .remark ⟨"// about logs", 2, 2⟩,
   .remark ⟨"// List lists", 4, 4⟩, .element ⟨5, 6⟩, .remark ⟨"// paths", 6, 6⟩,
   .remark ⟨"// and more", 7, 7⟩]

/-- The first two are one group. The last two are not, though one stands right below the other. -/
theorem slots_runs_remarkedElement :
    place (runs remarkedElement) 0 = place (runs remarkedElement) 1 ∧
      place (runs remarkedElement) 1 ≠ place (runs remarkedElement) 2 ∧
      place (runs remarkedElement) 4 ≠ place (runs remarkedElement) 5 ∧
      (slots remarkedElement).length = 5 := by
  obtain ⟨-, hslots, -, hshare⟩ := slots_runs remarkedElement
  refine ⟨?_, ?_, ?_, ?_⟩
  · exact (hshare [] _ _ _ rfl).mpr (by decide)
  · exact fun h => absurd ((hshare (remarkedElement.take 1) _ _ _ rfl).mp h) (by decide)
  · exact fun h => absurd ((hshare (remarkedElement.take 4) _ _ _ rfl).mp h) (by decide)
  · rw [hslots]
    decide

end RollCall.Comment
