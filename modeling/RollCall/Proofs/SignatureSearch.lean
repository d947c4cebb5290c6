import RollCall.Proofs.MethodSet
import RollCall.Proofs.Package
import RollCall.SignatureSearch

/-!
# RollCall.Proofs.SignatureSearch — what the search for signatures looks at, and what it finds

The search keeps a list of names that are still to be looked at; the tour of an interface goes down by
recursion. Both go into the same names in the same order: what a run of the tour does between two
points, the search does in a number of steps that takes exactly those names off its list. The search
ends within its bound because every name of the index puts what it embeds on the list once.

The signature found for a method is the one of the first name entered whose walked declaration has
the method.
-/

namespace RollCall.SignatureSearch

open RollCall.Source
open RollCall.MethodSet (Follows Mentions Tour)
open Relation (ReflTransGen)

/-! ## §A Single steps -/

section Steps

variable {p : Package} {index : Index} {s : SignatureSearch}

/-- The search after it went into a name. -/
def goInto (p : Package) (index : Index) (name : String) (pending : List String)
    (s : SignatureSearch) : SignatureSearch where
  pending := below index name ++ pending
  entered := s.entered ++ [name]
  methods :=
    match (p.walk name).1 with
    | some found => adopt s.methods found.methods
    | none => s.methods
  warnings := s.warnings ++ (p.walk name).2

theorem step_nil (h : s.pending = []) : step p index s = s := by
  rw [step, h]

theorem step_entered {name : String} {pending : List String} (h : s.pending = name :: pending)
    (hin : name ∈ s.entered) : step p index s = { s with pending := pending } := by
  rw [step, h]
  exact if_pos (List.contains_iff_mem.mpr hin)

theorem step_new {name : String} {pending : List String} (h : s.pending = name :: pending)
    (hnot : name ∉ s.entered) : step p index s = goInto p index name pending s := by
  rw [step, h]
  exact if_neg fun hc => hnot (List.contains_iff_mem.mp hc)

theorem run_add (m n : Nat) (s : SignatureSearch) :
    run p index (m + n) s = run p index n (run p index m s) := by
  induction m generalizing s with
  | zero => rw [Nat.zero_add, run]
  | succ m ih => rw [Nat.succ_add, run, run, ih]

theorem run_of_pending_nil (n : Nat) (h : s.pending = []) : run p index n s = s := by
  induction n with
  | zero => rfl
  | succ n ih => rw [run, step_nil h, ih]

/-- A search that has nothing left to look at is over: when it is looked at again does not show. -/
theorem run_eq_run {m n : Nat} (hm : (run p index m s).pending = [])
    (hn : (run p index n s).pending = []) : run p index m s = run p index n s := by
  rcases Nat.le_total m n with hle | hle
  · obtain ⟨k, rfl⟩ := Nat.exists_eq_add_of_le hle
    rw [run_add, run_of_pending_nil k hm]
  · obtain ⟨k, rfl⟩ := Nat.exists_eq_add_of_le hle
    rw [run_add, run_of_pending_nil k hn]

end Steps

/-! ## §B The search ends -/

theorem below_eq_nil {index : Index} {name : String} (h : index.shape? name = none) :
    below index name = [] := by
  rw [below, h]

theorem below_eq_siblings {index : Index} {name : String} {shape : Shape}
    (h : index.shape? name = some shape) : below index name = siblings shape.embedded := by
  rw [below, h]

/-- What a search has still to look at, at most: what is on its list, and what the names that it
has not entered will put there. -/
def owed (index : Index) (s : SignatureSearch) : Nat :=
  s.pending.length + Budget.left Prod.fst (fun e => (below index e.1).length) s.entered index

theorem owed_start (index : Index) (name : String) : owed index (start name) = bound index := by
  rw [owed, bound, ← Budget.left_nothing_paid Prod.fst, Nat.add_comm]
  rfl

/-- What going into a name puts on the list is paid for. -/
theorem below_add_left_le (index : Index) {entered : List String} {name : String}
    (hnot : name ∉ entered) :
    (below index name).length +
        Budget.left Prod.fst (fun e => (below index e.1).length) (entered ++ [name]) index ≤
      Budget.left Prod.fst (fun e => (below index e.1).length) entered index := by
  have hsubset : ∀ other ∈ entered, other ∈ entered ++ [name] :=
    fun other ho => List.mem_append_left _ ho
  cases hget : Dictionary.get? name index with
  | none =>
      have hnone : index.shape? name = none := by rw [Index.shape?, hget]; rfl
      rw [below_eq_nil hnone, List.length_nil, Nat.zero_add]
      exact Budget.left_anti Prod.fst _ hsubset index
  | some decl =>
      rw [Nat.add_comm]
      exact Budget.left_add_cost_le Prod.fst _ hsubset (Dictionary.mem_of_get? hget) hnot
        (List.mem_append_right _ (List.mem_singleton_self name))

/-- Every step brings the search nearer to its end. -/
theorem owed_step_lt (p : Package) (index : Index) {s : SignatureSearch} (h : s.pending ≠ []) :
    owed index (step p index s) < owed index s := by
  obtain ⟨name, pending, hpending⟩ := List.exists_cons_of_ne_nil h
  by_cases hin : name ∈ s.entered
  · rw [step_entered hpending hin, owed, owed, hpending, List.length_cons]
    exact Nat.add_lt_add_right (Nat.lt_succ_self _) _
  · have hpaid := below_add_left_le index hin
    rw [step_new hpending hin, owed, owed, hpending, List.length_cons]
    change (below index name ++ pending).length + Budget.left _ _ (s.entered ++ [name]) index < _
    rw [List.length_append]
    omega

theorem run_pending_nil {p : Package} {index : Index} {s : SignatureSearch} {n : Nat}
    (h : owed index s ≤ n) : (run p index n s).pending = [] := by
  induction n generalizing s with
  | zero =>
      have hlen : s.pending.length = 0 := by
        rw [owed] at h
        omega
      exact List.eq_nil_of_length_eq_zero hlen
  | succ n ih =>
      by_cases hpending : s.pending = []
      · rw [run_of_pending_nil _ hpending, hpending]
      · have hlt := owed_step_lt p index hpending
        exact ih (by omega)

theorem ofInterface_pending (p : Package) (index : Index) (name : String) :
    (ofInterface p index name).pending = [] :=
  run_pending_nil (owed_start index name).le

/-! ## §C The same names in the same order -/

theorem siblings_cons_sibling (name : String) (embedded : List Embed) :
    siblings (.sibling name :: embedded) = name :: siblings embedded := rfl

/-- What the tour does with a list of elements, the search does with the names among them. -/
theorem run_of_follows {p : Package} {index : Index} {embedded : List Embed} {tour finish : Tour}
    (h : Follows index embedded tour finish) :
    ∀ (s : SignatureSearch) (rest : List String), s.entered = tour.entered →
      s.pending = siblings embedded ++ rest →
      ∃ n, (run p index n s).entered = finish.entered ∧ (run p index n s).pending = rest := by
  induction h with
  | done tour =>
      intro s rest hentered hpending
      exact ⟨0, hentered, hpending⟩
  | @again name _ tour _ hin _ ih =>
      intro s rest hentered hpending
      rw [← hentered] at hin
      rw [siblings_cons_sibling, List.cons_append] at hpending
      obtain ⟨n, hn⟩ := ih (step p index s) rest (by rw [step_entered hpending hin]; exact hentered)
        (by rw [step_entered hpending hin])
      exact ⟨n + 1, hn⟩
  | @unknown name _ tour _ hnot hnone _ ih =>
      intro s rest hentered hpending
      rw [← hentered] at hnot
      rw [siblings_cons_sibling, List.cons_append] at hpending
      obtain ⟨n, hn⟩ := ih (step p index s) rest
        (by rw [step_new hpending hnot, goInto, hentered]; rfl)
        (by rw [step_new hpending hnot, goInto, below_eq_nil hnone]; rfl)
      exact ⟨n + 1, hn⟩
  | @into name shape others tour middle finish hnot hshape _ _ ihinner ihrest =>
      intro s rest hentered hpending
      rw [← hentered] at hnot
      rw [siblings_cons_sibling, List.cons_append] at hpending
      -- what the name embeds goes in front of the list, and comes off it before the others
      obtain ⟨m, hm⟩ := ihinner (step p index s) (siblings others ++ rest)
        (by rw [step_new hpending hnot, goInto, hentered]; rfl)
        (by rw [step_new hpending hnot, goInto, below_eq_siblings hshape])
      obtain ⟨n, hn⟩ := ihrest (run p index m (step p index s)) rest hm.1 hm.2
      refine ⟨m + n + 1, ?_⟩
      rw [run, run_add]
      exact hn
  | foreign _ ih => exact ih
  | term _ ih => exact ih

/-- The search goes into the names of the tour, in the order of the tour. -/
theorem ofInterface_entered (p : Package) (index : Index) (name : String) :
    (ofInterface p index name).entered = (MethodSet.tour index name).entered := by
  obtain ⟨n, hentered, hpending⟩ :=
    run_of_follows (p := p) (MethodSet.follows_tour index name) (start name) [] rfl rfl
  have heq := run_eq_run (ofInterface_pending p index name) hpending
  rw [← hentered, ← heq]
  rfl

/-! ## §D The signature of a method -/

theorem adopt_cons (methods found : Dictionary WalkedMethod) (name : String) (method : WalkedMethod) :
    adopt methods ((name, method) :: found) =
      adopt (if Dictionary.has name methods then methods else Dictionary.set name method methods)
        found := rfl

/-- Methods that were found before stay. -/
theorem get?_adopt (m : String) (methods found : Dictionary WalkedMethod) :
    Dictionary.get? m (adopt methods found) =
      (Dictionary.get? m methods).or (Dictionary.get? m found) := by
  induction found generalizing methods with
  | nil => rw [adopt, List.foldl_nil, Dictionary.get?_nil, Option.or_none]
  | cons entry found ih =>
      obtain ⟨name, method⟩ := entry
      rw [adopt_cons, ih, Dictionary.get?_cons]
      by_cases hhas : Dictionary.has name methods = true
      · rw [if_pos hhas]
        split
        · rename_i heq
          subst heq
          obtain ⟨value, hvalue⟩ := Option.isSome_iff_exists.mp hhas
          rw [hvalue]
          rfl
        · rfl
      · rw [if_neg hhas, Dictionary.get?_set]
        split
        · rename_i heq
          subst heq
          rw [Dictionary.has, Option.not_isSome_iff_eq_none] at hhas
          rw [hhas]
          rfl
        · rfl

/-- Every signature found is that of the first name entered that has one. -/
def Nearest (p : Package) (s : SignatureSearch) : Prop :=
  ∀ m, Dictionary.get? m s.methods = s.entered.findSome? fun name => p.walkedMethod? name m

theorem Nearest.step {p : Package} {s : SignatureSearch} (h : Nearest p s) (index : Index) :
    Nearest p (step p index s) := by
  cases hpending : s.pending with
  | nil => rwa [step_nil hpending]
  | cons name pending =>
      by_cases hin : name ∈ s.entered
      · rw [step_entered hpending hin]
        exact h
      · rw [step_new hpending hin]
        intro m
        rw [goInto, List.findSome?_append, ← h m, List.findSome?_singleton,
          Package.walkedMethod?]
        cases (p.walk name).1 with
        | none => exact Option.or_none.symm
        | some found => exact get?_adopt m s.methods found.methods

theorem Nearest.run {p : Package} {s : SignatureSearch} (h : Nearest p s) (index : Index) (n : Nat) :
    Nearest p (run p index n s) := by
  induction n generalizing s with
  | zero => exact h
  | succ n ih => exact ih (h.step index)

theorem nearest_ofInterface (p : Package) (index : Index) (name : String) :
    Nearest p (ofInterface p index name) := by
  refine Nearest.run ?_ index (bound index)
  intro m
  rfl

/-- A method has a signature exactly where the first interface declaration of some reachable name
lists it. -/
theorem has_signature_iff (p : Package) (index : Index) (name m : String) :
    Dictionary.has m (ofInterface p index name).methods = true ↔
      ∃ inner, ReflTransGen (Mentions index) name inner ∧ p.FirstDeclares inner m := by
  rw [Dictionary.has, nearest_ofInterface p index name m, List.findSome?_isSome_iff,
    ofInterface_entered]
  refine exists_congr fun inner => ?_
  rw [MethodSet.mem_entered_tour, Package.walkedMethod?_isSome_iff]

/-! ## §E The search in the order of the tour -/

theorem step_keeps_entered (p : Package) (index : Index) (s : SignatureSearch) :
    s.entered <+: (step p index s).entered := by
  cases hpending : s.pending with
  | nil => simp [step_nil hpending]
  | cons name pending =>
      by_cases hin : name ∈ s.entered
      · simp [step_entered hpending hin]
      · rw [step_new hpending hin]
        exact List.prefix_append s.entered [name]

theorem run_keeps_entered (p : Package) (index : Index) (n : Nat) (s : SignatureSearch) :
    s.entered <+: (run p index n s).entered := by
  induction n generalizing s with
  | zero => exact List.prefix_rfl
  | succ n ih => exact (step_keeps_entered p index s).trans (ih (step p index s))

/-- However far the search has come, it has gone into the first names of the tour. -/
theorem run_within_tour (p : Package) (index : Index) (name : String) (n : Nat) :
    (run p index n (start name)).entered <+: (MethodSet.tour index name).entered := by
  -- the search that goes on from there is the finished one
  have hmore := run_keeps_entered p index (bound index) (run p index n (start name))
  have hdone : run p index (n + bound index) (start name) = ofInterface p index name := by
    apply run_eq_run
    · exact run_pending_nil ((owed_start index name).le.trans (Nat.le_add_left _ n))
    · exact ofInterface_pending p index name
  rw [← run_add, hdone, ofInterface_entered] at hmore
  exact hmore

theorem get?_methods_eq_some_iff (p : Package) (index : Index) (name m : String)
    (method : WalkedMethod) :
    Dictionary.get? m (ofInterface p index name).methods = some method ↔
      ∃ before inner after, (MethodSet.tour index name).entered = before ++ inner :: after ∧
        p.walkedMethod? inner m = some method ∧
        ∀ other ∈ before, p.walkedMethod? other m = none := by
  rw [nearest_ofInterface p index name m, ofInterface_entered]
  exact List.findSome?_eq_some_iff

/-- **The search is the tour, with a list in place of the recursion.** It comes to an end, in one way
only. On its way it goes into the names of the tour, in the order of the tour and no others. The
signature of a method is therefore the one of the first name in that order whose walked declaration
has the method, which is the start itself wherever that has it. -/
theorem ofInterface_preorder (p : Package) (index : Index) (name : String) :
    (ofInterface p index name).pending = [] ∧
      (∀ n, (run p index n (start name)).pending = [] →
        run p index n (start name) = ofInterface p index name) ∧
      (∀ n, (run p index n (start name)).entered <+: (MethodSet.tour index name).entered) ∧
      (ofInterface p index name).entered = (MethodSet.tour index name).entered ∧
      (∀ m method, Dictionary.get? m (ofInterface p index name).methods = some method ↔
        ∃ before inner after, (MethodSet.tour index name).entered = before ++ inner :: after ∧
          p.walkedMethod? inner m = some method ∧
          ∀ other ∈ before, p.walkedMethod? other m = none) ∧
      ∀ m method, p.walkedMethod? name m = some method →
        Dictionary.get? m (ofInterface p index name).methods = some method := by
  refine ⟨ofInterface_pending p index name, ?_, run_within_tour p index name,
    ofInterface_entered p index name, get?_methods_eq_some_iff p index name, ?_⟩
  · intro n hn
    exact run_eq_run hn (ofInterface_pending p index name)
  · intro m method hmethod
    obtain ⟨others, hothers⟩ := MethodSet.tour_entered_eq_cons index name
    apply (get?_methods_eq_some_iff p index name m method).mpr
    exact ⟨[], name, others, hothers, hmethod, fun _ hin => absurd hin List.not_mem_nil⟩

/-- An interface that embeds names and has methods without parameters, each with its result. -/
def ringSpec (name : String) (embedded : List String) (methods : List (String × String)) : Spec where
  name := name
  aliased := false
  type := .interface
  elements := some <|
    embedded.map (fun inner => ⟨.embed (.sibling inner), ⟨1, 1⟩, []⟩) ++
      methods.map fun (m, result) => ⟨.method ⟨m, m ++ "()", [], [.named none result]⟩, ⟨1, 1⟩, []⟩

/-- A package in which `Node` embeds `Net` and `Common`, and `Net` embeds both of the others. -/
def ring : Package :=
  ⟨[⟨"api.go", ⟨some "api",
    [ringSpec "Node" ["Net", "Common"] [("Version", "string")],
     ringSpec "Net" ["Common", "Node"] [("Peers", "int"), ("Version", "int")],
     ringSpec "Common" [] [("Peers", "error"), ("Version", "error")]], []⟩⟩]⟩

/-- The method that `Node` has itself is the one found, though all three have one of that name. -/
theorem ofInterface_ring :
    (ofInterface ring ring.index "Node").entered = ["Node", "Net", "Common"] ∧
      run ring ring.index 5 (start "Node") = ofInterface ring ring.index "Node" ∧
      ∃ method, ring.walkedMethod? "Node" "Version" = some method ∧
        Dictionary.get? "Version" (ofInterface ring ring.index "Node").methods = some method := by
  obtain ⟨-, hends, -, hentered, -, hnearest⟩ := ofInterface_preorder ring ring.index "Node"
  have hsome : (ring.walkedMethod? "Node" "Version").isSome = true := by decide
  obtain ⟨method, hmethod⟩ := Option.isSome_iff_exists.mp hsome
  refine ⟨?_, hends 5 (by decide), method, hmethod, hnearest "Version" method hmethod⟩
  rw [hentered]
  decide

end RollCall.SignatureSearch
