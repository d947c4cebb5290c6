import Mathlib.Algebra.BigOperators.Group.List.Basic
import Mathlib.Algebra.GroupWithZero.Nat
import RollCall.Proofs.MethodSet.Places

/-!
# RollCall.Proofs.MethodSet.Warnings — what is reported about an interface, and in which order

The warnings are described without any traversal: one for every name that is no interface, at the
place where it is first met, and one for every interface of another package, at each of its positions
in an interface, which counts where it is first met. They are told in the order of their places.
-/

namespace RollCall.MethodSet

open Relation (ReflTransGen)

/-! ## §A What a run tells -/

/-- **`Reported index start path w`** — the warning is due at the place. A name that is no interface
is reported where it is first met; an interface of another package is reported at every position of
every interface, at the place where that interface is first met. -/
def Reported (index : Index) (start : String) (path : List Nat) : Warning → Prop
  | .unknownEmbed name => FirstMet index start path name ∧ index.shape? name = none
  | .foreignEmbed package name =>
      ∃ before i outer shape, path = before ++ [i] ∧ FirstMet index start before outer ∧
        index.shape? outer = some shape ∧ shape.embedded[i]? = some (.foreign package name)
  | .notAnInterface _ _ => False

/-- Everything due about a name that was first met at a place is among the reports. -/
def Given (index : Index) (reports : List (List Nat × Warning)) (path : List Nat) (name : String) :
    Prop :=
  (index.shape? name = none → (path, .unknownEmbed name) ∈ reports) ∧
    ∀ shape j package other, index.shape? name = some shape →
      shape.embedded[j]? = some (.foreign package other) →
        (path ++ [j], .foreignEmbed package other) ∈ reports

/-- **`Tells index start before shape i tour finish reports`** — a run through the elements of
`shape` from position `i` on adds the warnings of `reports`, each with its place. The places ascend,
all warnings are due there, and whatever is due about the names entered on the way, or at these
positions themselves, is told. -/
structure Tells (index : Index) (start : String) (before : List Nat) (shape : Shape) (i : Nat)
    (tour finish : Tour) (reports : List (List Nat × Warning)) : Prop where
  warnings : finish.warnings = tour.warnings ++ reports.map Prod.snd
  ascending : reports.Pairwise fun r s => Before r.1 s.1
  places : ∀ r ∈ reports, ∃ j tail, i ≤ j ∧ r.1 = before ++ j :: tail
  due : ∀ r ∈ reports, Reported index start r.1 r.2
  entered : ∀ name ∈ finish.entered, name ∈ tour.entered ∨
    ∃ path, FirstMet index start path name ∧ Given index reports path name
  foreigns : ∀ j package other, i ≤ j → shape.embedded[j]? = some (.foreign package other) →
    (before ++ [j], .foreignEmbed package other) ∈ reports

theorem Given.mono {index : Index} {reports more : List (List Nat × Warning)} {path : List Nat}
    {name : String} (h : Given index reports path name) (hmore : ∀ r ∈ reports, r ∈ more) :
    Given index more path name :=
  ⟨fun hnone => hmore _ (h.1 hnone),
    fun shape j package other hshape hj => hmore _ (h.2 shape j package other hshape hj)⟩

section Telling

variable {index : Index} {start : String} {before : List Nat} {shape : Shape} {i : Nat}
  {tour middle finish : Tour} {reports : List (List Nat × Warning)}

/-- At the end of a list nothing is told. -/
theorem tells_nothing (hend : shape.embedded.length ≤ i) (tour : Tour) :
    Tells index start before shape i tour tour [] where
  warnings := by simp
  ascending := List.Pairwise.nil
  places := nofun
  due := nofun
  entered := fun _ hname => Or.inl hname
  foreigns := by
    intro j package other hj hget
    rw [List.getElem?_eq_none (hend.trans hj)] at hget
    cases hget

/-- What an element tells, and then the elements behind it. The reports of the element all stand
below its position, so they come first. -/
theorem Tells.prepend (told : List (List Nat × Warning))
    (h : Tells index start before shape (i + 1) middle finish reports)
    (hwarnings : middle.warnings = tour.warnings ++ told.map Prod.snd)
    (hascending : told.Pairwise fun r s => Before r.1 s.1)
    (hplaces : ∀ r ∈ told, ∃ tail, r.1 = before ++ i :: tail)
    (hdue : ∀ r ∈ told, Reported index start r.1 r.2)
    (hentered : ∀ name ∈ middle.entered, name ∈ tour.entered ∨
      ∃ path, FirstMet index start path name ∧ Given index told path name)
    (hforeign : ∀ package other, shape.embedded[i]? = some (.foreign package other) →
      (before ++ [i], .foreignEmbed package other) ∈ told) :
    Tells index start before shape i tour finish (told ++ reports) where
  warnings := by rw [h.warnings, hwarnings, List.map_append, List.append_assoc]
  ascending := by
    refine List.pairwise_append.mpr ⟨hascending, h.ascending, ?_⟩
    intro r hr s hs
    obtain ⟨tail, hfirst⟩ := hplaces r hr
    obtain ⟨j, other, hj, hsecond⟩ := h.places s hs
    rw [hfirst, hsecond]
    exact before_of_lt hj before tail other
  places := by
    intro r hr
    rcases List.mem_append.mp hr with hr | hr
    · obtain ⟨tail, hfirst⟩ := hplaces r hr
      exact ⟨i, tail, Nat.le_refl i, hfirst⟩
    · obtain ⟨j, tail, hj, hsecond⟩ := h.places r hr
      exact ⟨j, tail, Nat.le_of_succ_le hj, hsecond⟩
  due := by
    intro r hr
    rcases List.mem_append.mp hr with hr | hr
    · exact hdue r hr
    · exact h.due r hr
  entered := by
    intro name hname
    rcases h.entered name hname with hmiddle | ⟨path, hfirst, hgiven⟩
    · rcases hentered name hmiddle with hold | ⟨path, hfirst, hgiven⟩
      · exact Or.inl hold
      · exact Or.inr ⟨path, hfirst, hgiven.mono fun r hr => List.mem_append_left _ hr⟩
    · exact Or.inr ⟨path, hfirst, hgiven.mono fun r hr => List.mem_append_right _ hr⟩
  foreigns := by
    intro j package other hj hget
    rcases Nat.lt_or_eq_of_le hj with hlt | rfl
    · exact List.mem_append_right _ (h.foreigns j package other hlt hget)
    · exact List.mem_append_left _ (hforeign package other hget)

/-- An element that tells nothing. -/
theorem Tells.silent (h : Tells index start before shape (i + 1) tour finish reports)
    (hforeign : ∀ package other, shape.embedded[i]? ≠ some (.foreign package other)) :
    Tells index start before shape i tour finish reports :=
  h.prepend [] (by simp) List.Pairwise.nil nofun nofun (fun _ hname => Or.inl hname)
    fun package other hget => absurd hget (hforeign package other)

/-- A name that is no interface is reported where it is first met. -/
theorem Tells.unknown {name : String}
    (h : Tells index start before shape (i + 1) ((tour.mark name).warn (.unknownEmbed name)) finish
      reports)
    (helement : shape.embedded[i]? = some (.sibling name)) (hnone : index.shape? name = none)
    (hfirst : FirstMet index start (before ++ [i]) name) :
    Tells index start before shape i tour finish
      ([(before ++ [i], .unknownEmbed name)] ++ reports) := by
  refine h.prepend _ rfl (List.pairwise_singleton _ _) ?_ ?_ ?_ (by simp [helement])
  · intro r hr
    exact ⟨[], by rw [List.mem_singleton.mp hr]⟩
  · intro r hr
    rw [List.mem_singleton.mp hr]
    exact ⟨hfirst, hnone⟩
  · intro other hother
    rw [Tour.warn_entered, Tour.mark_entered, List.mem_append, List.mem_singleton] at hother
    rcases hother with hother | rfl
    · exact Or.inl hother
    · refine Or.inr ⟨before ++ [i], hfirst, fun _ => List.mem_singleton_self _, ?_⟩
      intro shape' j package foreign hshape'
      rw [hnone] at hshape'
      cases hshape'

/-- An interface tells what stands in its own list, all of it below the place where it is first
met. -/
theorem Tells.into {name : String} {inner : Shape} {told : List (List Nat × Warning)}
    (h : Tells index start before shape (i + 1) middle finish reports)
    (hinside : Tells index start (before ++ [i]) inner 0 ((tour.mark name).collect inner.methods)
      middle told)
    (helement : shape.embedded[i]? = some (.sibling name)) (hinner : index.shape? name = some inner)
    (hfirst : FirstMet index start (before ++ [i]) name) :
    Tells index start before shape i tour finish (told ++ reports) := by
  refine h.prepend told hinside.warnings hinside.ascending ?_ hinside.due ?_ (by simp [helement])
  · intro r hr
    obtain ⟨j, tail, -, hplace⟩ := hinside.places r hr
    exact ⟨j :: tail, by rw [hplace, List.append_assoc]; rfl⟩
  · intro other hother
    rcases hinside.entered other hother with hold | hgiven
    · rw [Tour.collect_entered, Tour.mark_entered, List.mem_append, List.mem_singleton] at hold
      rcases hold with hold | rfl
      · exact Or.inl hold
      · refine Or.inr ⟨before ++ [i], hfirst, ?_, ?_⟩
        · intro hnone
          rw [hinner] at hnone
          cases hnone
        · intro shape' j package foreign hshape' hj
          rw [hinner] at hshape'
          cases hshape'
          exact hinside.foreigns j package foreign (Nat.zero_le j) hj
    · exact Or.inr hgiven

theorem Tells.foreign {package name outer : String}
    (h : Tells index start before shape (i + 1) (tour.warn (.foreignEmbed package name)) finish
      reports)
    (helement : shape.embedded[i]? = some (.foreign package name))
    (hshape : index.shape? outer = some shape) (hfirst : FirstMet index start before outer) :
    Tells index start before shape i tour finish
      ([(before ++ [i], .foreignEmbed package name)] ++ reports) := by
  refine h.prepend _ rfl (List.pairwise_singleton _ _) ?_ ?_ (fun _ hname => Or.inl hname)
    (by simp [helement])
  · intro r hr
    exact ⟨[], by rw [List.mem_singleton.mp hr]⟩
  · intro r hr
    rw [List.mem_singleton.mp hr]
    exact ⟨before, i, outer, shape, rfl, hfirst, hshape, helement⟩

theorem element_of_drop {embed : Embed} {later : List Embed}
    (h : embed :: later = shape.embedded.drop i) :
    shape.embedded[i]? = some embed ∧ later = shape.embedded.drop (i + 1) := by
  constructor
  · have hfirst : (shape.embedded.drop i)[0]? = some embed := by rw [← h]; rfl
    rwa [List.getElem?_drop, Nat.add_zero] at hfirst
  · rw [← List.tail_drop, ← h]
    rfl

/-- **A run tells what is due, in the order of the places.** -/
theorem Follows.tells {embedded : List Embed} (h : Follows index embedded tour finish) :
    ∀ (before : List Nat) (outer : String) (rest : List String) (shape : Shape) (i : Nat),
      index.shape? outer = some shape → embedded = shape.embedded.drop i →
        Stands index start before outer rest i tour →
          ∃ reports, Tells index start before shape i tour finish reports := by
  -- in every case the place moves on by one position, and the later elements tell the rest
  induction h with
  | done tour =>
      intro before outer rest shape i _ hdrop _
      exact ⟨[], tells_nothing (List.drop_eq_nil_iff.mp hdrop.symm) tour⟩
  | again hin _ ih =>
      intro before outer rest shape i hshape hdrop hstands
      obtain ⟨helement, hlater⟩ := element_of_drop hdrop
      obtain ⟨reports, htells⟩ := ih before outer rest shape (i + 1) hshape hlater
        (hstands.again hshape helement hin)
      exact ⟨reports, htells.silent (by simp [helement])⟩
  | unknown hnot hnone _ ih =>
      intro before outer rest shape i hshape hdrop hstands
      obtain ⟨helement, hlater⟩ := element_of_drop hdrop
      obtain ⟨-, hfirst⟩ := hstands.firstMet hshape helement hnot
      obtain ⟨reports, htells⟩ := ih before outer rest shape (i + 1) hshape hlater
        (hstands.unknown hshape helement hnone _)
      exact ⟨_, htells.unknown helement hnone hfirst⟩
  | @into name inner _ _ _ _ hnot hinner hrun _ ihinner ihlater =>
      intro before outer rest shape i hshape hdrop hstands
      obtain ⟨helement, hlater⟩ := element_of_drop hdrop
      obtain ⟨-, hfirst⟩ := hstands.firstMet hshape helement hnot
      obtain ⟨told, hinside⟩ := ihinner (before ++ [i]) name (outer :: rest) inner 0 hinner rfl
        (hstands.into hshape helement hnot)
      obtain ⟨reports, htells⟩ := ihlater before outer rest shape (i + 1) hshape hlater
        (hstands.leave hshape helement hinner hrun)
      exact ⟨_, htells.into hinside helement hinner hfirst⟩
  | foreign _ ih =>
      intro before outer rest shape i hshape hdrop hstands
      obtain ⟨helement, hlater⟩ := element_of_drop hdrop
      obtain ⟨reports, htells⟩ := ih before outer rest shape (i + 1) hshape hlater
        (hstands.pass hshape (by simp [helement]) rfl)
      exact ⟨_, htells.foreign helement hshape hstands.first⟩
  | term _ ih =>
      intro before outer rest shape i hshape hdrop hstands
      obtain ⟨helement, hlater⟩ := element_of_drop hdrop
      obtain ⟨reports, htells⟩ := ih before outer rest shape (i + 1) hshape hlater
        (hstands.pass hshape (by simp [helement]) rfl)
      exact ⟨reports, htells.silent (by simp [helement])⟩

end Telling

/-! ## §B How often something is reported -/

section Counts

variable {index : Index} {embedded : List Embed} {tour finish : Tour}

/-- Of the names entered, those that are no interface are reported, each once. -/
def ReportedOnce (index : Index) (tour : Tour) : Prop :=
  ∀ name, tour.warnings.count (.unknownEmbed name) =
    if name ∈ tour.entered ∧ index.shape? name = none then 1 else 0

theorem Follows.reportedOnce (h : Follows index embedded tour finish)
    (hone : ReportedOnce index tour) : ReportedOnce index finish := by
  induction h with
  | done tour => exact hone
  | again _ _ ih => exact ih hone
  | @unknown name rest tour finish hnot hnone _ ih =>
      apply ih
      intro other
      show (tour.warnings ++ [Warning.unknownEmbed name]).count (.unknownEmbed other) =
        if other ∈ tour.entered ++ [name] ∧ _ then 1 else 0
      rw [List.count_append, hone other]
      by_cases heq : name = other
      · subst heq
        simp [hnot, hnone]
      · have hne : ¬other = name := fun h => heq h.symm
        simp [heq, hne]
  | @into name shape rest tour middle finish _ hshape _ _ ihinner ihrest =>
      apply ihrest
      apply ihinner
      intro other
      show tour.warnings.count (.unknownEmbed other) =
        if other ∈ tour.entered ++ [name] ∧ _ then 1 else 0
      rw [hone other]
      by_cases heq : other = name
      · subst heq
        simp [hshape]
      · simp [heq]
  | @foreign package name rest tour finish _ ih =>
      apply ih
      intro other
      show (tour.warnings ++ [Warning.foreignEmbed package name]).count (.unknownEmbed other) = _
      rw [List.count_append, hone other, List.count_eq_zero_of_not_mem (by simp), Nat.add_zero]
      rfl
  | term _ ih => exact ih hone

/-- No name is entered twice. -/
theorem Follows.nodup (h : Follows index embedded tour finish) (hnodup : tour.entered.Nodup) :
    finish.entered.Nodup := by
  have hmark : ∀ {tour : Tour} {name : String}, name ∉ tour.entered → tour.entered.Nodup →
      (tour.mark name).entered.Nodup := by
    intro tour name hnot htour
    rw [Tour.mark_entered, List.nodup_append]
    refine ⟨htour, List.nodup_singleton name, ?_⟩
    rintro other hother _ hname rfl
    rw [List.mem_singleton.mp hname] at hother
    exact hnot hother
  induction h with
  | done tour => exact hnodup
  | again _ _ ih => exact ih hnodup
  | unknown hnot _ _ ih => exact ih (hmark hnot hnodup)
  | into hnot _ _ _ ihinner ihrest => exact ihrest (ihinner (hmark hnot hnodup))
  | foreign _ ih => exact ih hnodup
  | term _ ih => exact ih hnodup

/-- The embedded elements of a name, none where it is no interface. -/
def elementsOf (index : Index) (name : String) : List Embed :=
  ((index.shape? name).map Shape.embedded).getD []

/-- A name that is no interface adds nothing to a sum over embedded elements. -/
theorem sum_filter_interfaces (embed : Embed) (names : List String) :
    ((names.filter fun name => (index.shape? name).isSome).map fun name =>
        (elementsOf index name).count embed).sum =
      (names.map fun name => (elementsOf index name).count embed).sum := by
  induction names with
  | nil => rfl
  | cons name names ih =>
      rw [List.filter_cons, List.map_cons, List.sum_cons]
      cases hshape : index.shape? name with
      | none =>
          have hself : elementsOf index name = [] := by rw [elementsOf, hshape]; rfl
          rw [if_neg (by simp), ih, hself, List.count_nil, Nat.zero_add]
      | some shape => rw [if_pos (by simp), List.map_cons, List.sum_cons, ih]

/-- A run reports an interface of another package as often as it stands in the list gone through and
in the lists of the names newly entered. -/
theorem Follows.count_foreign (h : Follows index embedded tour finish) :
    ∃ new, finish.entered = tour.entered ++ new ∧
      ∀ package name, finish.warnings.count (.foreignEmbed package name) =
        tour.warnings.count (.foreignEmbed package name) +
          (embedded.count (.foreign package name) +
            (new.map fun other => (elementsOf index other).count (.foreign package name)).sum) := by
  induction h with
  | done tour => exact ⟨[], by simp, by simp⟩
  | again _ _ ih =>
      obtain ⟨new, hentered, hcount⟩ := ih
      refine ⟨new, hentered, fun package other => ?_⟩
      rw [hcount, List.count_cons_of_ne (by simp)]
  | @unknown name rest tour finish _ hnone _ ih =>
      obtain ⟨new, hentered, hcount⟩ := ih
      refine ⟨name :: new, ?_, fun package other => ?_⟩
      · rw [hentered, Tour.warn_entered, Tour.mark_entered, List.append_assoc]
        rfl
      · have hself : elementsOf index name = [] := by rw [elementsOf, hnone]; rfl
        rw [hcount, List.count_cons_of_ne (by simp), List.map_cons, List.sum_cons, hself]
        simp [Tour.warn, Tour.mark]
  | @into name shape rest tour middle finish _ hshape _ _ ihinner ihrest =>
      obtain ⟨inside, hmiddle, hinside⟩ := ihinner
      obtain ⟨behind, hentered, hbehind⟩ := ihrest
      refine ⟨name :: (inside ++ behind), ?_, fun package other => ?_⟩
      · rw [hentered, hmiddle, Tour.collect_entered, Tour.mark_entered]
        simp
      · have hself : elementsOf index name = shape.embedded := by rw [elementsOf, hshape]; rfl
        have hmark : ((tour.mark name).collect shape.methods).warnings = tour.warnings := rfl
        rw [hbehind, hinside, hmark, List.count_cons_of_ne (by simp), List.map_cons, List.sum_cons,
          hself, List.map_append, List.sum_append]
        omega
  | @foreign package name rest tour finish _ ih =>
      obtain ⟨new, hentered, hcount⟩ := ih
      refine ⟨new, hentered, fun package' other => ?_⟩
      have hwarn : (tour.warn (.foreignEmbed package name)).warnings =
          tour.warnings ++ [.foreignEmbed package name] := rfl
      have hsame : ([Warning.foreignEmbed package name].count (.foreignEmbed package' other)) =
          [Embed.foreign package name].count (.foreign package' other) := by
        simp [List.count_singleton]
      have hcons : (Embed.foreign package name :: rest).count (.foreign package' other) =
          [Embed.foreign package name].count (.foreign package' other) +
            rest.count (.foreign package' other) := by
        rw [← List.count_append, List.singleton_append]
      rw [hcount, hwarn, List.count_append, hsame, hcons]
      omega
  | term _ ih =>
      obtain ⟨new, hentered, hcount⟩ := ih
      refine ⟨new, hentered, fun package other => ?_⟩
      rw [hcount, List.count_cons_of_ne (by simp)]

end Counts

/-! ## §C The warnings of an interface -/

theorem warnings_eq_tour {index : Index} {name : String} (h : index.shape? name ≠ none) :
    warnings index name = (tour index name).warnings := by
  have hnot : ¬(index.shape? name).isNone = true := fun hn => h (Option.isNone_iff_eq_none.mp hn)
  rw [warnings, if_neg hnot]

/-- Inside the start a run stands at the first position of its list. -/
theorem stands_start (index : Index) (name : String) (shape : Shape) :
    Stands index name [] name [] 0 ((Tour.start.mark name).collect shape.methods) where
  trail := .start
  first := firstMet_start index name
  opened := fun _ h => h
  waiting := by
    rintro path other ⟨names, htrail⟩ hnot
    cases path with
    | nil =>
        -- the empty path leads to the start, which is entered
        cases htrail.unique .start
        exact absurd List.mem_cons_self hnot
    | cons j tail => exact Or.inl ⟨j, tail, Nat.zero_le j, rfl⟩
  closed := fun _ h => Or.inl h

/-- The tour of an interface tells everything that is due, each at its place. -/
theorem exists_reports {index : Index} {name : String} (h : index.shape? name ≠ none) :
    ∃ reports : List (List Nat × Warning),
      warnings index name = reports.map Prod.snd ∧
        (reports.Pairwise fun r s => Before r.1 s.1) ∧
          ∀ path w, (path, w) ∈ reports ↔ Reported index name path w := by
  obtain ⟨shape, hshape⟩ := Option.ne_none_iff_exists'.mp h
  obtain ⟨reports, htells⟩ : ∃ reports, Tells index name [] shape 0
      ((Tour.start.mark name).collect shape.methods) (tour index name) reports := by
    cases follows_tour index name with
    | again hin _ => cases hin
    | unknown _ hnone _ => exact absurd hnone h
    | into _ hsome hinner hrest =>
        rw [hshape] at hsome
        cases hsome
        cases hrest
        exact hinner.tells [] name [] shape 0 hshape rfl (stands_start index name shape)
  -- whatever is met is entered, so what is due about it is told
  have hgiven : ∀ path other, FirstMet index name path other → Given index reports path other := by
    intro path other hfirst
    have hin := (mem_entered_tour index name other).mpr hfirst.1.reachable
    rcases htells.entered other hin with hold | ⟨path', hfirst', hgiven⟩
    · cases List.mem_singleton.mp hold
      cases hfirst.unique (firstMet_start index name)
      refine ⟨fun hnone => absurd hnone h, ?_⟩
      intro shape' j package foreign hshape' hj
      rw [hshape] at hshape'
      cases hshape'
      exact htells.foreigns j package foreign (Nat.zero_le j) hj
    · rw [hfirst.unique hfirst']
      exact hgiven
  refine ⟨reports, ?_, htells.ascending, ?_⟩
  · rw [warnings_eq_tour h]
    exact htells.warnings
  · intro path w
    refine ⟨htells.due (path, w), ?_⟩
    cases w with
    | notAnInterface file other => exact False.elim
    | unknownEmbed other =>
        rintro ⟨hfirst, hnone⟩
        exact (hgiven path other hfirst).1 hnone
    | foreignEmbed package other =>
        rintro ⟨before, i, outer, shape', rfl, hfirst, hshape', hi⟩
        exact (hgiven before outer hfirst).2 shape' i package other hshape' hi

theorem count_unknown {index : Index} {name : String} (h : index.shape? name ≠ none)
    (inner : String) :
    (warnings index name).count (.unknownEmbed inner) ≤ 1 ∧
      (.unknownEmbed inner ∈ warnings index name ↔
        ReflTransGen (Mentions index) name inner ∧ index.shape? inner = none) := by
  have hcount := (follows_tour index name).reportedOnce (fun _ => rfl) inner
  rw [warnings_eq_tour h, ← mem_entered_tour, ← List.count_pos_iff, hcount]
  split
  · rename_i hreported
    exact ⟨Nat.le_refl 1, iff_of_true Nat.one_pos hreported⟩
  · rename_i hreported
    exact ⟨Nat.zero_le 1, iff_of_false (Nat.lt_irrefl 0) hreported⟩

/-- The interfaces reachable by embedding, each once, with how often they report an interface of
another package. -/
theorem exists_interfaces {index : Index} {name : String} (h : index.shape? name ≠ none) :
    ∃ interfaces : List String, interfaces.Nodup ∧
      (∀ inner, inner ∈ interfaces ↔ ReflTransGen (Embeds index) name inner) ∧
        ∀ package other, (warnings index name).count (.foreignEmbed package other) =
          (interfaces.map fun inner =>
            (elementsOf index inner).count (.foreign package other)).sum := by
  have hrun := follows_tour index name
  obtain ⟨new, hentered, hcount⟩ := hrun.count_foreign
  rw [Tour.start, List.nil_append] at hentered
  refine ⟨new.filter fun inner => (index.shape? inner).isSome, ?_, ?_, ?_⟩
  · rw [← hentered]
    exact (hrun.nodup List.nodup_nil).filter _
  · intro inner
    rw [List.mem_filter, ← hentered, mem_entered_tour, Option.isSome_iff_ne_none]
    constructor
    · rintro ⟨hreach, hsome⟩
      exact embeds_of_mentions hreach hsome
    · intro hreach
      refine ⟨mentions_of_embeds hreach, ?_⟩
      cases hreach with
      | refl => exact h
      | tail _ hlast => exact hlast.2
  · intro package other
    rw [warnings_eq_tour h, hcount, List.count_cons_of_ne (by simp), sum_filter_interfaces]
    simp [Tour.start]

/-- **The warnings of an interface.** They are those of the depth-first run, of which there is one. A
name that is no interface is reported once if it is reachable, however often it is embedded. An
interface of another package is reported once for each time that it stands in the list of a reachable
interface. Nothing else is reported. The order is that of the places: an element comes before what it
embeds, and all of that before the next element, where a name counts where it is first met. -/
theorem warnings_depthFirst {index : Index} {name : String} (h : index.shape? name ≠ none) :
    (∃ finish, (∀ other, Follows index [.sibling name] .start other ↔ other = finish) ∧
        warnings index name = finish.warnings) ∧
      (∃ reports : List (List Nat × Warning),
        warnings index name = reports.map Prod.snd ∧
          (reports.Pairwise fun r s => Before r.1 s.1) ∧
            ∀ path w, (path, w) ∈ reports ↔ Reported index name path w) ∧
      (∀ inner, (warnings index name).count (.unknownEmbed inner) ≤ 1 ∧
        (.unknownEmbed inner ∈ warnings index name ↔
          ReflTransGen (Mentions index) name inner ∧ index.shape? inner = none)) ∧
      ∃ interfaces : List String, interfaces.Nodup ∧
        (∀ inner, inner ∈ interfaces ↔ ReflTransGen (Embeds index) name inner) ∧
          ∀ package other, (warnings index name).count (.foreignEmbed package other) =
            (interfaces.map fun inner =>
              (elementsOf index inner).count (.foreign package other)).sum := by
  refine ⟨⟨tour index name, ?_, warnings_eq_tour h⟩, exists_reports h, count_unknown h,
    exists_interfaces h⟩
  intro other
  constructor
  · intro hrun
    exact hrun.unique (follows_tour index name)
  · rintro rfl
    exact follows_tour index name

/-- An interface `Node` that embeds a name of another package twice, an interface `Net` that embeds
`Node` in turn, and a name `Lost` that nothing declares, which `Net` embeds as well. -/
def knot : Index :=
  Index.ofList
    [⟨"Node", .interface, some ⟨["Version"],
        [.foreign "io" "Closer", .sibling "Net", .sibling "Lost", .foreign "io" "Closer"]⟩⟩,
     ⟨"Net", .interface, some ⟨[], [.sibling "Node", .sibling "Lost", .foreign "io" "Reader"]⟩⟩]

/-- `Lost` is reported once and where `Net` embeds it, since `Net` is gone into first. -/
theorem warnings_depthFirst_knot :
    knot.shape? "Node" ≠ none ∧
      warnings knot "Node" =
        [.foreignEmbed "io" "Closer", .unknownEmbed "Lost", .foreignEmbed "io" "Reader",
         .foreignEmbed "io" "Closer"] ∧
      ReflTransGen (Mentions knot) "Node" "Lost" ∧
      ∃ reports : List (List Nat × Warning),
        warnings knot "Node" = reports.map Prod.snd ∧
          (reports.Pairwise fun r s => Before r.1 s.1) ∧
            ∀ path w, (path, w) ∈ reports ↔ Reported knot "Node" path w := by
  have hnode : knot.shape? "Node" ≠ none := by decide
  have hall : warnings knot "Node" =
      [.foreignEmbed "io" "Closer", .unknownEmbed "Lost", .foreignEmbed "io" "Reader",
       .foreignEmbed "io" "Closer"] := by decide
  obtain ⟨-, hreports, hunknown, -⟩ := warnings_depthFirst hnode
  refine ⟨hnode, hall, ((hunknown "Lost").2.mp ?_).1, hreports⟩
  rw [hall]
  decide

end RollCall.MethodSet
