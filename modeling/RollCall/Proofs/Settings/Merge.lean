import RollCall.Proofs.Dictionary
import RollCall.Settings.Value

/-!
# RollCall.Proofs.Settings.Merge — what one layer over another tells of every path

A layer is looked at path by path. Of a path it **tells** that a table stands there, that a plain
value stands there, or that nothing can stand there because a plain value stands further up; of a
path that runs out of its tables it tells nothing. The difference between the last two is what
merging is about: the upper layer is asked first, and only where it is silent the lower one is heard
(`sight_merge`).

What is in sight of a merged layer follows this law over every lower layer. What the merged layer
*tells*, in front of yet another one, does not: below a plain value that an upper table has covered
the lower layer still tells that nothing can stand there, while the merged one is silent.
`tells_merge` is the law for layers that do not cover each other in this way.
-/

namespace RollCall.Setting

/-! ## §A Looking along a path -/

/-- What stands at a path: nothing, a table, or a value that is no table. -/
inductive Standing where
  | absent
  | table
  | plain (value : Setting)

/-- What a value is where it stands. -/
def standing : Setting → Standing
  | .table _ => .table
  | v => .plain v

/-- The value under a name. -/
def child (name : String) : Setting → Option Setting
  | .table entries => Dictionary.get? name entries
  | _ => none

/-- What a layer tells of a path. -/
def tells : List String → Setting → Option Standing
  | [], v => some v.standing
  | name :: path, .table entries => (Dictionary.get? name entries).bind (tells path)
  | _ :: _, _ => some .absent

/-- What is to be seen at a path of a layer that has nothing below it. -/
def sight (path : List String) (v : Setting) : Standing := (v.tells path).getD .absent

@[simp]
theorem tells_nil (v : Setting) : v.tells [] = some v.standing := by cases v <;> rfl

theorem tells_cons_table (name : String) (path : List String) (entries : List (String × Setting)) :
    (Setting.table entries).tells (name :: path) =
      ((Setting.table entries).child name).bind (tells path) := rfl

theorem tells_cons_plain {v : Setting} (hv : v.standing ≠ .table) (name : String)
    (path : List String) : v.tells (name :: path) = some .absent := by
  cases v with
  | table entries => exact absurd rfl hv
  | _ => rfl

theorem child_plain {v : Setting} (hv : v.standing ≠ .table) (name : String) :
    v.child name = none := by
  cases v with
  | table entries => exact absurd rfl hv
  | _ => rfl

theorem standing_eq_table_iff {v : Setting} :
    v.standing = .table ↔ ∃ entries, v = .table entries := by
  cases v <;> simp [standing]

theorem standing_eq_plain {v w : Setting} (h : v.standing = .plain w) : v = w := by
  cases v <;> simp_all [standing]

theorem standing_ne_absent (v : Setting) : v.standing ≠ .absent := by cases v <;> nofun

@[simp]
theorem sight_nil (v : Setting) : v.sight [] = v.standing := by simp [sight]

/-- Sight does not tell a path below a plain value from one that runs out. -/
theorem sight_cons (name : String) (path : List String) (v : Setting) :
    v.sight (name :: path) = ((v.child name).map (sight path)).getD .absent := by
  by_cases hv : v.standing = .table
  · obtain ⟨entries, rfl⟩ := standing_eq_table_iff.mp hv
    rw [sight, tells_cons_table]
    cases (Setting.table entries).child name <;> rfl
  · rw [sight, tells_cons_plain hv, child_plain hv]
    rfl

/-- A plain value replaces whatever is below it. -/
theorem merge_plain {upper : Setting} (hu : upper.standing ≠ .table) (lower : Setting) :
    lower.merge upper = upper := by
  cases upper with
  | table entries => exact absurd rfl hu
  | _ => simp [merge]

/-- Whatever comes over a plain value replaces it. -/
theorem merge_over_plain {lower : Setting} (hl : lower.standing ≠ .table) (upper : Setting) :
    lower.merge upper = upper := by
  cases upper with
  | table upper =>
      cases lower with
      | table entries => exact absurd rfl hl
      | _ => simp [merge]
  | _ => simp [merge]

/-! ## §B Tables in order -/

/-- Every table that is reached through tables has its names in ascending order. What lies inside a
list never meets another layer and is left out. -/
inductive Ordered : Setting → Prop where
  | table {entries : List (String × Setting)} (names : Dictionary.Ascending entries)
      (values : ∀ entry ∈ entries, Ordered entry.2) : Ordered (.table entries)
  | plain {v : Setting} (h : v.standing ≠ .table) : Ordered v

theorem Ordered.names {entries : List (String × Setting)} (h : Ordered (.table entries)) :
    Dictionary.Ascending entries := by
  cases h with
  | table names values => exact names
  | plain h => exact absurd rfl h

theorem Ordered.values {entries : List (String × Setting)} (h : Ordered (.table entries)) :
    ∀ entry ∈ entries, Ordered entry.2 := by
  cases h with
  | table names values => exact values
  | plain h => exact absurd rfl h

theorem Ordered.child {v w : Setting} {name : String} (h : Ordered v) (hw : v.child name = some w) :
    Ordered w := by
  cases h with
  | table names values => exact values _ (Dictionary.mem_of_get? hw)
  | plain h => rw [child_plain h] at hw; cases hw

theorem ordered_nil : Ordered (.table []) :=
  .table Dictionary.ascending_nil (by simp)

theorem Ordered.set {entries : List (String × Setting)} (h : Ordered (.table entries))
    (name : String) {v : Setting} (hv : Ordered v) :
    Ordered (.table (Dictionary.set name v entries)) := by
  refine .table (h.names.set name v) ?_
  intro entry hentry
  rcases Dictionary.mem_of_mem_set hentry with rfl | hentry
  · exact hv
  · exact h.values entry hentry

theorem Ordered.nest {v : Setting} (h : Ordered v) (path : List String) :
    Ordered (nest path v) := by
  induction path with
  | nil => exact h
  | cons name path ih => exact ordered_nil.set name ih

/-- Entries are merged one after the other, so it is enough that each merge keeps the order. -/
theorem Ordered.mergeEntries {lower upper : List (String × Setting)} (hl : Ordered (.table lower))
    (hu : ∀ entry ∈ upper, Ordered entry.2)
    (hm : ∀ entry ∈ upper, ∀ old, Ordered old → Ordered (old.merge entry.2)) :
    Ordered (.table (mergeEntries lower upper)) := by
  induction upper generalizing lower with
  | nil => rwa [Setting.mergeEntries]
  | cons entry upper ih =>
      obtain ⟨name, v⟩ := entry
      rw [Setting.mergeEntries]
      refine ih ?_ (fun e he => hu e (List.mem_cons_of_mem _ he))
        (fun e he => hm e (List.mem_cons_of_mem _ he))
      refine hl.set name ?_
      cases hold : Dictionary.get? name lower with
      | none => exact hu (name, v) List.mem_cons_self
      | some old =>
          exact hm (name, v) List.mem_cons_self old (hl.values _ (Dictionary.mem_of_get? hold))

/-- Merging keeps every table in order. -/
theorem Ordered.merge {lower upper : Setting} (hl : Ordered lower) (hu : Ordered upper) :
    Ordered (lower.merge upper) := by
  induction hu generalizing lower with
  | @table entries names values ih =>
      by_cases hlower : lower.standing = .table
      · obtain ⟨below, rfl⟩ := standing_eq_table_iff.mp hlower
        rw [Setting.merge]
        exact hl.mergeEntries values fun entry hentry old hold => ih entry hentry hold
      · rw [merge_over_plain hlower]
        exact .table names values
  | @plain v h =>
      rw [merge_plain h]
      exact .plain h

/-- What is seen along all paths is all there is to values in order. -/
theorem Ordered.ext {v w : Setting} (hv : Ordered v) (hw : Ordered w)
    (h : ∀ path, v.sight path = w.sight path) : v = w := by
  induction hv generalizing w with
  | @plain v hplain =>
      have hself : v.standing = .plain v := by
        cases v with
        | table entries => exact absurd rfl hplain
        | _ => rfl
      have hroot : w.standing = .plain v := by simpa [hself] using (h []).symm
      exact (standing_eq_plain hroot).symm
  | @table entries names values ih =>
      have hroot : w.standing = .table := by simpa [standing] using (h []).symm
      obtain ⟨others, rfl⟩ := standing_eq_table_iff.mp hroot
      congr 1
      refine names.ext hw.names fun name => ?_
      -- a name that only one of the two has would be seen at the path of that name alone
      show (Setting.table entries).child name = (Setting.table others).child name
      have hname := fun path => h (name :: path)
      simp only [sight_cons] at hname
      cases hleft : (Setting.table entries).child name with
      | none =>
          cases hright : (Setting.table others).child name with
          | none => rfl
          | some b => simpa [hleft, hright, (standing_ne_absent b).symm] using hname []
      | some a =>
          cases hright : (Setting.table others).child name with
          | none => simpa [hleft, hright, standing_ne_absent] using hname []
          | some b =>
              have hsame : a = b := by
                apply ih (name, a) (Dictionary.mem_of_get? hleft) (hw.child hright)
                simpa [hleft, hright] using hname
              rw [hsame]

/-- **Plain outcomes.** What a reader gives, if anything, is no table. -/
def PlainOnly (outcome : Option Setting) : Prop := ∀ v, outcome = some v → v.standing ≠ .table

theorem plainOnly_none : PlainOnly none := nofun

theorem plainOnly_some {v : Setting} (hv : v.standing ≠ .table) : PlainOnly (some v) := by
  rintro w ⟨⟩
  exact hv

theorem PlainOnly.bind {α : Type} {outcome : Option α} {next : α → Option Setting}
    (h : ∀ a, PlainOnly (next a)) : PlainOnly (outcome.bind next) := by
  intro v hv
  obtain ⟨a, -, hv⟩ := Option.bind_eq_some_iff.mp hv
  exact h a v hv

theorem PlainOnly.or {first second : Option Setting} (hfirst : PlainOnly first)
    (hsecond : PlainOnly second) : PlainOnly (first.or second) := by
  intro v hv
  rcases Option.or_eq_some_iff.mp hv with hv | ⟨-, hv⟩
  · exact hfirst v hv
  · exact hsecond v hv

/-! ## §C Merged layers, path by path -/

/-- A value over what may stand below it. -/
def atop (old : Option Setting) (v : Setting) : Setting := old.elim v (·.merge v)

theorem standing_merge (lower upper : Setting) : (lower.merge upper).standing = upper.standing := by
  by_cases hlower : lower.standing = .table
  · obtain ⟨lower, rfl⟩ := standing_eq_table_iff.mp hlower
    cases upper <;> simp [merge, standing]
  · rw [merge_over_plain hlower]

theorem get?_mergeEntries (name : String) (lower : List (String × Setting))
    {upper : List (String × Setting)} (hu : (Dictionary.names upper).Nodup) :
    Dictionary.get? name (mergeEntries lower upper) =
      ((Dictionary.get? name upper).map (atop (Dictionary.get? name lower))).or
        (Dictionary.get? name lower) := by
  induction upper generalizing lower with
  | nil => simp [mergeEntries]
  | cons entry upper ih =>
      obtain ⟨other, v⟩ := entry
      rw [Dictionary.names_cons, List.nodup_cons] at hu
      rw [mergeEntries, ih _ hu.2, Dictionary.get?_cons]
      by_cases hname : other = name
      · -- the entry just merged meets no second one of its name
        subst hname
        have hrest : Dictionary.get? other upper = none :=
          (Dictionary.get?_eq_none_iff other upper).mpr hu.1
        rw [hrest, Dictionary.get?_set_self, if_pos rfl]
        cases Dictionary.get? other lower <;> rfl
      · rw [Dictionary.get?_set_ne hname, if_neg hname]

/-- Under a name of a table over anything stands the upper value over the lower one. -/
theorem child_merge {upper : List (String × Setting)} (hu : Ordered (.table upper))
    (lower : Setting) (name : String) :
    (lower.merge (.table upper)).child name =
      (((Setting.table upper).child name).map (atop (lower.child name))).or (lower.child name) := by
  by_cases hlower : lower.standing = .table
  · obtain ⟨lower, rfl⟩ := standing_eq_table_iff.mp hlower
    rw [merge]
    exact get?_mergeEntries name lower hu.names.nodup
  · rw [merge_over_plain hlower, child_plain hlower]
    cases (Setting.table upper).child name <;> rfl

/-- What the upper layer tells of a path is seen there; where it is silent the lower layer is. -/
theorem sight_merge {upper : Setting} (hu : Ordered upper) (lower : Setting) (path : List String) :
    (lower.merge upper).sight path = (upper.tells path).getD (lower.sight path) := by
  induction path generalizing lower upper with
  | nil => simp [standing_merge]
  | cons name path ih =>
      by_cases hstanding : upper.standing = .table
      · -- a table over anything: the question goes on to what stands under the name
        obtain ⟨entries, rfl⟩ := standing_eq_table_iff.mp hstanding
        rw [sight_cons, sight_cons, child_merge hu, tells_cons_table]
        cases hup : (Setting.table entries).child name with
        | none => simp
        | some v =>
            cases lower.child name with
            | none => simp [atop, sight]
            | some old => simpa [atop] using ih (hu.child hup) old
      · rw [merge_plain hstanding, sight, tells_cons_plain hstanding]
        rfl

/-- **No covering.** Nowhere does a table of the upper layer come over a plain value. -/
def Uncovered (lower upper : Setting) : Prop :=
  ∀ path v, lower.tells path = some (.plain v) → upper.tells path ≠ some .table

theorem Uncovered.child {lower upper : List (String × Setting)}
    (h : Uncovered (.table lower) (.table upper)) {name : String} {old v : Setting}
    (hold : (Setting.table lower).child name = some old)
    (hv : (Setting.table upper).child name = some v) : Uncovered old v := by
  intro path w hw
  have hname := h (name :: path) w
  rw [tells_cons_table, tells_cons_table, hold, hv] at hname
  exact hname hw

/-- Layers that do not cover each other: the upper one is asked first, then the lower one. -/
theorem tells_merge {lower upper : Setting} (hu : Ordered upper) (h : Uncovered lower upper)
    (path : List String) :
    (lower.merge upper).tells path = (upper.tells path).or (lower.tells path) := by
  induction path generalizing lower upper with
  | nil => simp [standing_merge]
  | cons name path ih =>
      by_cases hstanding : upper.standing = .table
      · have hlower : lower.standing = .table := by
          cases hplain : lower.standing with
          | table => rfl
          | absent => cases lower <;> cases hplain
          | plain v => exact absurd (by simp [hstanding]) (h [] v (by simp [hplain]))
        obtain ⟨entries, rfl⟩ := standing_eq_table_iff.mp hstanding
        obtain ⟨below, rfl⟩ := standing_eq_table_iff.mp hlower
        -- both are tables, so the merged layer is one and its names can be looked up
        obtain ⟨merged, hmerged⟩ : ∃ merged,
            merge (.table below) (.table entries) = .table merged := ⟨_, by rw [merge]⟩
        have hchild := child_merge hu (.table below) name
        rw [hmerged] at hchild ⊢
        rw [tells_cons_table, tells_cons_table, tells_cons_table, hchild]
        cases hup : (Setting.table entries).child name with
        | none => simp
        | some v =>
            cases hold : (Setting.table below).child name with
            | none => simp [atop]
            | some old => simpa [atop] using ih (hu.child hup) (h.child hold hup)
      · rw [merge_plain hstanding, tells_cons_plain hstanding]
        rfl

/-! ## §D One value under a path -/

/-- A value under a path tells of a table above itself, and of nothing beside the path. -/
theorem tells_nest_cases (path place : List String) (v : Setting) :
    (path <+: place) ∨ (place <+: path ∧ (nest path v).tells place = some .table) ∨
      (nest path v).tells place = none := by
  induction path generalizing place with
  | nil => exact .inl place.nil_prefix
  | cons name path ih =>
      cases place with
      | nil => exact .inr (.inl ⟨List.nil_prefix, rfl⟩)
      | cons other place =>
          rw [nest, tells_cons_table, child, Dictionary.get?_cons, Dictionary.get?_nil]
          by_cases hname : name = other
          · subst hname
            rw [if_pos rfl, Option.bind_some, List.prefix_cons_inj, List.prefix_cons_inj]
            exact ih place
          · rw [if_neg hname]
            exact .inr (.inr rfl)

end RollCall.Setting
