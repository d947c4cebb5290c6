import RollCall.Proofs.Settings.Merge
import RollCall.Proofs.Text
import RollCall.Settings.Environment

/-!
# RollCall.Proofs.Settings.Variables — what the environment tells of a path

Every variable is a layer of its own: its value under its path. Variables whose paths stand
**apart**, none of them the beginning of another, do not get in each other's way: one tells of the
paths below its own path what no other speaks of, and above it all of them can only tell of tables.
So the layer of the environment tells of a path what the variables tell one by one, in whatever
order (`environmentLayer_tells`).
-/

namespace RollCall.Settings

open RollCall.Setting (Standing Ordered Uncovered PlainOnly plainOnly_none plainOnly_some)

/-! ## §A The values of variables -/

theorem pointNumber?_plain (cs : List Char) : PlainOnly (pointNumber? cs) := by
  unfold pointNumber?
  simp only [Option.bind_eq_bind]
  -- whatever the exponent is, each branch ends in a number or in nothing
  repeat' first
    | exact plainOnly_none
    | exact plainOnly_some nofun
    | refine PlainOnly.bind fun _ => ?_
    | split

theorem integer?_plain (cs : List Char) : PlainOnly (integer? cs) := by
  simp only [integer?]
  split_ifs
  · exact plainOnly_none
  · exact plainOnly_some nofun
  · exact plainOnly_none
  · exact plainOnly_some nofun
  · exact plainOnly_none

theorem plainValue_ordered (cs : List Char) : (plainValue cs).Ordered := by
  apply Ordered.plain
  unfold plainValue
  simp only
  set number := if (Text.trim cs).contains '.' then pointNumber? (Text.trim cs) else none
    with hnumber
  have hplain : PlainOnly number := by
    rw [hnumber]
    split
    · exact pointNumber?_plain _
    · exact plainOnly_none
  cases hvalue : number.or (integer? (Text.trim cs)) with
  | none => nofun
  | some v => exact hplain.or (integer?_plain _) v hvalue

/-- A value is in order if the entries of a table are. Lists are not followed: a list is plain
whatever it holds. -/
theorem readValue_step {fuel : Nat}
    (hentries : ∀ cs entries rest, readEntries fuel cs = some (entries, rest) →
      ∀ entry ∈ entries, entry.2.Ordered)
    {cs rest : List Char} {v : Setting} (h : readValue (fuel + 1) cs = some (v, rest)) :
    v.Ordered := by
  simp only [readValue, Option.map_eq_some_iff, Prod.exists, Prod.mk.injEq] at h
  obtain ⟨v, rest, h, rfl, -⟩ := h
  split at h
  · cases h; exact .plain nofun
  · cases h; exact .plain nofun
  · -- a table: of entries with one name the last stays, which is one of those read
    obtain ⟨⟨entries, left⟩, hread, heq⟩ := Option.map_eq_some_iff.mp h
    cases heq
    refine .table (Dictionary.ascending_ofList entries) ?_
    intro entry hentry
    exact hentries _ _ _ hread entry (Dictionary.mem_of_mem_ofList hentry)
  · obtain ⟨⟨items, left⟩, -, heq⟩ := Option.map_eq_some_iff.mp h
    cases heq
    exact .plain nofun
  · obtain ⟨⟨text, left⟩, -, heq⟩ := Option.map_eq_some_iff.mp h
    cases heq
    exact .plain nofun
  · -- a character between apostrophes, or a plain word
    split at h
    · split at h
      · split at h
        · cases h; exact .plain nofun
        · cases h
      · cases h
    · cases h
      exact plainValue_ordered _
  · cases h
    exact plainValue_ordered _

theorem readEntries_step {fuel : Nat}
    (hvalue : ∀ cs v rest, readValue fuel cs = some (v, rest) → v.Ordered)
    (hentries : ∀ cs entries rest, readEntries fuel cs = some (entries, rest) →
      ∀ entry ∈ entries, entry.2.Ordered)
    {cs rest : List Char} {entries : List (String × Setting)}
    (h : readEntries (fuel + 1) cs = some (entries, rest)) :
    ∀ entry ∈ entries, entry.2.Ordered := by
  rw [readEntries.eq_def] at h
  simp only at h
  split at h
  · cases h
    simp
  · split at h
    · cases h
    · split at h
      · split at h
        · rename_i v left hread
          obtain ⟨⟨more, last⟩, hmore, heq⟩ := Option.map_eq_some_iff.mp h
          cases heq
          intro entry hentry
          rcases List.mem_cons.mp hentry with rfl | hentry
          · exact hvalue _ _ _ hread
          · exact hentries _ _ _ hmore entry hentry
        · rename_i v left hread
          cases h
          intro entry hentry
          rw [List.mem_singleton.mp hentry]
          exact hvalue _ _ _ hread
        · cases h
      · cases h

theorem read_ordered (fuel : Nat) :
    (∀ cs v rest, readValue fuel cs = some (v, rest) → v.Ordered) ∧
      ∀ cs entries rest, readEntries fuel cs = some (entries, rest) →
        ∀ entry ∈ entries, entry.2.Ordered := by
  induction fuel with
  | zero => simp [readValue, readEntries]
  | succ fuel ih =>
      refine ⟨?_, ?_⟩
      · intro cs v rest
        exact readValue_step ih.2
      · intro cs entries rest
        exact readEntries_step ih.1 ih.2

theorem variableValue_ordered (text : String) : (variableValue text).Ordered := by
  unfold variableValue
  simp only
  split
  · rename_i v hread
    exact (read_ordered _).1 _ _ _ hread
  · exact .plain nofun

/-! ## §B Variables apart -/

/-- The path of a variable has at least one name. -/
theorem variablePath?_ne_nil {name : String} {path : List String}
    (h : variablePath? name = some path) : path ≠ [] := by
  unfold variablePath? at h
  split at h
  · cases h
  · rename_i rest hrest
    simp only at h
    split at h
    · cases h
    · cases h
      rw [Text.pieces_eq_splitOnP, ne_eq, List.map_eq_nil_iff]
      exact List.splitOnP_ne_nil _ _

/-- **Apart.** No variable sets the path of another one or a beginning of it. -/
def Apart (environment : List (String × String)) : Prop :=
  (environment.filterMap fun entry => variablePath? entry.1).Pairwise fun p q =>
    ¬p <+: q ∧ ¬q <+: p

/-- The layer of one variable. -/
def layerOf? (entry : String × String) : Option Setting :=
  (variablePath? entry.1).map fun path => Setting.nest path (variableValue entry.2)

/-- What the environment tells of a path: what the first variable does that tells anything. -/
def told (environment : List (String × String)) (path : List String) : Option Standing :=
  environment.findSome? fun entry => (layerOf? entry).bind (Setting.tells path)

variable {environment : List (String × String)}

theorem told_append (front back : List (String × String)) (path : List String) :
    told (front ++ back) path = (told front path).or (told back path) :=
  List.findSome?_append

theorem told_eq_some {path : List String} {standing : Standing}
    (h : told environment path = some standing) :
    ∃ entry ∈ environment, ∃ p, variablePath? entry.1 = some p ∧
      (Setting.nest p (variableValue entry.2)).tells path = some standing := by
  obtain ⟨entry, hentry, htells⟩ := List.exists_of_findSome?_eq_some h
  obtain ⟨layer, hlayer, htells⟩ := Option.bind_eq_some_iff.mp htells
  obtain ⟨p, hp, rfl⟩ := Option.map_eq_some_iff.mp hlayer
  exact ⟨entry, hentry, p, hp, htells⟩

/-- Of a path of which two variables apart tell something both tell that a table stands there. -/
theorem tells_table_of_apart {p q path : List String} {v w : Setting} {a b : Standing}
    (hpq : ¬p <+: q) (hqp : ¬q <+: p) (ha : (Setting.nest p v).tells path = some a)
    (hb : (Setting.nest q w).tells path = some b) : a = .table ∧ b = .table := by
  rcases Setting.tells_nest_cases p path v with hp | ⟨hp, htable⟩ | hnone
  · -- below `p` the other path cannot be, above it it would hold `p`
    rcases Setting.tells_nest_cases q path w with hq | ⟨hq, -⟩ | hnone
    · rcases List.prefix_or_prefix_of_prefix hp hq with h | h
      · exact absurd h hpq
      · exact absurd h hqp
    · exact absurd (hp.trans hq) hpq
    · rw [hnone] at hb; cases hb
  · rcases Setting.tells_nest_cases q path w with hq | ⟨hq, hother⟩ | hnone
    · exact absurd (hq.trans hp) hqp
    · rw [htable] at ha
      rw [hother] at hb
      cases ha
      cases hb
      exact ⟨rfl, rfl⟩
    · rw [hnone] at hb; cases hb
  · rw [hnone] at ha; cases ha

theorem environmentLayer_append (front : List (String × String)) (entry : String × String) :
    environmentLayer (front ++ [entry]) =
      ((layerOf? entry).map (environmentLayer front).merge).getD (environmentLayer front) := by
  obtain ⟨name, text⟩ := entry
  rw [environmentLayer, List.foldl_append, ← environmentLayer]
  simp only [List.foldl_cons, List.foldl_nil, layerOf?]
  cases variablePath? name <;> rfl

theorem layerOf?_ordered {entry : String × String} {layer : Setting}
    (h : layerOf? entry = some layer) : layer.Ordered := by
  obtain ⟨path, -, rfl⟩ := Option.map_eq_some_iff.mp h
  exact (variableValue_ordered entry.2).nest path

theorem environmentLayer_ordered (environment : List (String × String)) :
    (environmentLayer environment).Ordered := by
  induction environment using List.reverseRecOn with
  | nil => exact Setting.ordered_nil
  | append_singleton front entry ih =>
      rw [environmentLayer_append]
      cases hlayer : layerOf? entry with
      | none => exact ih
      | some layer => exact ih.merge (layerOf?_ordered hlayer)

theorem environmentLayer_standing (environment : List (String × String)) :
    (environmentLayer environment).standing = .table := by
  induction environment using List.reverseRecOn with
  | nil => rfl
  | append_singleton front entry ih =>
      rw [environmentLayer_append]
      cases hlayer : layerOf? entry with
      | none => exact ih
      | some layer =>
          obtain ⟨path, hpath, rfl⟩ := Option.map_eq_some_iff.mp hlayer
          obtain ⟨name, rest, rfl⟩ := List.exists_cons_of_ne_nil (variablePath?_ne_nil hpath)
          exact Setting.standing_merge _ _

/-- A variable behind others that stand apart from it meets them in tables only. -/
theorem told_meets {front : List (String × String)} {entry : String × String}
    (hapart : Apart (front ++ [entry])) {layer : Setting} (hlayer : layerOf? entry = some layer)
    {path : List String} {a b : Standing} (ha : told front path = some a)
    (hb : layer.tells path = some b) : a = .table ∧ b = .table := by
  obtain ⟨q, hq, rfl⟩ := Option.map_eq_some_iff.mp hlayer
  obtain ⟨other, hother, p, hp, htells⟩ := told_eq_some ha
  rw [Apart, List.filterMap_append, List.pairwise_append] at hapart
  have hmem : p ∈ front.filterMap fun entry => variablePath? entry.1 :=
    List.mem_filterMap.mpr ⟨other, hother, hp⟩
  have hlast : q ∈ [entry].filterMap fun entry => variablePath? entry.1 :=
    List.mem_filterMap.mpr ⟨entry, List.mem_singleton.mpr rfl, hq⟩
  obtain ⟨hpq, hqp⟩ := hapart.2.2 p hmem q hlast
  exact tells_table_of_apart hpq hqp htells hb

/-- The layer of an environment tells of a path what its variables tell. -/
theorem environmentLayer_tells (hapart : Apart environment) {path : List String}
    (hpath : path ≠ []) : (environmentLayer environment).tells path = told environment path := by
  -- the last variable comes over the layer of those in front of it
  induction environment using List.reverseRecOn generalizing path with
  | nil =>
      obtain ⟨name, rest, rfl⟩ := List.exists_cons_of_ne_nil hpath
      rfl
  | append_singleton front entry ih =>
      have hfront : Apart front := by
        rw [Apart, List.filterMap_append, List.pairwise_append] at hapart
        exact hapart.1
      rw [environmentLayer_append, told_append]
      cases hlayer : layerOf? entry with
      | none => simpa [told, hlayer] using ih hfront hpath
      | some layer =>
          have huncovered : Uncovered (environmentLayer front) layer := by
            intro place v hv htable
            by_cases hplace : place = []
            · subst hplace
              simp [environmentLayer_standing] at hv
            · rw [ih hfront hplace] at hv
              exact absurd (told_meets hapart hlayer hv htable).1 nofun
          have hlast : told [entry] path = layer.tells path := by simp [told, hlayer]
          rw [Option.map_some, Option.getD_some,
            Setting.tells_merge (layerOf?_ordered hlayer) huncovered, ih hfront hpath, hlast]
          -- merging asks the last variable first, the list asks it last
          cases hb : layer.tells path with
          | none => simp
          | some b =>
              cases ha : told front path with
              | none => rfl
              | some a =>
                  obtain ⟨rfl, rfl⟩ := told_meets hapart hlayer ha hb
                  rfl

end RollCall.Settings
