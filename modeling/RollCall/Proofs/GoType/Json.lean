import RollCall.GoType.Json
import RollCall.Proofs.Dictionary
import RollCall.Proofs.Source.Spelled

/-!
# RollCall.Proofs.GoType.Json — a type is read back from its JSON

Every type can be written as a tagged object, and the reader gets it back. It also gets it back where
the object came from someone who writes more or less than is needed: `Loosened v v'` says that `v'`
is `v` with members added that the format does not know, and with packages and lengths left out that
are null, at any depth. What is read does not change.
-/

namespace RollCall.GoType

open RollCall.Dictionary (get?)

/-! ## §A What a reader need not look at -/

/-- The names of all members that the format knows. -/
def formatNames : List String :=
  ["kind", "package", "name", "elem", "len", "key", "value", "fields", "text", "ty", "embedded"]

/-- The members that may be left out where they are null. -/
def optionalNames : List String := ["package", "len"]

mutual

/-- **`Loosened v v'`** — the second value is the first one with further members in its objects, none
of a name that the format knows, and without some of the packages and lengths that are null. -/
inductive Loosened : Json → Json → Prop
  | same (v : Json) : Loosened v v
  | items {items items' : List Json} : LoosenedItems items items' →
      Loosened (.arr items) (.arr items')
  | members {members members' : List (String × Json)} :
      (∀ name ∈ formatNames, LoosenedAt name (get? name members) (get? name members')) →
      Loosened (.obj members) (.obj members')

/-- The items of one array are those of the other, loosened one by one. -/
inductive LoosenedItems : List Json → List Json → Prop
  | nil : LoosenedItems [] []
  | cons {v v' : Json} {vs vs' : List Json} : Loosened v v' → LoosenedItems vs vs' →
      LoosenedItems (v :: vs) (v' :: vs')

/-- What stands under a name of the format: the same, loosened, or nothing instead of a null that may
be left out. -/
inductive LoosenedAt : String → Option Json → Option Json → Prop
  | absent (name : String) : LoosenedAt name none none
  | present (name : String) {v v' : Json} : Loosened v v' → LoosenedAt name (some v) (some v')
  | leftOut {name : String} : name ∈ optionalNames → LoosenedAt name (some .null) none

end

theorem Loosened.exists_members {members : List (String × Json)} {v : Json}
    (h : Loosened (.obj members) v) : ∃ members', v = .obj members' ∧
      ∀ name ∈ formatNames, LoosenedAt name (get? name members) (get? name members') := by
  cases h with
  | same =>
      refine ⟨members, rfl, fun name _ => ?_⟩
      cases get? name members with
      | none => exact .absent name
      | some v => exact .present name (.same v)
  | members h => exact ⟨_, rfl, h⟩

theorem LoosenedItems.same (items : List Json) : LoosenedItems items items := by
  induction items with
  | nil => exact .nil
  | cons v vs ih => exact .cons (.same v) ih

theorem Loosened.exists_items {items : List Json} {v : Json} (h : Loosened (.arr items) v) :
    ∃ items', v = .arr items' ∧ LoosenedItems items items' := by
  cases h with
  | same => exact ⟨items, rfl, .same items⟩
  | items h => exact ⟨_, rfl, h⟩

/-- A member that may not be left out is there. -/
theorem LoosenedAt.exists_some {name : String} {v : Json} {found : Option Json}
    (h : LoosenedAt name (some v) found) (hname : name ∉ optionalNames) :
    ∃ v', found = some v' ∧ Loosened v v' := by
  cases h with
  | present _ h => exact ⟨_, rfl, h⟩
  | leftOut h => exact absurd h hname

theorem LoosenedAt.str {name s : String} {found : Option Json}
    (h : LoosenedAt name (some (.str s)) found) : found = some (.str s) := by
  cases h with
  | present _ h => cases h; rfl

theorem LoosenedAt.bool {name : String} {b : Bool} {found : Option Json}
    (h : LoosenedAt name (some (.bool b)) found) : found = some (.bool b) := by
  cases h with
  | present _ h => cases h; rfl

theorem LoosenedAt.package {package : Option String} {found : Option Json}
    (h : LoosenedAt "package" (some (Json.ofText? package)) found) :
    readPackage found = some package := by
  cases package with
  | none =>
      cases h with
      | present _ h => cases h; rfl
      | leftOut _ => rfl
  | some s =>
      rw [h.str]
      rfl

/-- A length as it is written. -/
def lengthToJson : Option Nat → Json
  | none => .null
  | some n => .int n

theorem LoosenedAt.length {length : Option Nat} {found : Option Json}
    (hfits : ∀ n, length = some n → n < Nat.pow 2 64)
    (h : LoosenedAt "len" (some (lengthToJson length)) found) : readLength found = some length := by
  cases length with
  | none =>
      cases h with
      | present _ h => cases h; rfl
      | leftOut _ => rfl
  | some n =>
      cases h with
      | present _ h =>
          cases h
          exact if_pos (hfits n rfl)

/-! ## §B The bound of the nesting -/

/-- A member weighs less than its object. -/
theorem weight_member_lt {name : String} {v : Json} {members : List (String × Json)}
    (h : get? name members = some v) : weight v < weight (.obj members) := by
  have hmembers : weight v < weightMembers members := by
    induction members with
    | nil => cases h
    | cons entry members ih =>
        obtain ⟨k, x⟩ := entry
        rw [weightMembers]
        rw [get?] at h
        split at h
        · cases h
          omega
        · have hlt := ih h
          omega
  rw [weight]
  omega

/-! ## §C One record -/

/-- What is read from an object of a kind, by the names of its members. -/
def readMembers (fuel : Nat) (members : List (String × Json)) : String → Option GoType
  | "named" => do
    let package ← readPackage (get? "package" members)
    let name ← (get? "name" members).bind Json.text?
    pure (.named package name)
  | "pointer" => do (readWithin fuel true (← get? "elem" members)).map .pointer
  | "slice" => do (readWithin fuel true (← get? "elem" members)).map .slice
  | "array" => do
    let elem ← get? "elem" members
    let length ← readLength (get? "len" members)
    (readWithin fuel true elem).map (.array length)
  | "chan" => do (readWithin fuel true (← get? "elem" members)).map .chan
  | "map" => do
    let key ← get? "key" members
    let value ← get? "value" members
    let key ← readWithin fuel true key
    let value ← readWithin fuel true value
    pure (.map key value)
  | "struct" => do
    let fields ← (get? "fields" members).bind Json.items?
    (readFieldsWithin fuel fields).map .struct
  | "interface" => some .interface
  | "func" => ((get? "text" members).bind Json.text?).map .func
  | "other" => ((get? "text" members).bind Json.text?).map .other
  | _ => none

/-- An object is read by its kind and by the names of its members. -/
theorem readWithin_obj {members : List (String × Json)} {kind : String}
    (hkind : get? "kind" members = some (.str kind)) (fuel : Nat) (inner : Bool) :
    readWithin (fuel + 1) inner (.obj members) = readMembers fuel members kind := by
  have htag : (Json.obj members).tagged? = some (.str kind, .obj members) := by
    rw [Json.tagged?, hkind]
    rfl
  rw [readWithin, htag]
  simp only [Option.bind_eq_bind, Option.bind_some, readKind, Json.record?, List.map]
  split
  case h_4 =>
    rw [readMembers]
    cases get? "elem" members <;> rfl
  case h_6 =>
    rw [readMembers]
    cases get? "key" members with
    | none => rfl
    | some key => cases get? "value" members <;> rfl
  case h_11 => rw [readMembers] <;> assumption
  all_goals rfl

/-- An object that was loosened is still an object of its kind, and there is fuel to open it. -/
theorem readWithin_loosened {members : List (String × Json)} (kind : String) {v : Json} {fuel : Nat}
    (hkind : get? "kind" members = some (.str kind)) (h : Loosened (.obj members) v)
    (hfuel : weight v ≤ fuel) : ∃ members' left,
      (∀ inner, readWithin fuel inner v = readMembers left members' kind) ∧
      (∀ name ∈ formatNames, LoosenedAt name (get? name members) (get? name members')) ∧
      ∀ name x, get? name members' = some x → weight x ≤ left := by
  obtain ⟨members', rfl, hmembers⟩ := h.exists_members
  have hpos : 0 < weight (.obj members') := by
    rw [weight]
    omega
  obtain ⟨left, rfl⟩ : ∃ left, fuel = left + 1 := ⟨fuel - 1, by omega⟩
  have hkind' : get? "kind" members' = some (.str kind) := by
    have hat := hmembers "kind" (by decide)
    rw [hkind] at hat
    exact hat.str
  refine ⟨members', left, readWithin_obj hkind' left, hmembers, ?_⟩
  intro name x hx
  have hlt := weight_member_lt hx
  omega

/-! ## §D All kinds -/

mutual

/-- Whether all lengths in a type fit 64 bits. -/
def lengthsFit : GoType → Bool
  | .named _ _ => true
  | .pointer elem => lengthsFit elem
  | .slice elem => lengthsFit elem
  | .array length elem => length.all (fun n => decide (n < Nat.pow 2 64)) && lengthsFit elem
  | .chan elem => lengthsFit elem
  | .map key value => lengthsFit key && lengthsFit value
  | .struct fields => fieldLengthsFit fields
  | .interface => true
  | .func _ => true
  | .other _ => true

/-- Whether all lengths in the types of fields fit 64 bits. -/
def fieldLengthsFit : List (Field GoType) → Bool
  | [] => true
  | ⟨_, type, _⟩ :: fields => lengthsFit type && fieldLengthsFit fields

end

/-- **`ReadsBack t`** — the type is read from its JSON, loosened in whatever way, as soon as the bound
of the nesting is the weight of the value. -/
def ReadsBack (t : GoType) : Prop :=
  ∀ (inner : Bool) {v : Json} {fuel : Nat}, t.lengthsFit = true → Loosened t.toJson v →
    weight v ≤ fuel → readWithin fuel inner v = some t

theorem readsBack_named (package : Option String) (name : String) :
    ReadsBack (.named package name) := by
  intro inner v fuel _ hv hfuel
  obtain ⟨members, left, hread, hat, -⟩ := readWithin_loosened "named" rfl hv hfuel
  have hname : get? "name" members = some (.str name) := (hat "name" (by decide)).str
  have hpackage := (hat "package" (by decide)).package
  rw [hread, readMembers, hname, hpackage]
  rfl

/-- The kinds that hold one type and nothing else are read alike. -/
theorem readsBack_wrapped {wrap : GoType → GoType} (kind : String) {elem : GoType}
    (hjson : (wrap elem).toJson = .obj [("elem", elem.toJson), ("kind", .str kind)])
    (hlengths : (wrap elem).lengthsFit = elem.lengthsFit)
    (hread : ∀ fuel members, readMembers fuel members kind =
      (get? "elem" members).bind fun e => (readWithin fuel true e).map wrap)
    (ih : ReadsBack elem) : ReadsBack (wrap elem) := by
  intro inner v fuel hfit hv hfuel
  rw [hlengths] at hfit
  rw [hjson] at hv
  obtain ⟨members, left, hopen, hat, hweight⟩ := readWithin_loosened kind rfl hv hfuel
  obtain ⟨e, he, hloosened⟩ := (hat "elem" (by decide)).exists_some (by decide)
  rw [hopen, hread, he, Option.bind_some, ih true hfit hloosened (hweight _ _ he)]
  rfl

theorem readsBack_pointer {elem : GoType} (ih : ReadsBack elem) : ReadsBack (.pointer elem) :=
  readsBack_wrapped "pointer" rfl rfl (fun _ _ => rfl) ih

theorem readsBack_slice {elem : GoType} (ih : ReadsBack elem) : ReadsBack (.slice elem) :=
  readsBack_wrapped "slice" rfl rfl (fun _ _ => rfl) ih

theorem readsBack_chan {elem : GoType} (ih : ReadsBack elem) : ReadsBack (.chan elem) :=
  readsBack_wrapped "chan" rfl rfl (fun _ _ => rfl) ih

theorem readsBack_array (length : Option Nat) {elem : GoType} (ih : ReadsBack elem) :
    ReadsBack (.array length elem) := by
  intro inner v fuel hfit hv hfuel
  rw [lengthsFit, Bool.and_eq_true] at hfit
  obtain ⟨members, left, hread, hat, hweight⟩ := readWithin_loosened "array" rfl hv hfuel
  obtain ⟨e, he, hloosened⟩ := (hat "elem" (by decide)).exists_some (by decide)
  have helem := ih true hfit.2 hloosened (hweight _ _ he)
  have hlength : readLength (get? "len" members) = some length := by
    refine (hat "len" (by decide)).length ?_
    rintro n rfl
    exact of_decide_eq_true hfit.1
  rw [hread, readMembers, he, hlength]
  simp only [Option.bind_eq_bind, Option.bind_some, helem, Option.map_some]

theorem readsBack_map {key value : GoType} (ihkey : ReadsBack key) (ihvalue : ReadsBack value) :
    ReadsBack (.map key value) := by
  intro inner v fuel hfit hv hfuel
  rw [lengthsFit, Bool.and_eq_true] at hfit
  obtain ⟨members, left, hread, hat, hweight⟩ := readWithin_loosened "map" rfl hv hfuel
  obtain ⟨k, hk, hkloosened⟩ := (hat "key" (by decide)).exists_some (by decide)
  obtain ⟨x, hx, hxloosened⟩ := (hat "value" (by decide)).exists_some (by decide)
  have hkey := ihkey true hfit.1 hkloosened (hweight _ _ hk)
  have hvalue := ihvalue true hfit.2 hxloosened (hweight _ _ hx)
  rw [hread, readMembers, hk, hx]
  simp only [Option.bind_eq_bind, Option.bind_some, hkey, hvalue]
  rfl

/-- The fields are read one after the other, each with the members it has by name. -/
theorem readFieldsWithin_loosened {fields : List (Field GoType)}
    (ih : ∀ f ∈ fields, ReadsBack f.type) (hfit : fieldLengthsFit fields = true)
    {items : List Json} (hitems : LoosenedItems (fieldsToJson fields) items) {fuel : Nat}
    (hfuel : weightItems items ≤ fuel) : readFieldsWithin fuel items = some fields := by
  induction fields generalizing items fuel with
  | nil =>
      cases hitems
      rw [weightItems] at hfuel
      obtain ⟨left, rfl⟩ : ∃ left, fuel = left + 1 := ⟨fuel - 1, by omega⟩
      rfl
  | cons f fields ihfields =>
      obtain ⟨name, type, embedded⟩ := f
      rw [fieldLengthsFit, Bool.and_eq_true] at hfit
      rw [fieldsToJson] at hitems
      cases hitems with
      | @cons _ v _ vs hv hvs =>
          rw [weightItems] at hfuel
          obtain ⟨left, rfl⟩ : ∃ left, fuel = left + 1 := ⟨fuel - 1, by omega⟩
          obtain ⟨members, rfl, hat⟩ := hv.exists_members
          have hname := (hat "name" (by decide)).str
          have hembedded := (hat "embedded" (by decide)).bool
          obtain ⟨t, ht, hloosened⟩ := (hat "ty" (by decide)).exists_some (by decide)
          have hlt := weight_member_lt ht
          have htype := ih _ List.mem_cons_self true hfit.1 hloosened
            (show weight t ≤ left by omega)
          have hrest := ihfields (fun g hg => ih g (List.mem_cons_of_mem _ hg)) hfit.2 hvs
            (show weightItems vs ≤ left by omega)
          simp [readFieldsWithin, Json.record?, hname, ht, hembedded, Json.text?, Json.bool?, htype,
            hrest]

theorem readsBack_struct {fields : List (Field GoType)} (ih : ∀ f ∈ fields, ReadsBack f.type) :
    ReadsBack (.struct fields) := by
  intro inner v fuel hfit hv hfuel
  obtain ⟨members, left, hread, hat, hweight⟩ := readWithin_loosened "struct" rfl hv hfuel
  obtain ⟨x, hx, hloosened⟩ := (hat "fields" (by decide)).exists_some (by decide)
  obtain ⟨items, rfl, hitems⟩ := hloosened.exists_items
  have hlt := hweight _ _ hx
  rw [weight] at hlt
  have hfields := readFieldsWithin_loosened ih hfit hitems (show weightItems items ≤ left by omega)
  rw [hread, readMembers, hx]
  simp only [Option.bind_eq_bind, Option.bind_some, Json.items?, hfields, Option.map_some]

theorem readsBack_interface : ReadsBack .interface := by
  intro inner v fuel _ hv hfuel
  obtain ⟨members, left, hread, -, -⟩ := readWithin_loosened "interface" rfl hv hfuel
  exact hread inner

/-- The kinds that hold nothing but a text are read alike. -/
theorem readsBack_text {wrap : String → GoType} (kind : String) {text : String}
    (hjson : (wrap text).toJson = .obj [("kind", .str kind), ("text", .str text)])
    (hread : ∀ fuel members, readMembers fuel members kind =
      ((get? "text" members).bind Json.text?).map wrap) : ReadsBack (wrap text) := by
  intro inner v fuel _ hv hfuel
  rw [hjson] at hv
  obtain ⟨members, left, hopen, hat, -⟩ := readWithin_loosened kind rfl hv hfuel
  have htext : get? "text" members = some (.str text) := (hat "text" (by decide)).str
  rw [hopen, hread, htext]
  rfl

theorem readsBack (t : GoType) : ReadsBack t := by
  induction t using GoType.induction with
  | named package name => exact readsBack_named package name
  | pointer elem ih => exact readsBack_pointer ih
  | slice elem ih => exact readsBack_slice ih
  | array length elem ih => exact readsBack_array length ih
  | chan elem ih => exact readsBack_chan ih
  | map key value ihkey ihvalue => exact readsBack_map ihkey ihvalue
  | struct fields ih => exact readsBack_struct ih
  | interface => exact readsBack_interface
  | func text => exact readsBack_text "func" rfl fun _ _ => rfl
  | other text => exact readsBack_text "other" rfl fun _ _ => rfl

/-! ## §E Reading what was written -/

/-- A type whose lengths fit 64 bits is read from the JSON it is written as, and from every JSON that
has more members which the format does not know, or leaves out packages and lengths that are null. -/
theorem ofJson?_toJson (t : GoType) (ht : t.lengthsFit = true) :
    ofJson? t.toJson = some t ∧ ∀ v, Loosened t.toJson v → ofJson? v = some t :=
  ⟨readsBack t false ht (.same _) (Nat.le_refl _),
    fun _ hv => readsBack t false ht hv (Nat.le_refl _)⟩

/-- An array of the greatest length that fits. -/
def sampleArray : GoType := .array (some 18446744073709551615) (plain "T")

/-- The sample without its package, and with members of other names. -/
def sampleJson : Json :=
  .obj [("elem", .obj [("doc", .null), ("kind", .str "named"), ("name", .str "T")]),
    ("kind", .str "array"), ("len", .int 18446744073709551615), ("note", .arr [.null])]

/-- The sample is read without its package and with further members. -/
theorem ofJson?_loosenedArray :
    sampleArray.lengthsFit = true ∧ Loosened sampleArray.toJson sampleJson ∧
      ofJson? sampleJson = some sampleArray := by
  have hfit : sampleArray.lengthsFit = true := by decide +kernel
  have helem : Loosened (plain "T").toJson
      (.obj [("doc", .null), ("kind", .str "named"), ("name", .str "T")]) := by
    refine .members ?_
    simp only [formatNames, List.forall_mem_cons, List.not_mem_nil, false_imp_iff, implies_true]
    exact ⟨.present _ (.same _), .leftOut (by decide), .present _ (.same _), .absent _, .absent _,
      .absent _, .absent _, .absent _, .absent _, .absent _, .absent _, trivial⟩
  have hloosened : Loosened sampleArray.toJson sampleJson := by
    refine .members ?_
    simp only [formatNames, List.forall_mem_cons, List.not_mem_nil, false_imp_iff, implies_true]
    exact ⟨.present _ (.same _), .absent _, .absent _, .present _ helem, .present _ (.same _),
      .absent _, .absent _, .absent _, .absent _, .absent _, .absent _, trivial⟩
  exact ⟨hfit, hloosened, (ofJson?_toJson sampleArray hfit).2 sampleJson hloosened⟩

end RollCall.GoType
