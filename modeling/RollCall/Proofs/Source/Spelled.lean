import RollCall.GoType.Spelling
import RollCall.Proofs.Source.Scan

/-!
# RollCall.Proofs.Source.Spelled — the tokens of a spelled type

A type is readable where its spelling is Go and says everything about it: no texts kept as they are,
no unknown lengths, names that are names, and embedded fields named after their types. `Spells t ts`
says which tokens such a type is written with. It is what lies between characters and trees: here
the spelling of a readable type is shown to be cut into tokens that spell it, and the reading of
types starts from such tokens and knows nothing of characters.
-/

namespace RollCall.GoType

/-! ## §A Induction on types -/

/-- Induction on a type, with the types of all fields below a struct. -/
@[elab_as_elim]
theorem induction {P : GoType → Prop} (named : ∀ package name, P (.named package name))
    (pointer : ∀ elem, P elem → P (.pointer elem)) (slice : ∀ elem, P elem → P (.slice elem))
    (array : ∀ length elem, P elem → P (.array length elem))
    (chan : ∀ elem, P elem → P (.chan elem))
    (map : ∀ key value, P key → P value → P (.map key value))
    (struct : ∀ fields : List (Field GoType), (∀ f ∈ fields, P f.type) → P (.struct fields))
    (interface : P .interface) (func : ∀ text, P (.func text)) (other : ∀ text, P (.other text))
    (t : GoType) : P t :=
  @GoType.rec P (fun fields => ∀ f ∈ fields, P f.type) (fun f => P f.type) named pointer slice array
    chan map struct interface func other (fun _ h => absurd h List.not_mem_nil)
    (fun _ _ hfirst hrest f hf => by
      rcases List.mem_cons.mp hf with rfl | hf
      · exact hfirst
      · exact hrest f hf)
    (fun _ _ _ htype => htype) t

/-! ## §B Readable types -/

open RollCall.Source.Plain (isName)

/-- Whether a type can be embedded under a name: it is a type name with that name, or a pointer to
one. -/
def isEmbeddedAs (name : String) : GoType → Bool
  | .named _ own => own == name
  | .pointer (.named _ own) => own == name
  | _ => false

mutual

/-- Whether the spelling of a type says everything about it. -/
def isReadable : GoType → Bool
  | .named none name => isName name && name != "any"
  | .named (some package) name => isName package && isName name
  | .pointer elem => isReadable elem
  | .slice elem => isReadable elem
  | .array none _ => false
  | .array (some n) elem => decide (n < Nat.pow 2 64) && isReadable elem
  | .chan elem => isReadable elem
  | .map key value => isReadable key && isReadable value
  | .struct fields => areReadable fields
  | .interface => true
  | .func _ => false
  | .other _ => false

/-- Whether the spellings of fields say everything about them. -/
def areReadable : List (Field GoType) → Bool
  | [] => true
  | ⟨name, type, embedded⟩ :: fields =>
    (if embedded then isEmbeddedAs name type else isName name) && isReadable type &&
      areReadable fields

end

/-- Fields are readable if each has a readable type and is either embedded or has a name. -/
theorem areReadable_cons (f : Field GoType) (fields : List (Field GoType)) :
    areReadable (f :: fields) = true ↔
      ((if f.embedded then isEmbeddedAs f.name f.type else isName f.name) = true ∧
        isReadable f.type = true) ∧ areReadable fields = true := by
  obtain ⟨name, type, embedded⟩ := f
  rw [areReadable, Bool.and_eq_true, Bool.and_eq_true]

end RollCall.GoType

namespace RollCall.Source.Plain

open RollCall.GoType (isReadable areReadable)
open RollCall.Text (Spot isNameStart isNameContinue)
open RollCall.Text.Spot (Ahead)

/-! ## §C Tokens that spell a type -/

/-- The text of a token. -/
def Token.text (t : Token) : List Char := t.start.textTo t.stop

mutual

/-- **`Spells t ts`** — the tokens are those that the type is written with. -/
def Spells : GoType → List Token → Prop
  | .named none name, ts => ∃ t, ts = [t] ∧ t.shape = .name ∧ t.text = name.toList
  | .named (some package) name, ts =>
    ∃ first point last, ts = [first, point, last] ∧ first.shape = .name ∧ point.shape = .sign '.' ∧
      last.shape = .name ∧
      first.start.textTo last.stop = package.toList ++ '.' :: name.toList
  | .pointer elem, ts => ∃ star rest, ts = star :: rest ∧ star.shape = .sign '*' ∧ Spells elem rest
  | .slice elem, ts =>
    ∃ opening closing rest, ts = opening :: closing :: rest ∧ opening.shape = .sign '[' ∧
      closing.shape = .sign ']' ∧ Spells elem rest
  | .array length elem, ts =>
    ∃ opening number closing rest, ts = opening :: number :: closing :: rest ∧
      opening.shape = .sign '[' ∧ number.shape = .number ∧
      length.map (Nat.toDigits 10) = some number.text ∧ closing.shape = .sign ']' ∧ Spells elem rest
  | .chan elem, ts =>
    ∃ word rest, ts = word :: rest ∧ word.shape = .keyword .chan ∧ Spells elem rest
  | .map key value, ts =>
    ∃ word opening inner closing rest, ts = word :: opening :: (inner ++ closing :: rest) ∧
      word.shape = .keyword .map ∧ opening.shape = .sign '[' ∧ Spells key inner ∧
      closing.shape = .sign ']' ∧ Spells value rest
  | .struct [], ts =>
    ∃ word opening closing, ts = [word, opening, closing] ∧ word.shape = .keyword .struct ∧
      opening.shape = .sign '{' ∧ closing.shape = .sign '}'
  | .struct (f :: fields), ts =>
    ∃ word opening first rest, ts = word :: opening :: (first ++ rest) ∧
      word.shape = .keyword .struct ∧ opening.shape = .sign '{' ∧ SpellsField f first ∧
      SpellsFields fields rest
  | .interface, ts =>
    ∃ word opening closing, ts = [word, opening, closing] ∧ word.shape = .keyword .interface ∧
      opening.shape = .sign '{' ∧ closing.shape = .sign '}'
  | .func _, _ => False
  | .other _, _ => False

/-- The tokens are those that the field is written with. -/
def SpellsField : Field GoType → List Token → Prop
  | ⟨name, type, embedded⟩, ts =>
    if embedded then Spells type ts
    else
      ∃ first rest, ts = first :: rest ∧ first.shape = .name ∧ first.text = name.toList ∧
        Spells type rest

/-- The tokens are those of the fields behind the first one and of the brace that closes the
struct. -/
def SpellsFields : List (Field GoType) → List Token → Prop
  | [], ts => ∃ closing, ts = [closing] ∧ closing.shape = .sign '}'
  | f :: fields, ts =>
    ∃ sep first rest, ts = sep :: (first ++ rest) ∧ sep.shape = .sign ';' ∧ SpellsField f first ∧
      SpellsFields fields rest

end

/-! ## §D Spellings are cut into such tokens -/

/-- The spelling of a type is cut into tokens that spell it. -/
def Scannable (t : GoType) : Prop :=
  ∀ {s e : Spot}, isReadable t = true → Ahead s t.spell e → Bounded e.rest = true →
    ∃ ts, Scans s ts e ∧ Spells t ts

/-- A name is one token, and a qualified name is three. -/
theorem scannable_named (package : Option String) (name : String) :
    Scannable (.named package name) := by
  intro s e hreadable hahead hmore
  cases package with
  | none =>
      rw [isReadable, Bool.and_eq_true] at hreadable
      exact ⟨_, scans_name hreadable.1 hahead hmore, _, rfl, rfl, hahead.textTo⟩
  | some package =>
      rw [isReadable, Bool.and_eq_true] at hreadable
      obtain ⟨hpackage, hname⟩ := hreadable
      have htext := hahead.textTo
      obtain ⟨m, hfirst, hrest⟩ := hahead.split
      obtain ⟨m', hpoint, hlast⟩ := hrest.head
      obtain ⟨c, cs, hlist, hstart, -⟩ := (isName_iff name).mp hname
      have hbehind : m'.rest = c :: (cs ++ e.rest) := by rw [hlast.1, hlist, List.cons_append]
      have hbounded := bounded_of_ahead hpoint (by decide)
      refine ⟨_, (scans_name hpackage hfirst hbounded).append
        ((scans_point hpoint hbehind hstart).append (scans_name hname hlast hmore)), ?_⟩
      exact ⟨_, _, _, rfl, rfl, rfl, rfl, htext⟩

theorem scannable_pointer {elem : GoType} (ih : Scannable elem) : Scannable (.pointer elem) := by
  intro s e hreadable hahead hmore
  obtain ⟨m, hstar, helem⟩ := hahead.head
  obtain ⟨ts, hscan, hspells⟩ := ih hreadable helem hmore
  exact ⟨_, (scans_sign (by decide) (by decide) hstar).append hscan, _, _, rfl, rfl, hspells⟩

theorem scannable_slice {elem : GoType} (ih : Scannable elem) : Scannable (.slice elem) := by
  intro s e hreadable hahead hmore
  obtain ⟨m, hopening, hrest⟩ := hahead.head
  obtain ⟨m', hclosing, helem⟩ := hrest.head
  obtain ⟨ts, hscan, hspells⟩ := ih hreadable helem hmore
  refine ⟨_, (scans_sign (by decide) (by decide) hopening).append
    ((scans_sign (by decide) (by decide) hclosing).append hscan), ?_⟩
  exact ⟨_, _, _, rfl, rfl, rfl, hspells⟩

theorem scannable_array {length : Option Nat} {elem : GoType} (ih : Scannable elem) :
    Scannable (.array length elem) := by
  intro s e hreadable hahead hmore
  cases length with
  | none => cases hreadable
  | some n =>
      rw [isReadable, Bool.and_eq_true] at hreadable
      obtain ⟨m, hopening, hrest⟩ := hahead.head
      obtain ⟨m', hnumber, hrest'⟩ := hrest.split
      obtain ⟨m'', hclosing, helem⟩ := hrest'.head
      obtain ⟨ts, hscan, hspells⟩ := ih hreadable.2 helem hmore
      have hends : endsNumber m'.rest = true := by
        rw [hclosing.1]
        rfl
      refine ⟨_, (scans_sign (by decide) (by decide) hopening).append
        ((scans_number n hnumber hends).append
          ((scans_sign (by decide) (by decide) hclosing).append hscan)), ?_⟩
      exact ⟨_, _, _, _, rfl, rfl, rfl, congrArg some hnumber.textTo.symm, rfl, hspells⟩

theorem scannable_chan {elem : GoType} (ih : Scannable elem) : Scannable (.chan elem) := by
  intro s e hreadable hahead hmore
  have hspell : (GoType.chan elem).spell = Keyword.chan.word.toList ++ ([' '] ++ elem.spell) := rfl
  rw [hspell] at hahead
  obtain ⟨m, hword, hrest⟩ := hahead.split
  obtain ⟨m', hblank, helem⟩ := hrest.split
  obtain ⟨ts, hscan, hspells⟩ := ih hreadable helem hmore
  have hbounded := bounded_of_ahead hblank (by decide)
  refine ⟨_, (scans_keyword .chan hword hbounded).append ((scans_blank hblank).append hscan), ?_⟩
  exact ⟨_, _, rfl, rfl, hspells⟩

theorem scannable_map {key value : GoType} (ihkey : Scannable key) (ihvalue : Scannable value) :
    Scannable (.map key value) := by
  intro s e hreadable hahead hmore
  rw [isReadable, Bool.and_eq_true] at hreadable
  have hspell : (GoType.map key value).spell =
      Keyword.map.word.toList ++ (['['] ++ (key.spell ++ ([']'] ++ value.spell))) := rfl
  rw [hspell] at hahead
  obtain ⟨m₁, hword, hahead⟩ := hahead.split
  obtain ⟨m₂, hopening, hahead⟩ := hahead.split
  obtain ⟨m₃, hkey, hahead⟩ := hahead.split
  obtain ⟨m₄, hclosing, hvalue⟩ := hahead.split
  have hbehindWord := bounded_of_ahead hopening (by decide)
  have hbehindKey := bounded_of_ahead hclosing (by decide)
  obtain ⟨ks, hkeyScan, hkeySpells⟩ := ihkey hreadable.1 hkey hbehindKey
  obtain ⟨vs, hvalueScan, hvalueSpells⟩ := ihvalue hreadable.2 hvalue hmore
  refine ⟨_, (scans_keyword .map hword hbehindWord).append
    ((scans_sign (by decide) (by decide) hopening).append (hkeyScan.append
      ((scans_sign (by decide) (by decide) hclosing).append hvalueScan))), ?_⟩
  exact ⟨_, _, _, _, _, rfl, rfl, rfl, hkeySpells, rfl, hvalueSpells⟩

/-- A field is cut into its tokens if its type is. -/
theorem scans_field {f : Field GoType} (ih : Scannable f.type)
    (hname : (if f.embedded then GoType.isEmbeddedAs f.name f.type else isName f.name) = true)
    (htype : isReadable f.type = true) {s e : Spot} (hahead : Ahead s (GoType.spellField f) e)
    (hmore : Bounded e.rest = true) : ∃ ts, Scans s ts e ∧ SpellsField f ts := by
  obtain ⟨name, type, embedded⟩ := f
  cases embedded with
  | true =>
      obtain ⟨ts, hscan, hspells⟩ := ih htype hahead hmore
      exact ⟨ts, hscan, hspells⟩
  | false =>
      have hspell : GoType.spellField ⟨name, type, false⟩ = name.toList ++ ([' '] ++ type.spell) :=
        rfl
      rw [hspell] at hahead
      obtain ⟨m, hfirst, hrest⟩ := hahead.split
      obtain ⟨m', hblank, hbehind⟩ := hrest.split
      have hbounded := bounded_of_ahead hblank (by decide)
      obtain ⟨ts, hscan, hspells⟩ := ih htype hbehind hmore
      refine ⟨_, (scans_name hname hfirst hbounded).append ((scans_blank hblank).append hscan), ?_⟩
      exact ⟨_, _, rfl, rfl, hfirst.textTo, hspells⟩

theorem bounded_spellFields (fields : List (Field GoType)) (more : List Char) :
    Bounded (GoType.spellFields fields ++ more) = true := by
  cases fields <;> rfl

/-- The fields behind the first one are cut into their tokens, with a semicolon in front of each. -/
theorem scans_fields {fields : List (Field GoType)} (ih : ∀ f ∈ fields, Scannable f.type)
    (hreadable : areReadable fields = true) {s e : Spot}
    (hahead : Ahead s (GoType.spellFields fields) e) :
    ∃ ts, Scans s ts e ∧ SpellsFields fields ts := by
  induction fields generalizing s with
  | nil =>
      obtain ⟨m, hblank, hclosing⟩ := hahead.head
      refine ⟨_, (scans_blank hblank).append (scans_sign (by decide) (by decide) hclosing), ?_⟩
      exact ⟨_, rfl, rfl⟩
  | cons f fields ihfields =>
      obtain ⟨⟨hname, htype⟩, hothers⟩ := (GoType.areReadable_cons f fields).mp hreadable
      have hspell : GoType.spellFields (f :: fields) =
          [';'] ++ ([' '] ++ (GoType.spellField f ++ GoType.spellFields fields)) := rfl
      rw [hspell] at hahead
      obtain ⟨m₁, hsep, hahead⟩ := hahead.split
      obtain ⟨m₂, hblank, hahead⟩ := hahead.split
      obtain ⟨m₃, hfirst, hrest⟩ := hahead.split
      have hbounded : Bounded m₃.rest = true := by
        rw [hrest.1]
        exact bounded_spellFields fields e.rest
      obtain ⟨ts, hscan, hspells⟩ :=
        scans_field (ih f List.mem_cons_self) hname htype hfirst hbounded
      obtain ⟨us, hscans, hspellsAll⟩ :=
        ihfields (fun g hg => ih g (List.mem_cons_of_mem _ hg)) hothers hrest
      refine ⟨_, (scans_sign (by decide) (by decide) hsep).append
        ((scans_blank hblank).append (hscan.append hscans)), ?_⟩
      exact ⟨_, ts, us, rfl, rfl, hspells, hspellsAll⟩

/-- A keyword, a space and an opening brace. -/
def opened (k : Keyword) : List Char := k.word.toList ++ [' ', '{']

/-- A keyword with its opening brace is two tokens. -/
theorem scans_opened (k : Keyword) {s e : Spot} (h : Ahead s (opened k) e) :
    ∃ word opening, Scans s [word, opening] e ∧ word.shape = .keyword k ∧
      opening.shape = .sign '{' := by
  obtain ⟨m, hword, hrest⟩ := h.split
  obtain ⟨m', hblank, hopening⟩ := hrest.head
  have hbounded := bounded_of_ahead hblank (by decide)
  refine ⟨_, _, (scans_keyword k hword hbounded).append ((scans_blank hblank).append
    (scans_sign (by decide) (by decide) hopening)), rfl, rfl⟩

theorem scannable_struct {fields : List (Field GoType)} (ih : ∀ f ∈ fields, Scannable f.type) :
    Scannable (.struct fields) := by
  intro s e hreadable hahead hmore
  rw [isReadable] at hreadable
  cases fields with
  | nil =>
      have hspell : (GoType.struct []).spell = opened .struct ++ ['}'] := by decide +kernel
      rw [hspell] at hahead
      obtain ⟨m, hopened, hclosing⟩ := hahead.split
      obtain ⟨word, opening, hscan, hword, hopening⟩ := scans_opened .struct hopened
      refine ⟨_, hscan.append (scans_sign (by decide) (by decide) hclosing), ?_⟩
      exact ⟨word, opening, _, rfl, hword, hopening, rfl⟩
  | cons f fields =>
      obtain ⟨⟨hname, htype⟩, hothers⟩ := (GoType.areReadable_cons f fields).mp hreadable
      have hspell : (GoType.struct (f :: fields)).spell =
          opened .struct ++ ([' '] ++ (GoType.spellField f ++ GoType.spellFields fields)) := by
        have hword : "struct \x7b".toList = opened .struct := by decide +kernel
        have hspell : (GoType.struct (f :: fields)).spell =
            "struct \x7b".toList ++ ' ' :: GoType.spellField f ++ GoType.spellFields fields := rfl
        rw [hspell, hword, List.append_assoc]
        rfl
      rw [hspell] at hahead
      obtain ⟨m, hopened, hahead⟩ := hahead.split
      obtain ⟨m₁, hblank, hahead⟩ := hahead.split
      obtain ⟨m₂, hfirst, hrest⟩ := hahead.split
      have hbounded : Bounded m₂.rest = true := by
        rw [hrest.1]
        exact bounded_spellFields fields e.rest
      obtain ⟨word, opening, hscan, hword, hopening⟩ := scans_opened .struct hopened
      obtain ⟨ts, hfirstScan, hspells⟩ :=
        scans_field (ih f List.mem_cons_self) hname htype hfirst hbounded
      obtain ⟨us, hrestScan, hspellsAll⟩ :=
        scans_fields (fun g hg => ih g (List.mem_cons_of_mem _ hg)) hothers hrest
      refine ⟨_, hscan.append ((scans_blank hblank).append (hfirstScan.append hrestScan)), ?_⟩
      exact ⟨word, opening, ts, us, rfl, hword, hopening, hspells, hspellsAll⟩

theorem scannable_interface : Scannable .interface := by
  intro s e _ hahead hmore
  have hspell : GoType.interface.spell = opened .interface ++ ['}'] := by decide +kernel
  rw [hspell] at hahead
  obtain ⟨m, hopened, hclosing⟩ := hahead.split
  obtain ⟨word, opening, hscan, hword, hopening⟩ := scans_opened .interface hopened
  refine ⟨_, hscan.append (scans_sign (by decide) (by decide) hclosing), ?_⟩
  exact ⟨word, opening, _, rfl, hword, hopening, rfl⟩

/-- The spelling of every readable type is cut into tokens that spell it. -/
theorem scannable (t : GoType) : Scannable t := by
  induction t using GoType.induction with
  | named package name => exact scannable_named package name
  | pointer elem ih => exact scannable_pointer ih
  | slice elem ih => exact scannable_slice ih
  | array length elem ih => exact scannable_array ih
  | chan elem ih => exact scannable_chan ih
  | map key value ihkey ihvalue => exact scannable_map ihkey ihvalue
  | struct fields ih => exact scannable_struct ih
  | interface => exact scannable_interface
  | func text => exact fun hreadable => nomatch hreadable
  | other text => exact fun hreadable => nomatch hreadable

end RollCall.Source.Plain
