import RollCall.Proofs.Source.Spelled
import RollCall.Source.TypeOf

/-!
# RollCall.Proofs.GoType.Spelling — a spelling belongs to one type

Example values are registered under the spelling of a type, so two types of one spelling would share
their examples. Among proper types this does not happen. A type is proper where no part of it is kept
as text, its names are names, and an embedded field is called what its type calls it.

A spelling has no brackets around its parts, so it is read from the left: its front tells which form
of type it spells, and the parts follow one another. `Unique` is what makes this an induction. It
says of a type that whatever stands behind its spelling, no other spelling goes as far in the same
text.
-/

namespace RollCall.GoType

open RollCall.Source (embeddedName)
open RollCall.Source.Plain (Keyword isName Bounded takeWhile_bounded isName_iff
  isNameContinue_of_isName lookup_words_eq_none)
open RollCall.Text (isNameContinue)

/-! ## §A Proper types -/

/-- The name of an embedded field with the given type, which is a type name, an interface or a
pointer to one of them. -/
def embeddedAs? : GoType → Option String
  | .named package name => some (embeddedName (.named package name))
  | .interface => some (embeddedName .interface)
  | .pointer (.named package name) => some (embeddedName (.named package name))
  | .pointer .interface => some (embeddedName .interface)
  | _ => none

mutual

/-- Whether all names in a type are names, no part of it is kept as text, and embedded fields are
named by their types. -/
def isProper : GoType → Bool
  | .named none name => isName name
  | .named (some package) name => isName package && isName name
  | .pointer elem => isProper elem
  | .slice elem => isProper elem
  | .array _ elem => isProper elem
  | .chan elem => isProper elem
  | .map key value => isProper key && isProper value
  | .struct fields => areProper fields
  | .interface => true
  | .func _ => false
  | .other _ => false

/-- Whether all fields are proper. -/
def areProper : List (Field GoType) → Bool
  | [] => true
  | ⟨name, type, embedded⟩ :: fields =>
    (if embedded then embeddedAs? type == some name else isName name) && isProper type &&
      areProper fields

end

/-- Whether a field is proper. -/
def isProperField (f : Field GoType) : Bool :=
  (if f.embedded then embeddedAs? f.type == some f.name else isName f.name) && isProper f.type

theorem areProper_cons (f : Field GoType) (fields : List (Field GoType)) :
    areProper (f :: fields) = true ↔ isProperField f = true ∧ areProper fields = true := by
  obtain ⟨name, type, embedded⟩ := f
  rw [areProper, isProperField, Bool.and_eq_true]

/-! ## §B The form of a type at the front of its spelling -/

/-- The forms that a type can have. -/
inductive Form where
  | named
  | pointer
  | slice
  | array
  | chan
  | map
  | struct
  | interface
  | text

/-- The form of a type. -/
def form : GoType → Form
  | .named _ _ => .named
  | .pointer _ => .pointer
  | .slice _ => .slice
  | .array _ _ => .array
  | .chan _ => .chan
  | .map _ _ => .map
  | .struct _ => .struct
  | .interface => .interface
  | .func _ => .text
  | .other _ => .text

/-- The form that the signs behind a word show, where the word itself does not. -/
def signForm : List Char → Form
  | '*' :: _ => .pointer
  | '[' :: ']' :: _ => .slice
  | '[' :: _ => .array
  | _ => .named

/-- The form that a word and what stands behind it show. -/
def wordForm (word more : List Char) : Form :=
  match Keyword.words.lookup (String.ofList word) with
  | some .chan => .chan
  | some .map => .map
  | some .struct => .struct
  | some .interface => .interface
  | _ => signForm more

/-- The form of the type that is spelled at the front of a text. -/
def formOf (text : List Char) : Form :=
  wordForm (text.takeWhile isNameContinue) (text.dropWhile isNameContinue)

/-- A text can stand behind a spelling: nothing, or what separates it from another part. -/
def Ends : List Char → Prop
  | [] => True
  | c :: _ => c = ']' ∨ c = ';' ∨ c = ' '

theorem ends_bracket (more : List Char) : Ends (']' :: more) := Or.inl rfl

theorem ends_nil : Ends [] := trivial

theorem Ends.bounded {more : List Char} (h : Ends more) : Bounded more = true := by
  cases more with
  | nil => rfl
  | cons c cs => rcases h with rfl | rfl | rfl <;> rfl

theorem Ends.signForm_eq {more : List Char} (h : Ends more) : signForm more = .named := by
  cases more with
  | nil => rfl
  | cons c cs => rcases h with rfl | rfl | rfl <;> rfl

/-- A word can be told from what stands behind it. -/
theorem word_append_inj {word word' more more' : List Char}
    (hword : ∀ c ∈ word, isNameContinue c = true) (hword' : ∀ c ∈ word', isNameContinue c = true)
    (hmore : Bounded more = true) (hmore' : Bounded more' = true)
    (h : word ++ more = word' ++ more') : word = word' ∧ more = more' := by
  have htake := congrArg (List.takeWhile isNameContinue) h
  rw [takeWhile_bounded hword hmore, takeWhile_bounded hword' hmore'] at htake
  subst htake
  exact ⟨rfl, List.append_cancel_left h⟩

/-- A name can be told from what stands behind it. -/
theorem name_append_inj {name name' : String} {more more' : List Char} (hname : isName name = true)
    (hname' : isName name' = true) (hmore : Bounded more = true) (hmore' : Bounded more' = true)
    (h : name.toList ++ more = name'.toList ++ more') : name = name' ∧ more = more' := by
  obtain ⟨hlist, hrest⟩ := word_append_inj (fun _ => isNameContinue_of_isName hname)
    (fun _ => isNameContinue_of_isName hname') hmore hmore' h
  exact ⟨String.toList_inj.mp hlist, hrest⟩

theorem formOf_word {word more : List Char} (hword : ∀ c ∈ word, isNameContinue c = true)
    (hmore : Bounded more = true) : formOf (word ++ more) = wordForm word more := by
  have htake := takeWhile_bounded hword hmore
  have hdrop : (word ++ more).dropWhile isNameContinue = more := by
    have hsplit : (word ++ more).takeWhile isNameContinue ++
        (word ++ more).dropWhile isNameContinue = word ++ more := List.takeWhile_append_dropWhile
    rw [htake] at hsplit
    exact List.append_cancel_left hsplit
  rw [formOf, htake, hdrop]

/-- A keyword shows the form by itself. -/
theorem formOf_keyword (k : Keyword) {more : List Char} (hmore : Bounded more = true) :
    formOf (k.word.toList ++ more) = wordForm k.word.toList more := by
  refine formOf_word ?_ hmore
  cases k <;> exact List.all_eq_true.mp (by decide)

/-- A name shows nothing of the form, as no name is a keyword. -/
theorem formOf_name {name : String} (hname : isName name = true) {more : List Char}
    (hmore : Bounded more = true) : formOf (name.toList ++ more) = signForm more := by
  obtain ⟨c, cs, -, -, -, hreserved⟩ := (isName_iff name).mp hname
  rw [formOf_word (fun _ => isNameContinue_of_isName hname) hmore, wordForm, String.ofList_toList,
    lookup_words_eq_none hreserved]

theorem spell_qualified (package name : String) :
    (GoType.named (some package) name).spell = package.toList ++ '.' :: name.toList := rfl

theorem spell_chan (elem : GoType) :
    (GoType.chan elem).spell = Keyword.chan.word.toList ++ ' ' :: elem.spell := rfl

theorem spell_map (key value : GoType) : (GoType.map key value).spell =
    Keyword.map.word.toList ++ '[' :: (key.spell ++ ']' :: value.spell) := rfl

/-- What stands behind the opening brace of a struct. -/
def spellBody : List (Field GoType) → List Char
  | [] => ['}']
  | f :: fields => ' ' :: (spellField f ++ spellFields fields)

theorem spell_struct (fields : List (Field GoType)) :
    (GoType.struct fields).spell = Keyword.struct.word.toList ++ ' ' :: '{' :: spellBody fields := by
  cases fields with
  | nil => decide +kernel
  | cons f fields =>
      have hword : "struct \x7b".toList = Keyword.struct.word.toList ++ [' ', '{'] := by
        decide +kernel
      have hspell : (GoType.struct (f :: fields)).spell =
          "struct \x7b".toList ++ ' ' :: spellField f ++ spellFields fields := rfl
      rw [hspell, hword, List.append_assoc, List.append_assoc]
      rfl

theorem spell_interface :
    GoType.interface.spell = Keyword.interface.word.toList ++ [' ', '{', '}'] := by
  decide +kernel

theorem isDigit_of_toDigits {n : Nat} {c : Char} (hc : c ∈ Nat.toDigits 10 n) :
    c.isDigit = true := Nat.isDigit_of_mem_toDigits (by decide) (by decide) hc

theorem signForm_array (n : Nat) (more : List Char) :
    signForm ('[' :: (Nat.toDigits 10 n ++ more)) = .array := by
  cases hdigits : Nat.toDigits 10 n with
  | nil => exact absurd hdigits Nat.toDigits_ne_nil
  | cons c cs =>
      have hc : c.isDigit = true := isDigit_of_toDigits (hdigits ▸ List.mem_cons_self)
      have hbracket : c ≠ ']' := by
        rintro rfl
        exact absurd hc (by decide)
      rw [List.cons_append, signForm]
      simpa using hbracket

/-- The front of a spelling tells the form of the type. -/
theorem formOf_spell {t : GoType} (ht : t.isProper = true) {more : List Char} (hmore : Ends more) :
    formOf (t.spell ++ more) = t.form := by
  cases t with
  | named package name =>
      cases package with
      | none => exact (formOf_name ht hmore.bounded).trans hmore.signForm_eq
      | some package =>
          rw [isProper, Bool.and_eq_true] at ht
          rw [spell_qualified, List.append_assoc]
          exact formOf_name ht.1 rfl
  | pointer elem => rfl
  | slice elem => rfl
  | array length elem =>
      cases length with
      | none => rfl
      | some n =>
          have hform : formOf ((GoType.array (some n) elem).spell ++ more) =
              signForm ('[' :: (Nat.toDigits 10 n ++ ']' :: elem.spell ++ more)) := rfl
          rw [hform, List.append_assoc, signForm_array]
          rfl
  | chan elem =>
      rw [spell_chan, List.append_assoc]
      exact formOf_keyword .chan rfl
  | map key value =>
      rw [spell_map, List.append_assoc]
      exact formOf_keyword .map rfl
  | struct fields =>
      rw [spell_struct, List.append_assoc]
      exact formOf_keyword .struct rfl
  | interface =>
      rw [spell_interface, List.append_assoc]
      exact formOf_keyword .interface rfl
  | func text => cases ht
  | other text => cases ht

/-! ## §C No spelling goes as far as another -/

/-- **`Unique t`** — a proper type that is spelled at the front of the same text is the same type,
and the same text is left behind it. -/
def Unique (t : GoType) : Prop :=
  ∀ (t' : GoType) {more more' : List Char}, t.isProper = true → t'.isProper = true → Ends more →
    Ends more' → t.spell ++ more = t'.spell ++ more' → t = t' ∧ more = more'

/-- Two types spelled at the front of one text have one form. -/
theorem form_eq {t t' : GoType} {more more' : List Char} (ht : t.isProper = true)
    (ht' : t'.isProper = true) (hmore : Ends more) (hmore' : Ends more')
    (h : t.spell ++ more = t'.spell ++ more') : t.form = t'.form := by
  rw [← formOf_spell ht hmore, ← formOf_spell ht' hmore', h]

theorem unique_named (package : Option String) (name : String) : Unique (.named package name) := by
  intro t' more more' ht ht' hmore hmore' h
  have hform := form_eq ht ht' hmore hmore' h
  cases t' with
  | named package' name' =>
      -- behind the first name stands either a point or what ends the spelling
      cases package with
      | none =>
          cases package' with
          | none =>
              obtain ⟨rfl, hrest⟩ := name_append_inj ht ht' hmore.bounded hmore'.bounded h
              exact ⟨rfl, hrest⟩
          | some package' =>
              rw [isProper, Bool.and_eq_true] at ht'
              rw [spell_qualified, List.append_assoc] at h
              obtain ⟨-, rfl⟩ := name_append_inj ht ht'.1 hmore.bounded rfl h
              exact absurd hmore (by simp [Ends])
      | some package =>
          rw [isProper, Bool.and_eq_true] at ht
          rw [spell_qualified, List.append_assoc] at h
          cases package' with
          | none =>
              obtain ⟨-, rfl⟩ := name_append_inj ht.1 ht' rfl hmore'.bounded h
              exact absurd hmore' (by simp [Ends])
          | some package' =>
              rw [isProper, Bool.and_eq_true] at ht'
              rw [spell_qualified, List.append_assoc] at h
              obtain ⟨rfl, hbehind⟩ := name_append_inj ht.1 ht'.1 rfl rfl h
              obtain ⟨rfl, hrest⟩ := name_append_inj ht.2 ht'.2 hmore.bounded hmore'.bounded
                (List.cons.inj hbehind).2
              exact ⟨rfl, hrest⟩
  | _ => cases hform

theorem unique_pointer {elem : GoType} (ih : Unique elem) : Unique (.pointer elem) := by
  intro t' more more' ht ht' hmore hmore' h
  have hform := form_eq ht ht' hmore hmore' h
  cases t' with
  | pointer elem' =>
      obtain ⟨rfl, hrest⟩ := ih elem' ht ht' hmore hmore' (List.cons.inj h).2
      exact ⟨rfl, hrest⟩
  | _ => cases hform

theorem unique_slice {elem : GoType} (ih : Unique elem) : Unique (.slice elem) := by
  intro t' more more' ht ht' hmore hmore' h
  have hform := form_eq ht ht' hmore hmore' h
  cases t' with
  | slice elem' =>
      obtain ⟨-, hbehind⟩ := List.cons.inj (List.cons.inj h).2
      obtain ⟨rfl, hrest⟩ := ih elem' ht ht' hmore hmore' hbehind
      exact ⟨rfl, hrest⟩
  | _ => cases hform

/-- What stands in front of the first character of a kind can be told from what stands behind it. -/
theorem append_cons_inj {c : Char} {front front' more more' : List Char} (hfront : c ∉ front)
    (hfront' : c ∉ front') (h : front ++ c :: more = front' ++ c :: more') :
    front = front' ∧ more = more' := by
  induction front generalizing front' with
  | nil =>
      cases front' with
      | nil => exact ⟨rfl, (List.cons.inj h).2⟩
      | cons d front' =>
          obtain ⟨rfl, -⟩ := List.cons.inj h
          exact absurd List.mem_cons_self hfront'
  | cons d front ih =>
      cases front' with
      | nil =>
          obtain ⟨rfl, -⟩ := List.cons.inj h
          exact absurd List.mem_cons_self hfront
      | cons d' front' =>
          obtain ⟨rfl, hrest⟩ := List.cons.inj h
          obtain ⟨rfl, hmore⟩ := ih (fun hmem => hfront (List.mem_cons_of_mem _ hmem))
            (fun hmem => hfront' (List.mem_cons_of_mem _ hmem)) hrest
          exact ⟨rfl, hmore⟩

/-- Between the brackets of an array stands its length. -/
def spellLength : Option Nat → List Char
  | none => ['.', '.', '.']
  | some n => Nat.toDigits 10 n

theorem spell_array (length : Option Nat) (elem : GoType) :
    (GoType.array length elem).spell = '[' :: (spellLength length ++ ']' :: elem.spell) := by
  cases length <;> rfl

theorem spellLength_injective {length length' : Option Nat}
    (h : spellLength length = spellLength length') : length = length' := by
  have hdots : ∀ n : Nat, ['.', '.', '.'] ≠ Nat.toDigits 10 n := by
    intro n hdigits
    have hpoint : '.' ∈ Nat.toDigits 10 n := hdigits ▸ List.mem_cons_self
    exact absurd (isDigit_of_toDigits hpoint) (by decide)
  cases length with
  | none =>
      cases length' with
      | none => rfl
      | some n => exact absurd h (hdots n)
  | some n =>
      cases length' with
      | none => exact absurd h.symm (hdots n)
      | some n' =>
          have hvalue := congrArg (Nat.ofDigitChars 10 · 0) h
          simp only [spellLength, Nat.ofDigitChars_ten_toDigits] at hvalue
          rw [hvalue]

theorem notMem_spellLength (length : Option Nat) : ']' ∉ spellLength length := by
  cases length with
  | none => decide
  | some n => exact fun hmem => absurd (isDigit_of_toDigits hmem) (by decide)

theorem unique_array (length : Option Nat) {elem : GoType} (ih : Unique elem) :
    Unique (.array length elem) := by
  intro t' more more' ht ht' hmore hmore' h
  have hform := form_eq ht ht' hmore hmore' h
  cases t' with
  | array length' elem' =>
      rw [spell_array, spell_array, List.cons_append, List.cons_append, List.append_assoc,
        List.append_assoc] at h
      obtain ⟨hlength, hbehind⟩ := append_cons_inj (notMem_spellLength length)
        (notMem_spellLength length') (List.cons.inj h).2
      obtain rfl := spellLength_injective hlength
      obtain ⟨rfl, hrest⟩ := ih elem' ht ht' hmore hmore' hbehind
      exact ⟨rfl, hrest⟩
  | _ => cases hform

theorem unique_chan {elem : GoType} (ih : Unique elem) : Unique (.chan elem) := by
  intro t' more more' ht ht' hmore hmore' h
  have hform := form_eq ht ht' hmore hmore' h
  cases t' with
  | chan elem' =>
      rw [spell_chan, spell_chan, List.append_assoc, List.append_assoc] at h
      obtain ⟨-, hbehind⟩ := List.cons.inj (List.append_cancel_left h)
      obtain ⟨rfl, hrest⟩ := ih elem' ht ht' hmore hmore' hbehind
      exact ⟨rfl, hrest⟩
  | _ => cases hform

theorem unique_map {key value : GoType} (ihkey : Unique key) (ihvalue : Unique value) :
    Unique (.map key value) := by
  intro t' more more' ht ht' hmore hmore' h
  have hform := form_eq ht ht' hmore hmore' h
  cases t' with
  | map key' value' =>
      rw [isProper, Bool.and_eq_true] at ht ht'
      rw [spell_map, spell_map, List.append_assoc, List.append_assoc, List.cons_append,
        List.cons_append, List.append_assoc, List.append_assoc] at h
      obtain ⟨-, hbehind⟩ := List.cons.inj (List.append_cancel_left h)
      obtain ⟨rfl, hvalue⟩ := ihkey key' ht.1 ht'.1 (ends_bracket _) (ends_bracket _) hbehind
      obtain ⟨rfl, hrest⟩ := ihvalue value' ht.2 ht'.2 hmore hmore' (List.cons.inj hvalue).2
      exact ⟨rfl, hrest⟩
  | _ => cases hform

/-! ## §D Fields -/

theorem ends_spellFields (fields : List (Field GoType)) (more : List Char) :
    Ends (spellFields fields ++ more) := by
  cases fields with
  | nil => exact Or.inr (Or.inr rfl)
  | cons f fields => exact Or.inr (Or.inl rfl)

theorem name_ne_brace {name : String} (hname : isName name = true) (more cs : List Char) :
    name.toList ++ more ≠ '}' :: cs := by
  obtain ⟨c, rest, hlist, hstart, -, -⟩ := (isName_iff name).mp hname
  rw [hlist]
  rintro h
  obtain ⟨rfl, -⟩ := List.cons.inj h
  exact absurd hstart (by decide)

/-- No type is spelled with a closing brace in front. -/
theorem spell_ne_brace {t : GoType} (ht : t.isProper = true) {more : List Char} (hmore : Ends more)
    (cs : List Char) : t.spell ++ more ≠ '}' :: cs := by
  intro h
  have hform : t.form = .named := by
    rw [← formOf_spell ht hmore, h]
    rfl
  cases t with
  | named package name =>
      cases package with
      | none => exact name_ne_brace ht _ _ h
      | some package =>
          rw [isProper, Bool.and_eq_true] at ht
          rw [spell_qualified, List.append_assoc] at h
          exact name_ne_brace ht.1 _ _ h
  | _ => cases hform

/-- An embedded field is not spelled like one with a name: behind a name on its own stands the end of
the field, and not another type. -/
theorem spell_ne_named {t t' : GoType} {name : String} {fields fields' : List (Field GoType)}
    {more more' : List Char} (ht : t.isProper = true) (ht' : t'.isProper = true)
    (hname : isName name = true) :
    t.spell ++ (spellFields fields ++ more) ≠
      name.toList ++ ' ' :: (t'.spell ++ (spellFields fields' ++ more')) := by
  intro h
  have hends := ends_spellFields fields more
  have hform : t.form = .named := by
    rw [← formOf_spell ht hends, h, formOf_name hname rfl]
    rfl
  cases t with
  | named package own =>
      cases package with
      | none =>
          obtain ⟨-, hbehind⟩ := name_append_inj ht hname hends.bounded rfl h
          cases fields with
          | nil =>
              have hbrace := (List.cons.inj hbehind).2
              exact spell_ne_brace ht' (ends_spellFields fields' more') _ hbrace.symm
          | cons f fields => exact absurd (List.cons.inj hbehind).1 (by decide)
      | some package =>
          rw [isProper, Bool.and_eq_true] at ht
          rw [spell_qualified, List.append_assoc] at h
          obtain ⟨-, hbehind⟩ := name_append_inj ht.1 hname rfl rfl h
          exact absurd (List.cons.inj hbehind).1 (by decide)
  | _ => cases hform

theorem spellField_named (name : String) (type : GoType) (more : List Char) :
    spellField ⟨name, type, false⟩ ++ more = name.toList ++ ' ' :: (type.spell ++ more) :=
  List.append_assoc ..

theorem field_inj {f f' : Field GoType} (ih : Unique f.type) (hf : isProperField f = true)
    (hf' : isProperField f' = true) {fields fields' : List (Field GoType)} {more more' : List Char}
    (h : spellField f ++ spellFields fields ++ more = spellField f' ++ spellFields fields' ++ more') :
    f = f' ∧ spellFields fields ++ more = spellFields fields' ++ more' := by
  rw [List.append_assoc, List.append_assoc] at h
  obtain ⟨name, type, embedded⟩ := f
  obtain ⟨name', type', embedded'⟩ := f'
  rw [isProperField, Bool.and_eq_true] at hf hf'
  obtain ⟨hname, htype⟩ := hf
  obtain ⟨hname', htype'⟩ := hf'
  have hends := ends_spellFields fields more
  have hends' := ends_spellFields fields' more'
  cases embedded with
  | true =>
      cases embedded' with
      | true =>
          obtain ⟨rfl, hrest⟩ := ih type' htype htype' hends hends' h
          have hsame : some name = some name' :=
            (beq_iff_eq.mp hname).symm.trans (beq_iff_eq.mp hname')
          cases hsame
          exact ⟨rfl, hrest⟩
      | false =>
          rw [spellField_named] at h
          exact absurd h (spell_ne_named htype htype' hname')
  | false =>
      rw [spellField_named] at h
      cases embedded' with
      | true => exact absurd h.symm (spell_ne_named htype' htype hname)
      | false =>
          rw [spellField_named] at h
          obtain ⟨rfl, hbehind⟩ := name_append_inj hname hname' rfl rfl h
          obtain ⟨rfl, hrest⟩ := ih type' htype htype' hends hends' (List.cons.inj hbehind).2
          exact ⟨rfl, hrest⟩

theorem fields_inj {fields fields' : List (Field GoType)} (ih : ∀ f ∈ fields, Unique f.type)
    (hfields : areProper fields = true) (hfields' : areProper fields' = true)
    {more more' : List Char} (h : spellFields fields ++ more = spellFields fields' ++ more') :
    fields = fields' ∧ more = more' := by
  induction fields generalizing fields' with
  | nil =>
      cases fields' with
      | nil => exact ⟨rfl, List.append_cancel_left h⟩
      | cons f' fields' => exact absurd (List.cons.inj h).1 (by decide)
  | cons f fields ihfields =>
      cases fields' with
      | nil => exact absurd (List.cons.inj h).1 (by decide)
      | cons f' fields' =>
          obtain ⟨hf, hothers⟩ := (areProper_cons f fields).mp hfields
          obtain ⟨hf', hothers'⟩ := (areProper_cons f' fields').mp hfields'
          obtain ⟨-, hbehind⟩ := List.cons.inj (List.cons.inj h).2
          obtain ⟨rfl, hrest⟩ := field_inj (ih f List.mem_cons_self) hf hf' hbehind
          obtain ⟨rfl, hmore⟩ :=
            ihfields (fun g hg => ih g (List.mem_cons_of_mem _ hg)) hothers hothers' hrest
          exact ⟨rfl, hmore⟩

theorem body_inj {fields fields' : List (Field GoType)} (ih : ∀ f ∈ fields, Unique f.type)
    (hfields : areProper fields = true) (hfields' : areProper fields' = true)
    {more more' : List Char} (h : spellBody fields ++ more = spellBody fields' ++ more') :
    fields = fields' ∧ more = more' := by
  cases fields with
  | nil =>
      cases fields' with
      | nil => exact ⟨rfl, List.append_cancel_left h⟩
      | cons f' fields' => exact absurd (List.cons.inj h).1 (by decide)
  | cons f fields =>
      cases fields' with
      | nil => exact absurd (List.cons.inj h).1 (by decide)
      | cons f' fields' =>
          obtain ⟨hf, hothers⟩ := (areProper_cons f fields).mp hfields
          obtain ⟨hf', hothers'⟩ := (areProper_cons f' fields').mp hfields'
          obtain ⟨rfl, hrest⟩ := field_inj (ih f List.mem_cons_self) hf hf' (List.cons.inj h).2
          obtain ⟨rfl, hmore⟩ :=
            fields_inj (fun g hg => ih g (List.mem_cons_of_mem _ hg)) hothers hothers' hrest
          exact ⟨rfl, hmore⟩

theorem unique_struct {fields : List (Field GoType)} (ih : ∀ f ∈ fields, Unique f.type) :
    Unique (.struct fields) := by
  intro t' more more' ht ht' hmore hmore' h
  have hform := form_eq ht ht' hmore hmore' h
  cases t' with
  | struct fields' =>
      rw [spell_struct, spell_struct, List.append_assoc, List.append_assoc] at h
      obtain ⟨-, hbehind⟩ := List.cons.inj (List.append_cancel_left h)
      obtain ⟨rfl, hrest⟩ := body_inj ih ht ht' (List.cons.inj hbehind).2
      exact ⟨rfl, hrest⟩
  | _ => cases hform

theorem unique_interface : Unique .interface := by
  intro t' more more' ht ht' hmore hmore' h
  have hform := form_eq ht ht' hmore hmore' h
  cases t' with
  | interface => exact ⟨rfl, List.append_cancel_left h⟩
  | _ => cases hform

/-! ## §E One type to a spelling -/

/-- No two types are spelled at the front of one text. -/
theorem unique (t : GoType) : Unique t := by
  induction t using GoType.induction with
  | named package name => exact unique_named package name
  | pointer elem ih => exact unique_pointer ih
  | slice elem ih => exact unique_slice ih
  | array length elem ih => exact unique_array length ih
  | chan elem ih => exact unique_chan ih
  | map key value ihkey ihvalue => exact unique_map ihkey ihvalue
  | struct fields ih => exact unique_struct ih
  | interface => exact unique_interface
  | func text =>
      intro t' more more' ht
      cases ht
  | other text =>
      intro t' more more' ht
      cases ht

/-- Proper types have the same spelling only if they are the same. -/
theorem spelling_eq_iff {t t' : GoType} (ht : t.isProper = true) (ht' : t'.isProper = true) :
    t.spelling = t'.spelling ↔ t = t' := by
  constructor
  · intro h
    have hspell : t.spell = t'.spell := String.ofList_injective h
    have happend : t.spell ++ [] = t'.spell ++ [] := by rw [hspell]
    exact (unique t t' ht ht' ends_nil ends_nil happend).1
  · rintro rfl
    rfl

/-- A struct with one field that has a name of its own. -/
def ownField : GoType :=
  .struct [⟨"a", .pointer (.array none (.named (some "p") "T")), false⟩]

/-- A struct with embedded fields. -/
def embeddedFields : GoType :=
  .struct [⟨"a", plain "a", true⟩, ⟨"T", .pointer (.named (some "p") "T"), true⟩,
    ⟨"interface \x7b\x7d", .interface, true⟩]

/-- A field with a name and embedded fields are told apart by their spellings. -/
theorem spelling_ownField :
    ownField.isProper = true ∧ embeddedFields.isProper = true ∧
      ownField.spelling ≠ embeddedFields.spelling := by
  have hown : ownField.isProper = true := by decide +kernel
  have hembedded : embeddedFields.isProper = true := by decide +kernel
  refine ⟨hown, hembedded, ?_⟩
  rw [ne_eq, spelling_eq_iff hown hembedded]
  simp [ownField, embeddedFields]

end RollCall.GoType
