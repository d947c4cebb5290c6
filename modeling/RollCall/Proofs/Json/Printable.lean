import RollCall.Proofs.Json.Tokens

/-!
# RollCall.Proofs.Json.Printable — written JSON holds no control character

Whatever characters the strings and names of a value have, its text holds none below U+0020: the
writer escapes them, and its own signs, digits and letters lie above. So a written value stands in one
line of whatever text it is put into.
-/

namespace RollCall

/-- No character is below U+0020. -/
def Printable (cs : List Char) : Prop := ∀ c ∈ cs, 32 ≤ c.toNat

instance (cs : List Char) : Decidable (Printable cs) :=
  List.decidableBAll (fun c : Char => 32 ≤ c.toNat) cs

namespace Printable

theorem nil : Printable [] := nofun

theorem cons {c : Char} {cs : List Char} (hc : 32 ≤ c.toNat) (hcs : Printable cs) :
    Printable (c :: cs) := List.forall_mem_cons.mpr ⟨hc, hcs⟩

theorem append {cs ds : List Char} (hcs : Printable cs) (hds : Printable ds) :
    Printable (cs ++ ds) := List.forall_mem_append.mpr ⟨hcs, hds⟩

theorem replicate {c : Char} (hc : 32 ≤ c.toNat) (n : Nat) : Printable (List.replicate n c) := by
  intro d hd
  rw [List.eq_of_mem_replicate hd]
  exact hc

/-! ## §A Strings and numbers -/

/-- Whatever is below U+0020 is escaped, and the escapes are made of letters and digits. -/
theorem escaped (c : Char) : Printable (Json.escaped c) := by
  rcases Json.escaped_cases c with ⟨d, heq, hd, -⟩ | ⟨hlow, heq⟩ | ⟨hhigh, -, -, heq⟩
  · rw [heq]
    exact cons (by decide) (cons hd nil)
  · have hfirst := (Json.hexDigit_spec (by omega : c.toNat / 16 < 16)).1
    have hsecond := (Json.hexDigit_spec (by omega : c.toNat % 16 < 16)).1
    rw [heq]
    exact append (by decide : Printable ['\\', 'u', '0', '0']) (cons hfirst (cons hsecond nil))
  · rw [heq]
    exact cons hhigh nil

/-- A string in quotes is printable, whatever characters it has. -/
theorem quoted (s : String) : Printable (Json.quoted s) := by
  have hbody : Printable (s.toList.flatMap Json.escaped) := by
    intro c hc
    obtain ⟨d, -, hd⟩ := List.mem_flatMap.mp hc
    exact escaped d c hd
  exact append (cons (by decide) hbody) (cons (by decide) nil)

theorem toDigits (n : Nat) : Printable (Nat.toDigits 10 n) := by
  intro c hc
  have hdigit : c.isDigit = true := Nat.isDigit_of_mem_toDigits (by decide) (by decide) hc
  rw [Char.isDigit, Bool.and_eq_true, decide_eq_true_eq] at hdigit
  have hzero : 48 ≤ c.toNat := UInt32.le_iff_toNat_le.mp hdigit.1
  omega

/-- A whole number is printable, with a sign and without. -/
theorem decimal (n : Int) : Printable (Json.decimal n) := by
  cases n with
  | ofNat n => exact toDigits n
  | negSucc n => exact cons (by decide) (toDigits (n + 1))

/-- A point and zeros around digits are printable. -/
theorem withPoint {digits : List Char} (h : Printable digits) (wholePoint : Bool) (point : Int) :
    Printable (Layout.withPoint wholePoint digits point) := by
  unfold Layout.withPoint
  split
  · exact append (cons (by decide) (cons (by decide) (replicate (by decide) _))) h
  split
  · refine append (append h (replicate (by decide) _)) ?_
    split
    · decide
    · exact nil
  · refine append ?_ (cons (by decide) ?_)
    · exact fun c hc => h c (List.mem_of_mem_take hc)
    · exact fun c hc => h c (List.mem_of_mem_drop hc)

/-- An exponent behind digits is printable. -/
theorem withExponent {digits : List Char} (h : Printable digits) (plusSign : Bool) (exponent : Int) :
    Printable (Layout.withExponent plusSign digits exponent) := by
  unfold Layout.withExponent
  refine append (append ?_ (cons (by decide) ?_)) (toDigits _)
  · split
    · exact nil
    · exact h
    · obtain ⟨hfirst, hothers⟩ := List.forall_mem_cons.mp h
      exact cons hfirst (cons (by decide) hothers)
  · split
    · decide
    split
    · decide
    · exact nil

/-- A floating-point number is printable in every layout. -/
theorem write (layout : Layout) (x : Binary64) : Printable (layout.write x).toList := by
  unfold Layout.write
  rw [String.toList_ofList]
  have hdigits : Printable (Nat.toDigits 10 x.shortest.digits) := toDigits _
  have hbody : ∀ positional : Bool, Printable
      (if positional = true then
        Layout.withPoint layout.wholePoint (Nat.toDigits 10 x.shortest.digits) x.shortest.point
      else
        Layout.withExponent layout.plusSign (Nat.toDigits 10 x.shortest.digits)
          (x.shortest.point - 1)) := by
    intro positional
    split
    · exact withPoint hdigits _ _
    · exact withExponent hdigits _ _
  split
  · exact cons (by decide) (hbody _)
  · exact hbody _

end Printable

/-! ## §B Values -/

namespace Json

mutual

/-- The text of a value is printable, by the way that it is put together. -/
theorem printable_chars : ∀ v : Json, Printable (chars v)
  | .null => by decide
  | .bool true => by decide
  | .bool false => by decide
  | .int n => .decimal n
  | .float x => .write numbers x
  | .str s => .quoted s
  | .arr [] => by decide
  | .arr (v :: vs) => .append (.cons (by decide) (printable_chars v)) (printable_itemChars vs)
  | .obj [] => by decide
  | .obj ((k, v) :: ms) =>
    .append (.append (.cons (by decide) (.quoted k)) (.cons (by decide) (printable_chars v)))
      (printable_memberChars ms)

theorem printable_itemChars : ∀ vs : List Json, Printable (itemChars vs)
  | [] => by decide
  | v :: vs => .append (.cons (by decide) (printable_chars v)) (printable_itemChars vs)

theorem printable_memberChars : ∀ ms : List (String × Json), Printable (memberChars ms)
  | [] => by decide
  | (k, v) :: ms =>
    .append (.append (.cons (by decide) (.quoted k)) (.cons (by decide) (printable_chars v)))
      (printable_memberChars ms)

end

/-- No text of a value holds a character below U+0020. -/
theorem printable_compact (v : Json) : Printable v.compact.toList := by
  rw [compact, String.toList_ofList]
  exact printable_chars v

end Json

end RollCall
