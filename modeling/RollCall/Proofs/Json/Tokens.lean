import Mathlib.Data.List.TakeWhile
import RollCall.Json.Reader
import RollCall.Json.Writer
import RollCall.Proofs.Dictionary

/-!
# RollCall.Proofs.Json.Tokens — the strings and numbers of written JSON

A string is written character by character, and each written character is read as the one it stands
for, so a string is read as itself whatever is in it. An integer of 64 bits is read as itself too. How
a number is read is not changed by what follows it, as long as that is nothing or one of the signs
that can follow a value (`Closes`); this needs nothing of the number, so it also settles how floating
point numbers are read inside other values.
-/

namespace RollCall.Json

/-! ## §A Characters in strings -/

theorem eq_ofNat_of_toNat {c : Char} {n : Nat} (h : (c.toNat == n) = true) : c = Char.ofNat n := by
  rw [← eq_of_beq h, Char.ofNat_toNat]

/-- The three ways in which a character is written inside a string: a backslash and a letter that
reads as the character, a backslash and its number, and the character itself. -/
theorem escaped_cases (c : Char) :
    (∃ d, escaped c = ['\\', d] ∧ 32 ≤ d.toNat ∧ ∀ cs, readEscape (d :: cs) = some (c, cs)) ∨
      (c.toNat < 32 ∧
        escaped c = ['\\', 'u', '0', '0', hexDigit (c.toNat / 16), hexDigit (c.toNat % 16)]) ∨
      (32 ≤ c.toNat ∧ c ≠ '"' ∧ c ≠ '\\' ∧ escaped c = [c]) := by
  unfold escaped
  split
  · rename_i h
    cases eq_of_beq h
    exact Or.inl ⟨'"', rfl, by decide, fun _ => rfl⟩
  split
  · rename_i h
    cases eq_of_beq h
    exact Or.inl ⟨'\\', rfl, by decide, fun _ => rfl⟩
  split
  · rename_i h
    cases eq_ofNat_of_toNat h
    exact Or.inl ⟨'b', rfl, by decide, fun _ => rfl⟩
  split
  · rename_i h
    cases eq_ofNat_of_toNat h
    exact Or.inl ⟨'t', rfl, by decide, fun _ => rfl⟩
  split
  · rename_i h
    cases eq_ofNat_of_toNat h
    exact Or.inl ⟨'n', rfl, by decide, fun _ => rfl⟩
  split
  · rename_i h
    cases eq_ofNat_of_toNat h
    exact Or.inl ⟨'f', rfl, by decide, fun _ => rfl⟩
  split
  · rename_i h
    cases eq_ofNat_of_toNat h
    exact Or.inl ⟨'r', rfl, by decide, fun _ => rfl⟩
  split
  · rename_i h
    exact Or.inr (Or.inl ⟨h, rfl⟩)
  · rename_i hquote hslash _ _ _ _ _ h
    refine Or.inr (Or.inr ⟨Nat.le_of_not_lt h, ?_, ?_, rfl⟩)
    · rintro rfl
      exact hquote rfl
    · rintro rfl
      exact hslash rfl

theorem hexDigit_spec {n : Nat} (h : n < 16) :
    32 ≤ (hexDigit n).toNat ∧ hexValue? (hexDigit n) = some n := by
  have hall : ∀ k : Fin 16,
      32 ≤ (hexDigit k.val).toNat ∧ hexValue? (hexDigit k.val) = some k.val := by decide
  exact hall ⟨n, h⟩

/-- The number of a character below U+0020 reads as the character. -/
theorem readUnicode_control {c : Char} (h : c.toNat < 32) (cs : List Char) :
    readUnicode ('0' :: '0' :: hexDigit (c.toNat / 16) :: hexDigit (c.toNat % 16) :: cs) =
      some (c, cs) := by
  have hhigh : hexValue? (hexDigit (c.toNat / 16)) = some (c.toNat / 16) :=
    (hexDigit_spec (by omega)).2
  have hlow : hexValue? (hexDigit (c.toNat % 16)) = some (c.toNat % 16) :=
    (hexDigit_spec (by omega)).2
  have hzero : hexValue? '0' = some 0 := rfl
  have hnumber : ((0 * 16 + 0) * 16 + c.toNat / 16) * 16 + c.toNat % 16 = c.toNat := by omega
  have hhex : readHex4 ('0' :: '0' :: hexDigit (c.toNat / 16) :: hexDigit (c.toNat % 16) :: cs) =
      some (c.toNat, cs) := by
    simp only [readHex4, hzero, hhigh, hlow, Option.bind_eq_bind, Option.bind_some, hnumber,
      Option.pure_def]
  -- the number is far below the surrogates
  have hnot : (decide (0xDC00 ≤ c.toNat) && decide (c.toNat ≤ 0xDFFF)) = false := by
    rw [decide_eq_false (by omega : ¬0xDC00 ≤ c.toNat), Bool.false_and]
  have hnot' : (decide (0xD800 ≤ c.toNat) && decide (c.toNat ≤ 0xDBFF)) = false := by
    rw [decide_eq_false (by omega : ¬0xD800 ≤ c.toNat), Bool.false_and]
  simp only [readUnicode, hhex, Option.bind_eq_bind, Option.bind_some, hnot, hnot',
    Bool.false_eq_true, if_false, Option.pure_def, Char.ofNat_toNat]

theorem readChars_backslash {c : Char} {cs rest : List Char} (h : readEscape cs = some (c, rest))
    (fuel : Nat) :
    readChars (fuel + 1) ('\\' :: cs) =
      (readChars fuel rest).map fun (ds, rest) => (c :: ds, rest) := by
  rw [readChars, if_neg (by decide), if_pos (by decide), h]

/-- A written character is read as itself. -/
theorem readChars_escaped (fuel : Nat) (c : Char) (cs : List Char) :
    readChars (fuel + 1) (escaped c ++ cs) =
      (readChars fuel cs).map fun (ds, rest) => (c :: ds, rest) := by
  rcases escaped_cases c with ⟨d, heq, -, hread⟩ | ⟨hlow, heq⟩ | ⟨hhigh, hquote, hslash, heq⟩
  · rw [heq]
    exact readChars_backslash (hread cs) fuel
  · have hread : readEscape ('u' :: '0' :: '0' :: hexDigit (c.toNat / 16) ::
        hexDigit (c.toNat % 16) :: cs) = some (c, cs) := readUnicode_control hlow cs
    rw [heq]
    exact readChars_backslash hread fuel
  · rw [heq, List.singleton_append, readChars, if_neg (by simpa using hquote),
      if_neg (by simpa using hslash), if_neg (by omega)]

theorem length_escaped_pos (c : Char) : 0 < (escaped c).length := by
  rcases escaped_cases c with ⟨d, heq, -⟩ | ⟨-, heq⟩ | ⟨-, -, -, heq⟩ <;> rw [heq] <;> simp

/-- A written string is read as itself, up to its closing quote. -/
theorem readChars_flatMap_escaped (s rest : List Char) (fuel : Nat)
    (hfuel : (s.flatMap escaped).length < fuel) :
    readChars fuel (s.flatMap escaped ++ '"' :: rest) = some (s, rest) := by
  induction s generalizing fuel with
  | nil =>
      obtain ⟨fuel, rfl⟩ := Nat.exists_eq_add_of_lt hfuel
      rfl
  | cons c s ih =>
      rw [List.flatMap_cons, List.length_append] at hfuel
      have hpos := length_escaped_pos c
      obtain ⟨fuel, rfl⟩ : ∃ k, fuel = k + 1 := ⟨fuel - 1, by omega⟩
      rw [List.flatMap_cons, List.append_assoc, readChars_escaped, ih fuel (by omega)]
      rfl

/-! ## §B Numbers -/

/-- What can stand after a written value: nothing, or one of the signs that close or separate
values. -/
inductive Closes : List Char → Prop
  | nil : Closes []
  | comma (rest : List Char) : Closes (',' :: rest)
  | bracket (rest : List Char) : Closes (']' :: rest)
  | brace (rest : List Char) : Closes ('}' :: rest)

theorem Closes.digits_append {rest : List Char} (h : Closes rest) (cs : List Char) :
    digits (cs ++ rest) = digits cs := by
  have hrest : rest.takeWhile Char.isDigit = [] := by cases h <;> rfl
  unfold digits
  rw [List.takeWhile_append, hrest]
  split
  · rename_i hall
    rw [List.append_nil, (List.takeWhile_prefix _).eq_of_length hall]
  · rfl

theorem length_digits_le (cs : List Char) : (digits cs).length ≤ cs.length := by
  rw [digits, List.length_map]
  exact (List.takeWhile_prefix _).length_le

theorem drop_digits_append (cs rest : List Char) :
    (cs ++ rest).drop (digits cs).length = cs.drop (digits cs).length ++ rest :=
  List.drop_append_of_le_length (length_digits_le cs)

theorem Closes.readFraction_append {rest : List Char} (h : Closes rest) (cs : List Char) :
    readFraction (cs ++ rest) = (readFraction cs).map fun (ds, left) => (ds, left ++ rest) := by
  cases cs with
  | nil => cases h <;> rfl
  | cons c cs =>
      by_cases hpoint : c = '.'
      · subst hpoint
        simp only [readFraction, List.cons_append, h.digits_append, drop_digits_append]
        split <;> rfl
      · simp only [readFraction, List.cons_append, List.cons.injEq, hpoint, false_and, imp_self,
          implies_true, Option.map_some]

/-- The sign in front of the digits of an exponent, and what follows it. -/
def exponentSign : List Char → Bool × List Char
  | '-' :: cs => (true, cs)
  | '+' :: cs => (false, cs)
  | cs => (false, cs)

theorem readExponent_mark {c : Char} (hmark : (c == 'e' || c == 'E') = true) (cs : List Char) :
    readExponent (c :: cs) =
      let (negative, cs) := exponentSign cs
      if (digits cs).isEmpty then none
      else
        some (some (if negative then -(ofDigits (digits cs) : Int) else ofDigits (digits cs)),
          cs.drop (digits cs).length) := by
  show (if (c == 'e' || c == 'E') = true then _ else _) = _
  rw [if_pos hmark]
  rfl

theorem readExponent_none {c : Char} (hmark : ¬(c == 'e' || c == 'E') = true) (cs : List Char) :
    readExponent (c :: cs) = some (none, c :: cs) := by
  show (if (c == 'e' || c == 'E') = true then _ else _) = _
  rw [if_neg hmark]

theorem Closes.exponentSign_append {rest : List Char} (h : Closes rest) (cs : List Char) :
    exponentSign (cs ++ rest) = ((exponentSign cs).1, (exponentSign cs).2 ++ rest) := by
  cases cs with
  | nil => cases h <;> rfl
  | cons c cs =>
      by_cases hminus : c = '-'
      · subst hminus
        rfl
      by_cases hplus : c = '+'
      · subst hplus
        rfl
      simp only [exponentSign, List.cons_append, List.cons.injEq, hminus, hplus, false_and, imp_self,
        implies_true]

theorem Closes.readExponent_append {rest : List Char} (h : Closes rest) (cs : List Char) :
    readExponent (cs ++ rest) = (readExponent cs).map fun (e, left) => (e, left ++ rest) := by
  cases cs with
  | nil => cases h <;> rfl
  | cons c cs =>
      by_cases hmark : (c == 'e' || c == 'E') = true
      · rw [List.cons_append, readExponent_mark hmark, readExponent_mark hmark,
          h.exponentSign_append]
        simp only [h.digits_append, drop_digits_append]
        split <;> rfl
      · rw [List.cons_append, readExponent_none hmark, readExponent_none hmark]
        rfl

/-- The sign in front of a number, and what follows it. -/
def numberSign : List Char → Bool × List Char
  | '-' :: cs => (true, cs)
  | cs => (false, cs)

theorem readNumber_eq (cs : List Char) :
    readNumber cs =
      let (negative, cs) := numberSign cs
      if (digits cs).isEmpty || ((digits cs).head? == some 0 && 1 < (digits cs).length) then none
      else
        (readFraction (cs.drop (digits cs).length)).bind fun (fraction, rest) =>
          (readExponent rest).bind fun (exponent, rest) =>
            match fraction, exponent with
            | none, none => (whole negative (digits cs)).map fun v => (v, rest)
            | _, _ =>
              (scaled negative (digits cs) (fraction.getD []) (exponent.getD 0)).map
                fun v => (v, rest) := rfl

theorem numberSign_of_ne {c : Char} (h : c ≠ '-') (cs : List Char) :
    numberSign (c :: cs) = (false, c :: cs) := by
  simp only [numberSign, List.cons.injEq, h, false_and, imp_self, implies_true]

theorem Closes.numberSign_append {rest : List Char} (h : Closes rest) (cs : List Char) :
    numberSign (cs ++ rest) = ((numberSign cs).1, (numberSign cs).2 ++ rest) := by
  cases cs with
  | nil => cases h <;> rfl
  | cons c cs =>
      by_cases hminus : c = '-'
      · subst hminus
        rfl
      · rw [List.cons_append, numberSign_of_ne hminus, numberSign_of_ne hminus]
        rfl

/-- What follows a number does not change how it is read. -/
theorem Closes.readNumber_append {rest : List Char} (h : Closes rest) (cs : List Char) :
    readNumber (cs ++ rest) = (readNumber cs).map fun (v, left) => (v, left ++ rest) := by
  rw [readNumber_eq, readNumber_eq, h.numberSign_append]
  generalize numberSign cs = signed
  obtain ⟨negative, cs⟩ := signed
  simp only [h.digits_append, drop_digits_append]
  split
  · rfl
  · rw [h.readFraction_append]
    cases readFraction (cs.drop (digits cs).length) with
    | none => rfl
    | some fraction =>
        simp only [Option.map_some, Option.bind_some]
        rw [h.readExponent_append]
        cases readExponent fraction.2 with
        | none => rfl
        | some exponent =>
            simp only [Option.map_some, Option.bind_some]
            split <;> simp only [Option.map_map] <;> rfl

theorem takeWhile_toDigits (n : Nat) :
    (Nat.toDigits 10 n).takeWhile Char.isDigit = Nat.toDigits 10 n := by
  rw [List.takeWhile_eq_self_iff]
  exact fun c hc => Nat.isDigit_of_mem_toDigits (by decide) (by decide) hc

theorem length_digits_toDigits (n : Nat) :
    (digits (Nat.toDigits 10 n)).length = (Nat.toDigits 10 n).length := by
  rw [digits, takeWhile_toDigits, List.length_map]

theorem ofDigits_toDigits (n : Nat) : ofDigits (digits (Nat.toDigits 10 n)) = n := by
  rw [digits, takeWhile_toDigits, ofDigits, List.foldl_map]
  calc (Nat.toDigits 10 n).foldl (fun k c => k * 10 + (c.toNat - '0'.toNat)) 0
      = (Nat.toDigits 10 n).foldl (fun k c => 10 * k + (c.toNat - '0'.toNat)) 0 := by
        simp only [Nat.mul_comm]
    _ = n := Nat.ofDigitChars_ten_toDigits

/-- A positive number is not written with a zero in front. -/
theorem head?_digits_toDigits {n : Nat} (h : 0 < n) :
    (digits (Nat.toDigits 10 n)).head? ≠ some 0 := by
  rw [digits, takeWhile_toDigits]
  induction n using Nat.strongRecOn with
  | ind n ih =>
      by_cases hsmall : n < 10
      · rw [Nat.toDigits_of_lt_base hsmall]
        have hall : ∀ k : Fin 10, 0 < k.val → (Nat.digitChar k.val).toNat - '0'.toNat ≠ 0 := by
          decide
        simpa using hall ⟨n, hsmall⟩ h
      · -- the digits in front of the last one are those of a tenth of the number
        rw [Nat.toDigits_of_base_le (by decide) (by omega), List.map_append,
          List.head?_append_of_ne_nil]
        · exact ih (n / 10) (by omega) (by omega)
        · simp

/-- Decimal digits after a sign are read as a whole number, and all of them. -/
theorem readNumber_toDigits {cs : List Char} {negative : Bool} {n : Nat}
    (hsign : numberSign cs = (negative, Nat.toDigits 10 n)) :
    readNumber cs = (whole negative (digits (Nat.toDigits 10 n))).map fun v => (v, []) := by
  have hfront : ((digits (Nat.toDigits 10 n)).isEmpty ||
      ((digits (Nat.toDigits 10 n)).head? == some 0 &&
        decide (1 < (digits (Nat.toDigits 10 n)).length))) = false := by
    rw [Bool.or_eq_false_iff, Bool.and_eq_false_iff]
    constructor
    · rw [List.isEmpty_eq_false_iff, ← List.length_pos_iff, length_digits_toDigits]
      exact Nat.length_toDigits_pos
    · by_cases hsmall : n < 10
      · right
        rw [length_digits_toDigits, Nat.toDigits_of_lt_base hsmall]
        rfl
      · left
        rw [beq_eq_false_iff_ne]
        exact head?_digits_toDigits (by omega)
  rw [readNumber_eq, hsign]
  simp only [hfront]
  rw [length_digits_toDigits, List.drop_length]
  rfl

/-- An integer that fits 64 bits, with or without a sign, is read as itself. -/
theorem readNumber_decimal {n : Int} (hlow : -(Nat.pow 2 63 : Int) ≤ n) (hhigh : n ≤ wordMax) :
    readNumber (decimal n) = some (.int n, []) := by
  cases n with
  | ofNat n =>
      have hsign : numberSign (Nat.toDigits 10 n) = (false, Nat.toDigits 10 n) := by
        cases hdigits : Nat.toDigits 10 n with
        | nil => exact absurd hdigits Nat.toDigits_ne_nil
        | cons c cs =>
            have hc : c ∈ Nat.toDigits 10 n := hdigits ▸ List.mem_cons_self
            apply numberSign_of_ne
            rintro rfl
            cases Nat.isDigit_of_mem_toDigits (by decide) (by decide) hc
      have hword : n ≤ wordMax := Int.ofNat_le.mp hhigh
      rw [decimal, readNumber_toDigits hsign, whole, ofDigits_toDigits]
      simp only [Bool.false_eq_true, if_false, if_pos hword]
      rfl
  | negSucc n =>
      have hword : n + 1 ≤ Nat.pow 2 63 := by omega
      have hpos : ¬(n + 1 == 0) = true := by simp
      rw [decimal, readNumber_toDigits rfl, whole, ofDigits_toDigits]
      simp only [if_true, if_neg hpos, if_pos hword]
      rfl

end RollCall.Json
