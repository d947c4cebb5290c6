import Mathlib.Data.List.TakeWhile
import RollCall.Source.Plain.Token
import RollCall.Text.Blank

/-!
# RollCall.Proofs.Source.Scan — cutting a text into tokens, piece by piece

`Scans s ts e` says that the text from one spot to another is cut into the given tokens. What is cut
off is looked at with all the text behind it still there, so that pieces can be put together: a word
that could go on is never cut in two. `tokensFrom` gives the tokens of any text that is scanned to
its end.

There is one lemma for each kind of token. A word ends where the text behind it is `Bounded`, a
number where `endsNumber` says so, and a sign is complete as it is.
-/

namespace RollCall.Text.Spot

/-! ## §A Text between spots -/

theorem skip_add (s : Spot) (m n : Nat) : s.skip (m + n) = (s.skip m).skip n := by
  induction m generalizing s with
  | zero => rw [Nat.zero_add, skip]
  | succ m ih => rw [Nat.succ_add, skip, skip, ih]

theorem rest_next (s : Spot) : s.next.rest = s.rest.drop 1 := by
  unfold next
  split
  · rename_i h
    rw [h]
    rfl
  · rename_i h
    rw [h]
    rfl

theorem rest_skip (s : Spot) (n : Nat) : (s.skip n).rest = s.rest.drop n := by
  induction n generalizing s with
  | zero => rfl
  | succ n ih => rw [skip, ih, rest_next, List.drop_drop, Nat.add_comm]

theorem index_skip {s : Spot} {n : Nat} (h : n ≤ s.rest.length) :
    (s.skip n).index = s.index + n := by
  induction n generalizing s with
  | zero => rfl
  | succ n ih =>
      have hnext : s.next.index = s.index + 1 := by
        unfold next
        split
        · rename_i hrest
          rw [hrest] at h
          exact absurd h (Nat.not_succ_le_zero n)
        · rfl
      have hlength : n ≤ s.next.rest.length := by
        rw [rest_next, List.length_drop]
        omega
      rw [skip, ih hlength, hnext]
      omega

/-- **`Ahead s text e`** — the text stands between the two spots. -/
def Ahead (s : Spot) (text : List Char) (e : Spot) : Prop :=
  s.rest = text ++ e.rest ∧ e = s.skip text.length

theorem ahead_of_rest {s : Spot} {text more : List Char} (h : s.rest = text ++ more) :
    ∃ e, Ahead s text e ∧ e.rest = more := by
  have hrest : (s.skip text.length).rest = more := by
    rw [rest_skip, h, List.drop_left]
  exact ⟨s.skip text.length, ⟨by rw [hrest, h], rfl⟩, hrest⟩

theorem Ahead.split {s e : Spot} {first second : List Char} (h : Ahead s (first ++ second) e) :
    ∃ m, Ahead s first m ∧ Ahead m second e := by
  obtain ⟨hrest, he⟩ := h
  rw [List.append_assoc] at hrest
  obtain ⟨m, hm, hmore⟩ := ahead_of_rest hrest
  refine ⟨m, hm, hmore, ?_⟩
  rw [he, hm.2, List.length_append, skip_add]

theorem Ahead.head {s e : Spot} {c : Char} {text : List Char} (h : Ahead s (c :: text) e) :
    ∃ m, Ahead s [c] m ∧ Ahead m text e :=
  h.split

theorem Ahead.textTo {s e : Spot} {text : List Char} (h : Ahead s text e) : s.textTo e = text := by
  obtain ⟨hrest, he⟩ := h
  have hlength : text.length ≤ s.rest.length := by
    rw [hrest, List.length_append]
    omega
  rw [Spot.textTo, he, index_skip hlength, Nat.add_sub_cancel_left, hrest, List.take_left]

theorem Ahead.next {s e : Spot} {c : Char} (h : Ahead s [c] e) : e = s.next := h.2

end RollCall.Text.Spot

namespace RollCall.Source.Plain

open RollCall.Text (Spot isNameStart isNameContinue)
open RollCall.Text.Spot (Ahead)

/-! ## §B Scanning -/

/-- **`Scans s ts e`** — the text between the spots is cut into the tokens. -/
inductive Scans : Spot → List Token → Spot → Prop
  | done (s : Spot) : Scans s [] s
  | blank {s e : Spot} {c : Char} {cs : List Char} {ts : List Token} :
      s.rest = c :: cs → c ≠ '\n' → isSpace c = true → Scans s.next ts e → Scans s ts e
  | line {s e : Spot} {cs : List Char} {ts : List Token} :
      s.rest = '\n' :: cs → Scans s.next ts e → Scans s (⟨.newline, s, s.next⟩ :: ts) e
  | token {s e : Spot} {c : Char} {cs : List Char} {shape : Shape} {n : Nat} {ts : List Token} :
      s.rest = c :: cs → c ≠ '\n' → isSpace c = false → front? c cs = some (shape, n) →
        Scans (s.skip n) ts e → Scans s (⟨shape, s, s.skip n⟩ :: ts) e

theorem Scans.append {s m e : Spot} {ts us : List Token} (h : Scans s ts m) (h' : Scans m us e) :
    Scans s (ts ++ us) e := by
  induction h with
  | done => exact h'
  | blank hrest hline hspace _ ih => exact .blank hrest hline hspace (ih h')
  | line hrest _ ih => exact .line hrest (ih h')
  | token hrest hline hspace hfront _ ih => exact .token hrest hline hspace hfront (ih h')

/-- Whether a point is a sign of its own in front of a text. -/
def endsPoint : List Char → Bool
  | '.' :: '.' :: _ => false
  | d :: _ => !d.isDigit
  | [] => true

theorem endsPoint_cons (d : Char) (cs : List Char) :
    endsPoint (d :: cs) = true ↔ d.isDigit = false ∧ ∀ rest, d = '.' → cs ≠ '.' :: rest := by
  unfold endsPoint
  split
  · rename_i heq
    obtain ⟨rfl, rfl⟩ := List.cons.inj heq
    exact ⟨fun h => (Bool.false_ne_true h).elim, fun h => absurd rfl (h.2 _ rfl)⟩
  · rename_i hdots heq
    obtain ⟨rfl, rfl⟩ := List.cons.inj heq
    rw [Bool.not_eq_true']
    exact ⟨fun h => ⟨h, fun rest hd hcs => hdots rest hd hcs⟩, fun h => h.1⟩
  · rename_i heq
    cases heq

/-- A token is a word, a number, a comment of either form, dots or a sign. -/
theorem front?_cases {c : Char} {cs : List Char} {shape : Shape} {n : Nat}
    (h : front? c cs = some (shape, n)) :
    (isNameStart c = true ∧ n = (cs.takeWhile isNameContinue).length + 1 ∧
      wordShape? (String.ofList (c :: cs.takeWhile isNameContinue)) = some shape) ∨
    (isNameStart c = false ∧ c.isDigit = true ∧ shape = .number ∧
      n = (cs.takeWhile Char.isDigit).length + 1 ∧
      endsNumber (cs.dropWhile Char.isDigit) = true ∧ (c != '0' || n == 1) = true) ∨
    (∃ rest, c = '/' ∧ cs = '/' :: rest ∧ shape = .remark ∧
      n = 2 + (rest.takeWhile (· != '\n')).length) ∨
    (∃ rest k, c = '/' ∧ cs = '*' :: rest ∧ shape = .remark ∧ closedAt? rest = some k ∧
      n = 2 + k) ∨
    (∃ rest, c = '.' ∧ cs = '.' :: '.' :: rest ∧ shape = .dots ∧ n = 3) ∨
    (c ∈ signs ∧ (c = '.' → endsPoint cs = true) ∧ shape = .sign c ∧ n = 1) := by
  unfold front? at h
  dsimp only at h
  split at h
  · rename_i hstart
    obtain ⟨shape', hshape, heq⟩ := Option.map_eq_some_iff.mp h
    cases heq
    exact .inl ⟨hstart, rfl, hshape⟩
  · rename_i hstart
    split at h
    · rename_i hdigit
      split at h
      · rename_i hends
        cases h
        rw [Bool.and_eq_true] at hends
        exact .inr (.inl ⟨Bool.eq_false_iff.mpr hstart, hdigit, rfl, rfl, hends.1, hends.2⟩)
      · cases h
    · refine .inr (.inr ?_)
      split at h
      · cases h
        exact .inl ⟨_, rfl, rfl, rfl, rfl⟩
      · obtain ⟨k, hk, heq⟩ := Option.map_eq_some_iff.mp h
        cases heq
        exact .inr (.inl ⟨_, k, rfl, rfl, rfl, hk, rfl⟩)
      · cases h
        exact .inr (.inr (.inl ⟨_, rfl, rfl, rfl, rfl⟩))
      · rename_i d rest hdots _
        split at h
        · cases h
        · rename_i hdigit
          cases h
          refine .inr (.inr (.inr ⟨by decide, fun _ => ?_, rfl, rfl⟩))
          exact (endsPoint_cons d rest).mpr ⟨Bool.eq_false_iff.mpr hdigit, hdots⟩
      · rename_i _ _ _ hpoint
        split at h
        · rename_i hsign
          cases h
          refine .inr (.inr (.inr ⟨List.contains_iff_mem.mp hsign, fun hc => ?_, rfl, rfl⟩))
          cases cs with
          | nil => rfl
          | cons d rest => exact absurd rfl (hpoint d rest hc)
        · cases h

/-- A token at the front of a text is at least one character long. -/
theorem front?_pos {c : Char} {cs : List Char} {shape : Shape} {n : Nat}
    (h : front? c cs = some (shape, n)) : 0 < n := by
  rcases front?_cases h with ⟨-, rfl, -⟩ | ⟨-, -, -, rfl, -⟩ | ⟨rest, -, -, -, rfl⟩ |
    ⟨rest, k, -, -, -, -, rfl⟩ | ⟨rest, -, -, -, rfl⟩ | ⟨-, -, -, rfl⟩ <;> omega

/-- The tokens of a text that is scanned to its end, with the mark of the end behind them. -/
theorem tokensFrom_of_scans {s e : Spot} {ts : List Token} (h : Scans s ts e) (he : e.rest = [])
    {fuel : Nat} (hfuel : s.rest.length < fuel) :
    tokensFrom fuel s = some (ts ++ [⟨.finish, e, e⟩]) := by
  induction h generalizing fuel with
  | done s =>
      obtain ⟨fuel, rfl⟩ := Nat.exists_eq_add_of_lt hfuel
      rw [tokensFrom, he]
      rfl
  | @blank s e c cs ts hrest hline hspace _ ih =>
      cases fuel with
      | zero => exact absurd hfuel (Nat.not_lt_zero _)
      | succ fuel =>
          have hnext : s.next.rest.length < fuel := by
            rw [hrest, List.length_cons] at hfuel
            rw [Spot.rest_next, hrest, List.drop_one, List.tail_cons]
            omega
          rw [tokensFrom, hrest]
          simp only [beq_eq_false_iff_ne.mpr hline, hspace, Bool.false_eq_true, if_false, if_true]
          exact ih he hnext
  | @line s e cs ts hrest _ ih =>
      cases fuel with
      | zero => exact absurd hfuel (Nat.not_lt_zero _)
      | succ fuel =>
          have hnext : s.next.rest.length < fuel := by
            rw [hrest, List.length_cons] at hfuel
            rw [Spot.rest_next, hrest, List.drop_one, List.tail_cons]
            omega
          rw [tokensFrom, hrest]
          simp only [beq_self_eq_true, if_true, ih he hnext, Option.map_some, List.cons_append]
  | @token s e c cs shape n ts hrest hline hspace hfront _ ih =>
      cases fuel with
      | zero => exact absurd hfuel (Nat.not_lt_zero _)
      | succ fuel =>
          have hpos := front?_pos hfront
          have hskip : (s.skip n).rest.length < fuel := by
            rw [hrest, List.length_cons] at hfuel
            rw [Spot.rest_skip, hrest, List.length_drop, List.length_cons]
            omega
          rw [tokensFrom, hrest]
          simp only [beq_eq_false_iff_ne.mpr hline, hspace, Bool.false_eq_true, if_false, hfront,
            Option.bind_some, ih he hskip, Option.map_some, List.cons_append]

theorem tokens?_of_scans {source : List Char} {e : Spot} {ts : List Token}
    (h : Scans (Spot.start source) ts e) (he : e.rest = []) :
    tokens? source = some (ts ++ [⟨.finish, e, e⟩]) :=
  tokensFrom_of_scans h he (Nat.lt_succ_self _)

/-! ## §C Single tokens -/

/-- No name goes on at the front of the text. -/
def Bounded : List Char → Bool
  | [] => true
  | c :: _ => !isNameContinue c

theorem scans_blank {s e : Spot} (h : Ahead s [' '] e) : Scans s [] e := by
  rw [h.next]
  exact .blank h.1 (by decide) (by decide) (.done _)

theorem scans_tab {s e : Spot} (h : Ahead s ['\t'] e) : Scans s [] e := by
  rw [h.next]
  exact .blank h.1 (by decide) (by decide) (.done _)

theorem bounded_of_ahead {s e : Spot} {c : Char} (h : Ahead s [c] e)
    (hc : isNameContinue c = false) : Bounded s.rest = true := by
  rw [h.1]
  exact Bool.not_eq_true' _ ▸ hc

theorem scans_line {s e : Spot} (h : Ahead s ['\n'] e) : Scans s [⟨.newline, s, e⟩] e := by
  rw [h.next]
  exact .line h.1 (.done _)

/-- A text that is one token is scanned as that token. -/
theorem scans_front {s e : Spot} {c : Char} {cs : List Char} {shape : Shape}
    (h : Ahead s (c :: cs) e) (hline : c ≠ '\n') (hspace : isSpace c = false)
    (hfront : front? c (cs ++ e.rest) = some (shape, (c :: cs).length)) :
    Scans s [⟨shape, s, e⟩] e := by
  have hscan := Scans.token h.1 hline hspace hfront (.done _)
  rw [← h.2] at hscan
  exact hscan

theorem scans_sign {s e : Spot} {c : Char} (hc : c ∈ signs) (hpoint : c ≠ '.')
    (h : Ahead s [c] e) : Scans s [⟨.sign c, s, e⟩] e := by
  simp only [signs, List.mem_cons, List.not_mem_nil, or_false] at hc
  rcases hc with rfl | rfl | rfl | rfl | rfl | rfl | rfl | rfl | rfl | rfl | rfl
  case inr.inr.inr.inr.inr.inr.inr.inl => exact absurd rfl hpoint
  all_goals exact scans_front h (by decide) (by decide) rfl

/-! ## §D Words -/

theorem isNameContinue_of_isNameStart {c : Char} (h : isNameStart c = true) :
    isNameContinue c = true := by
  unfold isNameStart at h
  unfold isNameContinue
  split
  · rename_i hlow
    rw [if_pos hlow] at h
    rcases Bool.or_eq_true_iff.mp h with hletter | hline
    · rw [Char.isAlphanum, hletter]
      rfl
    · rw [hline, Bool.or_true]
  · rename_i hlow
    rw [if_neg hlow] at h
    rw [h, Bool.true_or]

/-- The codes of the blanks. -/
def blankCodes : List Nat := [32, 9, 10, 11, 12, 13] ++ Text.wideBlanks

theorem toNat_mem_blankCodes {c : Char} (h : Text.isBlank c = true) : c.toNat ∈ blankCodes := by
  simp only [Text.isBlank, Bool.or_eq_true, Bool.and_eq_true, beq_iff_eq, decide_eq_true_eq] at h
  rcases h with (rfl | ⟨hlow, hhigh⟩) | ⟨-, hwide⟩
  · decide
  · have hcode : c.toNat = 9 ∨ c.toNat = 10 ∨ c.toNat = 11 ∨ c.toNat = 12 ∨ c.toNat = 13 := by omega
    refine List.mem_append_left _ ?_
    simp only [List.mem_cons, List.not_mem_nil, or_false]
    exact Or.inr hcode
  · exact List.mem_append_right _ (List.contains_iff_mem.mp hwide)

/-- No blank is part of a name. -/
theorem isBlank_of_isNameContinue {c : Char} (h : isNameContinue c = true) :
    Text.isBlank c = false := by
  rw [Bool.eq_false_iff]
  intro hblank
  -- there are finitely many blanks, and each is looked up in the table of letters
  have hall : ∀ n ∈ blankCodes, isNameContinue (Char.ofNat n) = false := by decide +kernel
  have hcode := hall c.toNat (toNat_mem_blankCodes hblank)
  rw [Char.ofNat_toNat, h] at hcode
  exact absurd hcode (by decide)

theorem isBlank_of_isSpace {c : Char} (h : isSpace c = true) : Text.isBlank c = true := by
  unfold isSpace at h
  unfold Text.isBlank
  rw [h, Bool.true_or]

theorem ne_of_isNameContinue {c d : Char} (h : isNameContinue c = true)
    (hd : isNameContinue d = false) : c ≠ d := by
  rintro rfl
  exact absurd (h.symm.trans hd) (by decide)

theorem toNat_mem_of_isDigit {c : Char} (h : c.isDigit = true) : c.toNat ∈ List.range' 48 10 := by
  simp only [Char.isDigit, Bool.and_eq_true, decide_eq_true_eq] at h
  obtain ⟨hlow, hhigh⟩ := h
  have hlow' : 48 ≤ c.toNat := hlow
  have hhigh' : c.toNat ≤ 57 := hhigh
  rw [List.mem_range'_1]
  omega

/-- What holds of the ten digits holds of every digit. -/
theorem of_isDigit {c : Char} (h : c.isDigit = true) :
    isNameStart c = false ∧ isNameContinue c = true ∧ c ≠ '\n' ∧ isSpace c = false := by
  have hall : ∀ n ∈ List.range' 48 10, isNameStart (Char.ofNat n) = false ∧
      isNameContinue (Char.ofNat n) = true ∧ Char.ofNat n ≠ '\n' ∧
        isSpace (Char.ofNat n) = false := by decide
  have hcode := hall c.toNat (toNat_mem_of_isDigit h)
  rwa [Char.ofNat_toNat] at hcode

/-- A character that a name starts with is neither a blank nor a digit. -/
theorem of_isNameStart {c : Char} (h : isNameStart c = true) :
    c ≠ '\n' ∧ isSpace c = false ∧ c.isDigit = false := by
  have hgoes := isNameContinue_of_isNameStart h
  refine ⟨ne_of_isNameContinue hgoes (by decide), ?_, ?_⟩
  · rw [Bool.eq_false_iff]
    intro hspace
    have hblank := isBlank_of_isSpace hspace
    rw [isBlank_of_isNameContinue hgoes] at hblank
    exact absurd hblank (by decide)
  · rw [Bool.eq_false_iff]
    intro hdigit
    have hnot := (of_isDigit hdigit).1
    rw [h] at hnot
    exact absurd hnot (by decide)

theorem takeWhile_bounded {word more : List Char} (hword : ∀ c ∈ word, isNameContinue c = true)
    (hmore : Bounded more = true) : (word ++ more).takeWhile isNameContinue = word := by
  rw [List.takeWhile_append_of_pos hword]
  cases more with
  | nil => rw [List.takeWhile_nil, List.append_nil]
  | cons c cs =>
      have hc : isNameContinue c = false := Bool.not_eq_true' _ ▸ hmore
      rw [List.takeWhile_cons, hc]
      exact List.append_nil word

/-- A word is scanned up to where it ends. -/
theorem scans_word {s e : Spot} {c : Char} {cs : List Char} {shape : Shape}
    (hstart : isNameStart c = true) (hword : ∀ d ∈ cs, isNameContinue d = true)
    (hshape : wordShape? (String.ofList (c :: cs)) = some shape) (h : Ahead s (c :: cs) e)
    (hmore : Bounded e.rest = true) : Scans s [⟨shape, s, e⟩] e := by
  obtain ⟨hline, hspace, -⟩ := of_isNameStart hstart
  refine scans_front h hline hspace ?_
  unfold front?
  dsimp only
  rw [if_pos hstart, takeWhile_bounded hword hmore, hshape]
  rfl

/-- The keywords are scanned as such. -/
theorem scans_keyword (k : Keyword) {s e : Spot} (h : Ahead s k.word.toList e)
    (hmore : Bounded e.rest = true) : Scans s [⟨.keyword k, s, e⟩] e := by
  cases k with
  | _ => exact scans_word (by decide) (List.all_eq_true.mp (by decide)) (by decide) h hmore

/-- A name that is no reserved word. -/
def isName (name : String) : Bool :=
  match name.toList with
  | [] => false
  | c :: cs => isNameStart c && cs.all isNameContinue && !reservedWords.contains name

theorem isName_iff (name : String) :
    isName name = true ↔ ∃ c cs, name.toList = c :: cs ∧ isNameStart c = true ∧
      (∀ d ∈ cs, isNameContinue d = true) ∧ name ∉ reservedWords := by
  unfold isName
  split
  · rename_i h
    simp [h]
  · rename_i c cs h
    simp [h, and_assoc]

theorem isNameContinue_of_isName {name : String} (h : isName name = true) {c : Char}
    (hc : c ∈ name.toList) : isNameContinue c = true := by
  obtain ⟨d, ds, hlist, hstart, hword, -⟩ := (isName_iff name).mp h
  rw [hlist] at hc
  rcases List.mem_cons.mp hc with rfl | hc
  · exact isNameContinue_of_isNameStart hstart
  · exact hword c hc

theorem lookup_words_eq_none {word : String} (h : word ∉ reservedWords) :
    Keyword.words.lookup word = none := by
  rw [List.lookup_eq_none_iff]
  intro entry hentry
  have hreserved : entry.1 ∈ reservedWords := by
    have hall : ∀ entry ∈ Keyword.words, entry.1 ∈ reservedWords := by decide
    exact hall entry hentry
  rw [bne_iff_ne]
  rintro rfl
  exact h hreserved

/-- Names are scanned as such. -/
theorem scans_name {name : String} (hname : isName name = true) {s e : Spot}
    (h : Ahead s name.toList e) (hmore : Bounded e.rest = true) : Scans s [⟨.name, s, e⟩] e := by
  obtain ⟨c, cs, hlist, hstart, hword, hreserved⟩ := (isName_iff name).mp hname
  rw [hlist] at h
  refine scans_word hstart hword ?_ h hmore
  rw [← hlist, String.ofList_toList, wordShape?, lookup_words_eq_none hreserved]
  simp [hreserved]

theorem front?_point {cs : List Char} (h : endsPoint cs = true) :
    front? '.' cs = some (.sign '.', 1) := by
  cases cs with
  | nil => rfl
  | cons d cs =>
      obtain ⟨hdigit, hdots⟩ := (endsPoint_cons d cs).mp h
      unfold front?
      rw [if_neg (by decide), if_neg (by decide)]
      split
      case h_3 heq =>
        obtain ⟨rfl, rfl⟩ := List.cons.inj heq
        exact absurd rfl (hdots _ rfl)
      case h_4 heq =>
        rw [← (List.cons.inj heq).1, if_neg (by rw [hdigit]; decide)]
      all_goals simp_all

/-- A point in front of a name is scanned as a sign. -/
theorem scans_point {s e : Spot} (h : Ahead s ['.'] e) {c : Char} {cs : List Char}
    (hrest : e.rest = c :: cs) (hstart : isNameStart c = true) : Scans s [⟨.sign '.', s, e⟩] e := by
  obtain ⟨-, -, hdigit⟩ := of_isNameStart hstart
  have hpoint : c ≠ '.' := ne_of_isNameContinue (isNameContinue_of_isNameStart hstart) (by decide)
  refine scans_front h (by decide) (by decide) ?_
  rw [hrest]
  exact front?_point ((endsPoint_cons c cs).mpr ⟨hdigit, fun _ hc => absurd hc hpoint⟩)

theorem scans_dots {s e : Spot} (h : Ahead s ['.', '.', '.'] e) : Scans s [⟨.dots, s, e⟩] e :=
  scans_front h (by decide) (by decide) rfl

/-! ## §E Numbers -/

/-- Only zero is written with a zero in front. -/
theorem toDigits_zero_cons {n : Nat} {cs : List Char} (h : Nat.toDigits 10 n = '0' :: cs) :
    cs = [] := by
  induction n using Nat.strongRecOn generalizing cs with
  | ind n ih =>
      rw [Nat.toDigits_eq_if (by decide)] at h
      split at h
      · exact (List.cons.inj h).2.symm
      · rename_i hle
        cases hhead : Nat.toDigits 10 (n / 10) with
        | nil => exact absurd hhead Nat.toDigits_ne_nil
        | cons d ds =>
            rw [hhead, List.cons_append] at h
            obtain ⟨rfl, -⟩ := List.cons.inj h
            -- the digits in front would be those of zero
            have hzero := @Nat.ofDigitChars_ten_toDigits (n / 10)
            rw [hhead, ih (n / 10) (by omega) hhead] at hzero
            have hdigits : Nat.ofDigitChars 10 ['0'] 0 = 0 := by decide
            omega

theorem takeWhile_isDigit {digits more : List Char} (hdigits : ∀ c ∈ digits, c.isDigit = true)
    (hmore : endsNumber more = true) :
    (digits ++ more).takeWhile Char.isDigit = digits ∧
      (digits ++ more).dropWhile Char.isDigit = more := by
  have hmore' : more.takeWhile Char.isDigit = [] ∧ more.dropWhile Char.isDigit = more := by
    cases more with
    | nil => exact ⟨rfl, rfl⟩
    | cons c cs =>
        have hc : c.isDigit = false := by
          rw [Bool.eq_false_iff]
          intro hdigit
          rw [endsNumber, (of_isDigit hdigit).2.1] at hmore
          cases hmore
        rw [List.takeWhile_cons, List.dropWhile_cons, hc]
        exact ⟨rfl, rfl⟩
  rw [List.takeWhile_append_of_pos hdigits, List.dropWhile_append_of_pos hdigits, hmore'.1,
    hmore'.2]
  exact ⟨List.append_nil digits, rfl⟩

/-- Numbers are scanned up to where they end. -/
theorem scans_number (n : Nat) {s e : Spot} (h : Ahead s (Nat.toDigits 10 n) e)
    (hmore : endsNumber e.rest = true) : Scans s [⟨.number, s, e⟩] e := by
  cases hdigits : Nat.toDigits 10 n with
  | nil => exact absurd hdigits Nat.toDigits_ne_nil
  | cons c cs =>
      have hall : ∀ d ∈ c :: cs, d.isDigit = true := by
        intro d hd
        rw [← hdigits] at hd
        exact Nat.isDigit_of_mem_toDigits (by decide) (by decide) hd
      have hc := hall c List.mem_cons_self
      obtain ⟨htake, hdrop⟩ :=
        takeWhile_isDigit (fun d hd => hall d (List.mem_cons_of_mem _ hd)) hmore
      have hlead : (c != '0' || (c :: cs).length == 1) = true := by
        by_cases hzero : c = '0'
        · subst hzero
          rw [toDigits_zero_cons hdigits]
          rfl
        · rw [bne_iff_ne.mpr hzero, Bool.true_or]
      rw [hdigits] at h
      obtain ⟨hstart, -, hline, hspace⟩ := of_isDigit hc
      refine scans_front h hline hspace ?_
      unfold front?
      dsimp only
      rw [if_neg (by rw [hstart]; decide), if_pos hc, htake, hdrop, hmore, hlead]
      rfl

end RollCall.Source.Plain
