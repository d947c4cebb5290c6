import RollCall.Proofs.Source.RemarkedReading
import RollCall.Proofs.Source.Scan
import RollCall.Source.Reading

/-!
# RollCall.Proofs.Source.RemarkedScan — a comment between two tokens

A block comment is put into a text, at a place that is inside of no token. In front of the place the
same tokens are cut off as before, since no token can go on with a slash; then comes the comment,
and behind it the text goes on as it did. The only token that would go on is a comment to the end of
its line, so the place must not be at the end of such a comment.
-/

namespace RollCall.Source.Plain

open RollCall.Text (Spot isNameStart isNameContinue)

/-! ## §A Tokens in front of a slash -/

section Front

variable {near back more : List Char} {c : Char}

theorem takeWhile_before {p : Char → Bool}
    (h : ((near ++ back).takeWhile p).length ≤ near.length) (hp : p '/' = false) :
    (near ++ '/' :: more).takeWhile p = (near ++ back).takeWhile p := by
  rw [List.takeWhile_append] at h
  rw [List.takeWhile_append, List.takeWhile_append, List.takeWhile_cons, hp]
  split
  · rename_i hall
    rw [if_pos hall, List.length_append] at h
    have hnil : back.takeWhile p = [] := List.eq_nil_of_length_eq_zero (by omega)
    rw [hnil]
    rfl
  · rfl

theorem takeWhile_within {p : Char → Bool}
    (h : ((near ++ back).takeWhile p).length < near.length) (more : List Char) :
    (near ++ more).takeWhile p = (near ++ back).takeWhile p := by
  rw [List.takeWhile_append] at h
  rw [List.takeWhile_append, List.takeWhile_append]
  split
  · rename_i hall
    rw [if_pos hall, List.length_append] at h
    omega
  · rfl

theorem endsNumber_before (h : endsNumber ((near ++ back).dropWhile Char.isDigit) = true) :
    endsNumber ((near ++ '/' :: more).dropWhile Char.isDigit) = true := by
  rw [List.dropWhile_append] at h
  rw [List.dropWhile_append]
  cases hdrop : near.dropWhile Char.isDigit with
  | nil => rfl
  | cons d ds =>
      rw [hdrop] at h
      exact h

theorem closedAt?_cons {a b : Char} (h : ¬(a = '*' ∧ b = '/')) (cs : List Char) :
    closedAt? (a :: b :: cs) = (closedAt? (b :: cs)).map (· + 1) := by
  rw [closedAt?]
  rintro _ rfl heq
  exact h ⟨rfl, (List.cons.inj heq).1⟩

theorem two_le_of_closedAt? {cs : List Char} {n : Nat} (h : closedAt? cs = some n) : 2 ≤ n := by
  fun_induction closedAt? cs generalizing n with
  | case1 => exact Nat.le_of_eq (Option.some.inj h)
  | case2 c cs _ ih =>
      obtain ⟨k, hk, rfl⟩ := Option.map_eq_some_iff.mp h
      exact Nat.le_succ_of_le (ih hk)
  | case3 => cases h

/-- A comment that is closed in front of a place stays closed there. -/
theorem closedAt?_before {n : Nat} (h : closedAt? (near ++ back) = some n) (hn : n ≤ near.length)
    (more : List Char) : closedAt? (near ++ more) = some n := by
  have htwo := two_le_of_closedAt? h
  induction near generalizing n with
  | nil => exact absurd (Nat.le_trans htwo hn) (by decide)
  | cons a near ih =>
      cases near with
      | nil => exact absurd (Nat.le_trans htwo hn) (by rw [List.length_singleton]; decide)
      | cons b near =>
          by_cases hclose : a = '*' ∧ b = '/'
          · obtain ⟨rfl, rfl⟩ := hclose
            exact h
          · have hsplit := closedAt?_cons hclose (near ++ back)
            obtain ⟨k, hk, rfl⟩ := Option.map_eq_some_iff.mp (hsplit.symm.trans h)
            have hrest := ih hk (Nat.le_of_succ_le_succ hn) (two_le_of_closedAt? hk)
            rw [List.cons_append, List.cons_append, closedAt?_cons hclose, ← List.cons_append,
              hrest]
            rfl

theorem front?_sign {cs : List Char} (hsign : c ∈ signs)
    (hpoint : c = '.' → endsPoint cs = true) : front? c cs = some (.sign c, 1) := by
  by_cases hc : c = '.'
  · rw [hc]
    exact front?_point (hpoint hc)
  · simp only [signs, List.mem_cons, List.not_mem_nil, or_false] at hsign
    rcases hsign with rfl | rfl | rfl | rfl | rfl | rfl | rfl | rfl | rfl | rfl | rfl
    case inr.inr.inr.inr.inr.inr.inr.inl => exact absurd rfl hc
    all_goals rfl

theorem endsPoint_before (h : endsPoint (near ++ back) = true) :
    endsPoint (near ++ '/' :: more) = true := by
  cases near with
  | nil => rfl
  | cons d near =>
      rw [List.cons_append, endsPoint_cons] at h ⊢
      refine ⟨h.1, fun rest hd hrest => ?_⟩
      cases near with
      | nil => exact absurd (List.cons.inj hrest).1 (by decide)
      | cons e near =>
          rw [List.cons_append] at h hrest
          rw [(List.cons.inj hrest).1] at h
          exact h.2 _ hd rfl

/-- A token in front of a place stays as it is when a slash comes behind it, unless it is a comment
to the end of its line. -/
theorem front?_before {shape : Shape} {n : Nat} (h : front? c (near ++ back) = some (shape, n))
    (hn : n ≤ near.length + 1) (hline : (c :: near).take 2 = ['/', '/'] → n ≤ near.length)
    (more : List Char) : front? c (near ++ '/' :: more) = some (shape, n) := by
  rcases front?_cases h with ⟨hstart, rfl, hshape⟩ | ⟨hstart, hdigit, rfl, rfl, hends, hzero⟩ |
    ⟨rest, rfl, hrest, rfl, rfl⟩ | ⟨rest, k, rfl, hrest, rfl, hk, rfl⟩ |
    ⟨rest, rfl, hrest, rfl, rfl⟩ | ⟨hsign, hpoint, rfl, rfl⟩
  · -- a word
    unfold front?
    dsimp only
    rw [if_pos hstart, takeWhile_before (Nat.le_of_succ_le_succ hn) (by decide), hshape]
    rfl
  · -- a number
    unfold front?
    dsimp only
    rw [if_neg (by rw [hstart]; decide), if_pos hdigit,
      takeWhile_before (Nat.le_of_succ_le_succ hn) (by decide), endsNumber_before hends,
      Bool.true_and]
    exact if_pos hzero
  · -- a comment to the end of its line
    cases near with
    | nil =>
        rw [List.length_nil] at hn
        omega
    | cons d near =>
        rw [List.cons_append] at hrest
        obtain ⟨rfl, rfl⟩ := List.cons.inj hrest
        have hshort := hline rfl
        rw [List.length_cons] at hshort
        have hwithin : ((near ++ back).takeWhile (· != '\n')).length < near.length := by omega
        rw [← takeWhile_within hwithin ('/' :: more)]
        rfl
  · -- a block comment
    cases near with
    | nil =>
        rw [List.length_nil] at hn
        omega
    | cons d near =>
        rw [List.cons_append] at hrest
        obtain ⟨rfl, rfl⟩ := List.cons.inj hrest
        rw [List.length_cons] at hn
        have hclosed := closedAt?_before hk (by omega) ('/' :: more)
        exact congrArg (Option.map fun n => (Shape.remark, 2 + n)) hclosed
  · -- dots
    cases near with
    | nil => exact absurd hn (by decide)
    | cons d near =>
        cases near with
        | nil => exact absurd hn (by rw [List.length_singleton]; decide)
        | cons e near =>
            rw [List.cons_append, List.cons_append] at hrest
            obtain ⟨rfl, htail⟩ := List.cons.inj hrest
            obtain ⟨rfl, -⟩ := List.cons.inj htail
            rfl
  · exact front?_sign hsign fun hc => endsPoint_before (hpoint hc)

theorem closedAt?_le {cs : List Char} {n : Nat} (h : closedAt? cs = some n) : n ≤ cs.length := by
  fun_induction closedAt? cs generalizing n with
  | case1 cs =>
      rw [← Option.some.inj h, List.length_cons, List.length_cons]
      omega
  | case2 c cs _ ih =>
      obtain ⟨k, hk, rfl⟩ := Option.map_eq_some_iff.mp h
      exact Nat.succ_le_succ (ih hk)
  | case3 => cases h

/-- A token is not longer than the text. -/
theorem front?_le {cs : List Char} {shape : Shape} {n : Nat} (h : front? c cs = some (shape, n)) :
    n ≤ cs.length + 1 := by
  rcases front?_cases h with ⟨-, rfl, -⟩ | ⟨-, -, -, rfl, -⟩ | ⟨rest, -, rfl, -, rfl⟩ |
    ⟨rest, k, -, rfl, -, hk, rfl⟩ | ⟨rest, -, rfl, -, rfl⟩ | ⟨-, -, -, rfl⟩
  · exact Nat.succ_le_succ (List.takeWhile_prefix _).length_le
  · exact Nat.succ_le_succ (List.takeWhile_prefix _).length_le
  · have hrest := (List.takeWhile_prefix (l := rest) (· != '\n')).length_le
    rw [List.length_cons]
    omega
  · have hrest := closedAt?_le hk
    rw [List.length_cons]
    omega
  · simp only [List.length_cons]
    omega
  · omega

end Front

/-! ## §B Places in front of and behind a comment -/

/-- The places in front of a comment, as many characters before it as `near` has. -/
structure Before (k : Nat) (remark back near : List Char) (s s' : Spot) : Prop where
  place : s.index + near.length = k
  index : s'.index = s.index
  rest : s.rest = near ++ back
  remarked : s'.rest = near ++ (remark ++ back)

/-- The places behind a comment of the given length. -/
structure Beyond (k n : Nat) (s s' : Spot) : Prop where
  place : k ≤ s.index
  index : s'.index = s.index + n
  rest : s'.rest = s.rest

/-- How places move when a comment is put in at a place, with the given text behind it. What starts
at the place comes behind the comment, what stops there stays in front of it. -/
def insertion (k : Nat) (remark back : List Char) : Move where
  begins s s' := (∃ near, near ≠ [] ∧ Before k remark back near s s') ∨ Beyond k remark.length s s'
  ends s s' := s.index ≤ k ∧ s'.index = s.index ∨ k < s.index ∧ s'.index = s.index + remark.length

section Insertion

variable {k n : Nat} {remark back near : List Char} {s s' e e' : Spot}

theorem Before.skip (h : Before k remark back near s s') {j : Nat} (hj : j ≤ near.length) :
    Before k remark back (near.drop j) (s.skip j) (s'.skip j) := by
  have hlength : j ≤ s.rest.length := by
    rw [h.rest, List.length_append]
    omega
  have hlength' : j ≤ s'.rest.length := by
    rw [h.remarked, List.length_append]
    omega
  have hplace := h.place
  refine ⟨?_, ?_, ?_, ?_⟩
  · rw [Spot.index_skip hlength, List.length_drop]
    omega
  · rw [Spot.index_skip hlength, Spot.index_skip hlength', h.index]
  · rw [Spot.rest_skip, h.rest, List.drop_append_of_le_length hj]
  · rw [Spot.rest_skip, h.remarked, List.drop_append_of_le_length hj]

theorem Beyond.skip (h : Beyond k n s s') {j : Nat} (hj : j ≤ s.rest.length) :
    Beyond k n (s.skip j) (s'.skip j) := by
  have hplace := h.place
  refine ⟨?_, ?_, ?_⟩
  · rw [Spot.index_skip hj]
    omega
  · rw [Spot.index_skip hj, Spot.index_skip (h.rest ▸ hj), h.index]
    omega
  · rw [Spot.rest_skip, Spot.rest_skip, h.rest]

/-- What does not have the place inside of it keeps its text. -/
theorem sameText_of_spots (h : (insertion k remark back).spots s e s' e') :
    SameText k s e s' e' := by
  obtain ⟨hbegins, hends⟩ := h
  intro houtside
  rw [Spot.textTo, Spot.textTo]
  rcases hbegins with ⟨near, hnear, hbefore⟩ | hbeyond
  · have hplace := hbefore.place
    have hpos := List.length_pos_iff.mpr hnear
    rcases hends with ⟨hle, hindex⟩ | ⟨hlt, -⟩
    · have hshort : e.index - s.index ≤ near.length := by omega
      rw [hindex, hbefore.index, hbefore.rest, hbefore.remarked,
        List.take_append_of_le_length hshort, List.take_append_of_le_length hshort]
    · exact absurd ⟨by omega, hlt⟩ houtside
  · have hplace := hbeyond.place
    have hlength : e'.index - s'.index = e.index - s.index := by
      have hindex := hbeyond.index
      rcases hends with ⟨hle, hstop⟩ | ⟨hlt, hstop⟩ <;> omega
    rw [hlength, hbeyond.rest]

/-- The place behind `i` characters of a text, in the text with a comment put in behind `front`. -/
def spotIn (front remark back : List Char) (i : Nat) : Spot :=
  (Spot.start (front ++ (remark ++ back))).skip (if i < front.length then i else i + remark.length)

/-- What starts and stops at two places of a text keeps its text, unless a comment is put in between
these places or right where it stops. -/
theorem sameText_spotIn (front remark back : List Char) {i j : Nat} (hij : i ≤ j)
    (hj : j ≤ (front ++ back).length) (hstop : j ≠ front.length) :
    SameText front.length (spotIn front [] back i) (spotIn front [] back j)
      (spotIn front remark back i) (spotIn front remark back j) := by
  have hindex : ∀ (r : List Char) (n : Nat), n ≤ (front ++ back).length →
      (spotIn front r back n).index = if n < front.length then n else n + r.length := by
    intro r n hn
    rw [List.length_append] at hn
    have hskip : (if n < front.length then n else n + r.length) ≤
        (Spot.start (front ++ (r ++ back))).rest.length := by
      show _ ≤ (front ++ (r ++ back)).length
      rw [List.length_append, List.length_append]
      split <;> omega
    rw [spotIn, Spot.index_skip hskip]
    exact Nat.zero_add _
  have hsame : ∀ {s e s' e' : Spot}, (insertion front.length remark back).spots s e s' e' →
      SameText front.length s e s' e' := sameText_of_spots
  refine hsame ⟨?_, ?_⟩
  · have hi : i ≤ (front ++ back).length := Nat.le_trans hij hj
    by_cases hfront : i < front.length
    · have hstart : Before front.length remark back front (Spot.start (front ++ back))
          (Spot.start (front ++ (remark ++ back))) := ⟨Nat.zero_add _, rfl, rfl, rfl⟩
      have hbefore := hstart.skip (Nat.le_of_lt hfront)
      rw [spotIn, spotIn, if_pos hfront, if_pos hfront]
      refine .inl ⟨front.drop i, ?_, hbefore⟩
      rw [Ne, List.drop_eq_nil_iff]
      omega
    · have hfirst := hindex [] i hi
      have hsecond := hindex remark i hi
      rw [if_neg hfront] at hfirst hsecond
      have hrest : ∀ r : List Char, (spotIn front r back i).rest = back.drop (i - front.length) := by
        intro r
        rw [spotIn, if_neg hfront, Spot.rest_skip]
        show (front ++ (r ++ back)).drop (i + r.length) = _
        have hlength : i + r.length - front.length - r.length = i - front.length := by omega
        rw [List.drop_append, List.drop_append, List.drop_eq_nil_of_le (by omega),
          List.drop_eq_nil_of_le (by omega), List.nil_append, List.nil_append, hlength]
      refine .inr ⟨?_, ?_, (hrest remark).trans (hrest []).symm⟩
      · omega
      · rw [hfirst, hsecond, List.length_nil]
        rfl
  · have hfirst := hindex [] j hj
    have hsecond := hindex remark j hj
    rw [List.length_nil] at hfirst
    show _ ∨ _
    rw [hfirst, hsecond]
    split <;> omega

end Insertion

/-! ## §C Scanning with a comment put in -/

/-- Whether a text is one block comment. -/
def isBlockRemark : List Char → Bool
  | '/' :: '*' :: rest => closedAt? rest == some rest.length
  | _ => false

theorem isBlockRemark_iff (text : List Char) :
    isBlockRemark text = true ↔
      ∃ rest, text = '/' :: '*' :: rest ∧ closedAt? rest = some rest.length := by
  unfold isBlockRemark
  split
  · rename_i rest
    rw [beq_iff_eq]
    constructor
    · exact fun h => ⟨rest, rfl, h⟩
    · rintro ⟨rest', heq, h⟩
      cases heq
      exact h
  · rename_i hother
    constructor
    · exact fun h => absurd h Bool.false_ne_true
    · rintro ⟨rest, rfl, -⟩
      exact absurd rfl (hother rest)

theorem closedAt?_length {cs : List Char} (h : closedAt? cs = some cs.length) :
    ∃ body, cs = body ++ ['*', '/'] := by
  fun_induction closedAt? cs with
  | case1 cs =>
      have hlength := Option.some.inj h
      rw [List.length_cons, List.length_cons] at hlength
      rw [List.eq_nil_of_length_eq_zero (l := cs) (by omega)]
      exact ⟨[], rfl⟩
  | case2 c cs _ ih =>
      obtain ⟨k, hk, hlength⟩ := Option.map_eq_some_iff.mp h
      rw [List.length_cons] at hlength
      obtain ⟨body, rfl⟩ := ih (by rw [hk]; congr 1; omega)
      exact ⟨c :: body, rfl⟩
  | case3 => cases h

/-- A block comment ends with a slash. -/
theorem isBlockRemark_end {text : List Char} (h : isBlockRemark text = true) :
    ∃ body, text = body ++ ['/'] := by
  obtain ⟨rest, rfl, hclosed⟩ := (isBlockRemark_iff text).mp h
  obtain ⟨body, rfl⟩ := closedAt?_length hclosed
  exact ⟨'/' :: '*' :: body ++ ['*'], by simp⟩

/-- A block comment is scanned as one token, whatever comes behind it. -/
theorem scans_blockRemark {text : List Char} (htext : isBlockRemark text = true) {s e : Spot}
    (h : Spot.Ahead s text e) : Scans s [⟨.remark, s, e⟩] e := by
  obtain ⟨rest, rfl, hclosed⟩ := (isBlockRemark_iff text).mp htext
  refine scans_front h (by decide) (by decide) ?_
  have hstill : closedAt? (rest ++ e.rest) = some rest.length := by
    rw [← List.append_nil rest] at hclosed
    exact closedAt?_before (hclosed.trans (by rw [List.append_nil])) (Nat.le_refl _) e.rest
  have hfront : front? '/' ('*' :: (rest ++ e.rest)) =
      (closedAt? (rest ++ e.rest)).map fun n => (Shape.remark, 2 + n) := rfl
  rw [List.cons_append, hfront, hstill, Option.map_some, List.length_cons, List.length_cons,
    Nat.add_comm 2]

/-- Whether a comment at a place leaves a token as it is: the place is not inside of the token, nor
at the end of a comment that goes on to the end of its line. -/
def Token.admits (k : Nat) (t : Token) : Bool :=
  decide (t.stop.index < k) || decide (k ≤ t.start.index) ||
    (t.stop.index == k && t.start.rest.take 2 != ['/', '/'])

section Scanning

variable {k : Nat} {remark back near : List Char} {s s' e : Spot} {ts : List Token}

theorem moved_beyond (h : Beyond k remark.length s s') {j : Nat} (hpos : 0 < j)
    (hj : j ≤ s.rest.length) (shape : Shape) :
    Moved (insertion k remark back) ⟨shape, s, s.skip j⟩ ⟨shape, s', s'.skip j⟩ := by
  have hstop := h.skip hj
  have hplace := h.place
  have hindex := Spot.index_skip hj
  exact ⟨rfl, .inr h, .inr ⟨by dsimp only; omega, hstop.index⟩⟩

theorem moved_before (h : Before k remark back near s s') (hnear : near ≠ []) {j : Nat}
    (hj : j ≤ near.length) (shape : Shape) :
    Moved (insertion k remark back) ⟨shape, s, s.skip j⟩ ⟨shape, s', s'.skip j⟩ := by
  have hstop := h.skip hj
  have hplace := hstop.place
  exact ⟨rfl, .inl ⟨near, hnear, h⟩, .inl ⟨by dsimp only; omega, hstop.index⟩⟩

/-- Behind the comment everything is scanned as before. -/
theorem scans_beyond (back : List Char) (h : Scans s ts e) (hs : Beyond k remark.length s s') :
    ∃ ts' e', Scans s' ts' e' ∧ Beyond k remark.length e e' ∧
      Grown (insertion k remark back) ts ts' := by
  induction h generalizing s' with
  | done s => exact ⟨[], s', .done s', hs, .nil⟩
  | @blank s e c cs ts hrest hline hspace _ ih =>
      have hone : 1 ≤ s.rest.length := by rw [hrest, List.length_cons]; omega
      obtain ⟨ts', e', hscans, he, hgrown⟩ := ih (hs.skip hone)
      exact ⟨ts', e', .blank (hs.rest.trans hrest) hline hspace hscans, he, hgrown⟩
  | @line s e cs ts hrest _ ih =>
      have hone : 1 ≤ s.rest.length := by rw [hrest, List.length_cons]; omega
      obtain ⟨ts', e', hscans, he, hgrown⟩ := ih (hs.skip hone)
      exact ⟨_, e', .line (hs.rest.trans hrest) hscans, he,
        .cons (moved_beyond hs Nat.one_pos hone .newline) hgrown⟩
  | @token s e c cs shape n ts hrest hline hspace hfront _ ih =>
      have hlength : n ≤ s.rest.length := by
        rw [hrest, List.length_cons]
        exact front?_le hfront
      obtain ⟨ts', e', hscans, he, hgrown⟩ := ih (hs.skip hlength)
      exact ⟨_, e', .token (hs.rest.trans hrest) hline hspace hfront hscans, he,
        .cons (moved_beyond hs (front?_pos hfront) hlength shape) hgrown⟩

/-- At its place the comment is scanned, and then everything as before. -/
theorem scans_at (hremark : isBlockRemark remark = true) (h : Scans s ts e)
    (hs : Before k remark back [] s s') :
    ∃ ts' e', Scans s' ts' e' ∧ Beyond k remark.length e e' ∧
      Grown (insertion k remark back) ts ts' := by
  obtain ⟨m, hahead, hm⟩ := Spot.ahead_of_rest (hs.remarked.trans (List.nil_append _))
  have hplace := hs.place
  have hlength : remark.length ≤ s'.rest.length := by
    rw [hs.remarked, List.nil_append, List.length_append]
    omega
  have hbeyond : Beyond k remark.length s m := by
    refine ⟨?_, ?_, ?_⟩
    · rw [List.length_nil] at hplace
      omega
    · rw [hahead.2, Spot.index_skip hlength, hs.index]
    · rw [hm, hs.rest, List.nil_append]
  obtain ⟨ts', e', hscans, he, hgrown⟩ := scans_beyond back h hbeyond
  exact ⟨_, e', (scans_blockRemark hremark hahead).append hscans, he, .remark rfl hgrown⟩

/-- A token that admits the place and starts in front of it stops there at the latest. -/
theorem Before.length_le (hs : Before k remark back near s s') (hnear : near ≠ []) {j : Nat}
    (hj : j ≤ s.rest.length) {shape : Shape}
    (hadmits : (⟨shape, s, s.skip j⟩ : Token).admits k = true) :
    j ≤ near.length ∧ (j = near.length → s.rest.take 2 ≠ ['/', '/']) := by
  have hplace := hs.place
  have hpos := List.length_pos_iff.mpr hnear
  simp only [Token.admits, Bool.or_eq_true, Bool.and_eq_true, decide_eq_true_eq, beq_iff_eq,
    bne_iff_ne, Spot.index_skip hj] at hadmits
  refine ⟨by omega, fun hall => ?_⟩
  rcases hadmits with (hlt | hle) | ⟨-, hother⟩
  · omega
  · omega
  · exact hother

/-- In front of the comment the same tokens are cut off. -/
theorem scans_before (hremark : isBlockRemark remark = true) (h : Scans s ts e)
    (hs : Before k remark back near s s') (hk : k ≤ e.index)
    (hadmits : ∀ t ∈ ts, t.admits k = true) :
    ∃ ts' e', Scans s' ts' e' ∧ Beyond k remark.length e e' ∧
      Grown (insertion k remark back) ts ts' := by
  -- where `near` is used up, the place is reached, and `scans_at` takes over
  induction h generalizing s' near with
  | done s =>
      cases near with
      | nil => exact scans_at hremark (.done s) hs
      | cons d near =>
          have hplace := hs.place
          rw [List.length_cons] at hplace
          omega
  | @blank s e c cs ts hrest hline hspace hscan ih =>
      cases near with
      | nil => exact scans_at hremark (.blank hrest hline hspace hscan) hs
      | cons d near =>
          obtain ⟨rfl, rfl⟩ := List.cons.inj (hs.rest.symm.trans hrest)
          obtain ⟨ts', e', hscans, he, hgrown⟩ :=
            ih (hs.skip (Nat.succ_le_succ (Nat.zero_le _))) hk hadmits
          exact ⟨ts', e', .blank hs.remarked hline hspace hscans, he, hgrown⟩
  | @line s e cs ts hrest hscan ih =>
      cases near with
      | nil => exact scans_at hremark (.line hrest hscan) hs
      | cons d near =>
          obtain ⟨rfl, rfl⟩ := List.cons.inj (hs.rest.symm.trans hrest)
          have hone : 1 ≤ ('\n' :: near).length := Nat.succ_le_succ (Nat.zero_le _)
          obtain ⟨ts', e', hscans, he, hgrown⟩ :=
            ih (hs.skip hone) hk fun t ht => hadmits t (List.mem_cons_of_mem _ ht)
          exact ⟨_, e', .line hs.remarked hscans, he,
            .cons (moved_before hs (List.cons_ne_nil _ _) hone .newline) hgrown⟩
  | @token s e c cs shape n ts hrest hline hspace hfront hscan ih =>
      cases near with
      | nil => exact scans_at hremark (.token hrest hline hspace hfront hscan) hs
      | cons d near =>
          obtain ⟨rfl, rfl⟩ := List.cons.inj (hs.rest.symm.trans hrest)
          have hlength : n ≤ s.rest.length := by
            rw [hrest, List.length_cons]
            exact front?_le hfront
          obtain ⟨hn, hother⟩ :=
            hs.length_le (List.cons_ne_nil _ _) hlength (hadmits _ List.mem_cons_self)
          obtain ⟨ts', e', hscans, he, hgrown⟩ :=
            ih (hs.skip hn) hk fun t ht => hadmits t (List.mem_cons_of_mem _ ht)
          obtain ⟨body, rfl, -⟩ := (isBlockRemark_iff remark).mp hremark
          -- a comment to the end of its line stops in front of the place, not at it
          have hslashes : (d :: near).take 2 = ['/', '/'] → n ≤ near.length := by
            intro htake
            by_contra hlong
            have htwo : 2 ≤ (d :: near).length := by
              have hlength := congrArg List.length htake
              rw [List.length_take] at hlength
              exact hlength.symm.le.trans (Nat.min_le_right _ _)
            refine hother ?_ ?_
            · rw [List.length_cons] at hn ⊢
              omega
            · rw [hs.rest, List.take_append_of_le_length htwo, htake]
          have hstays := front?_before hfront hn hslashes ('*' :: body ++ back)
          exact ⟨_, e', .token hs.remarked hline hspace hstays hscans, he,
            .cons (moved_before hs (List.cons_ne_nil _ _) hn shape) hgrown⟩

theorem Scans.index_add (h : Scans s ts e) :
    e.index + e.rest.length = s.index + s.rest.length := by
  have hskip : ∀ {s : Spot} {j : Nat}, j ≤ s.rest.length →
      (s.skip j).index + (s.skip j).rest.length = s.index + s.rest.length := by
    intro s j hj
    rw [Spot.index_skip hj, Spot.rest_skip, List.length_drop]
    omega
  induction h with
  | done s => rfl
  | @blank s e c cs ts hrest _ _ _ ih =>
      exact ih.trans (hskip (j := 1) (by rw [hrest, List.length_cons]; omega))
  | @line s e cs ts hrest _ ih =>
      exact ih.trans (hskip (j := 1) (by rw [hrest, List.length_cons]; omega))
  | @token s e c cs shape n ts hrest _ _ hfront _ ih =>
      refine ih.trans (hskip ?_)
      rw [hrest, List.length_cons]
      exact front?_le hfront

/-- What `tokensFrom` gives is scanned to the end of the text. -/
theorem scans_of_tokensFrom {fuel : Nat} {us : List Token} (h : tokensFrom fuel s = some us) :
    ∃ ts e, Scans s ts e ∧ e.rest = [] ∧ us = ts ++ [⟨.finish, e, e⟩] := by
  induction fuel generalizing s us with
  | zero => cases h
  | succ fuel ih =>
      rw [tokensFrom] at h
      split at h
      · rename_i hrest
        cases h
        exact ⟨[], s, .done s, hrest, rfl⟩
      · rename_i c cs hrest
        split at h
        · rename_i hline
          obtain ⟨vs, hvs, rfl⟩ := Option.map_eq_some_iff.mp h
          obtain ⟨ts, e, hscans, hend, rfl⟩ := ih hvs
          rw [eq_of_beq hline] at hrest
          exact ⟨_, e, .line hrest hscans, hend, rfl⟩
        · rename_i hline
          have hline' : c ≠ '\n' := fun hc => hline (beq_iff_eq.mpr hc)
          split at h
          · rename_i hspace
            obtain ⟨ts, e, hscans, hend, rfl⟩ := ih h
            exact ⟨ts, e, .blank hrest hline' hspace hscans, hend, rfl⟩
          · rename_i hspace
            obtain ⟨⟨shape, n⟩, hfront, h⟩ := Option.bind_eq_some_iff.mp h
            obtain ⟨vs, hvs, rfl⟩ := Option.map_eq_some_iff.mp h
            obtain ⟨ts, e, hscans, hend, rfl⟩ := ih hvs
            have hsolid : isSpace c = false := Bool.eq_false_iff.mpr hspace
            exact ⟨_, e, .token hrest hline' hsolid hfront hscans, hend, rfl⟩

end Scanning

/-! ## §D Files with a comment put in -/

/-- Whether a comment at a place cuts no token in two. -/
def isBetween (k : Nat) (source : List Char) : Bool :=
  ((tokens? source).getD []).all (Token.admits k)

/-- Whether a file is plain, and a place is between two tokens of it. -/
def isPlace (k : Nat) (source : List Char) : Bool :=
  isBetween k source &&
    (file? source).any fun root => decide (root.start.index < k) && decide (k < root.stop.index)

section Files

variable {front remark back : List Char}

theorem Grown.append_one {m : Move} {ts ts' : List Token} {t t' : Token} (h : Grown m ts ts')
    (ht : Moved m t t') : Grown m (ts ++ [t]) (ts' ++ [t']) := by
  induction h with
  | nil => exact .cons ht .nil
  | cons hs _ ih => exact .cons hs ih
  | remark hs _ ih => exact .remark hs ih

/-- The tokens of a text end where the text ends. -/
theorem scans_of_tokens? {source : List Char} {ts : List Token} (h : tokens? source = some ts) :
    ∃ us e, Scans (.start source) us e ∧ e.rest = [] ∧ e.index = source.length ∧
      ts = us ++ [⟨.finish, e, e⟩] := by
  obtain ⟨us, e, hscans, hend, rfl⟩ := scans_of_tokensFrom h
  have hindex := hscans.index_add
  rw [hend, List.length_nil, Nat.add_zero, Spot.start, Nat.zero_add] at hindex
  exact ⟨us, e, hscans, hend, hindex, rfl⟩

theorem index_stop_file? {source : List Char} {root : Outline} (h : file? source = some root) :
    root.stop.index = source.length := by
  obtain ⟨ts, first, others, last, hts, -, hlast, rfl⟩ := (file?_eq_some_iff source root).mp h
  obtain ⟨us, e, -, -, hindex, rfl⟩ := scans_of_tokens? hts
  rw [List.getLast?_concat] at hlast
  cases hlast
  exact hindex

/-- The tokens of a text with a comment put in between two of them. -/
theorem tokens?_inserted (hremark : isBlockRemark remark = true) {ts : List Token}
    (hts : tokens? (front ++ back) = some ts) (hback : back ≠ [])
    (hbetween : isBetween front.length (front ++ back) = true) :
    ∃ ts', tokens? (front ++ (remark ++ back)) = some ts' ∧
      Grown (insertion front.length remark back) ts ts' := by
  rw [isBetween, hts, Option.getD_some, List.all_eq_true] at hbetween
  obtain ⟨us, e, hscans, hend, hindex, rfl⟩ := scans_of_tokens? hts
  have hpos := List.length_pos_iff.mpr hback
  rw [List.length_append] at hindex
  have hstart : Before front.length remark back front (.start (front ++ back))
      (.start (front ++ (remark ++ back))) := ⟨Nat.zero_add _, rfl, rfl, rfl⟩
  obtain ⟨us', e', hscans', hbeyond, hgrown⟩ := scans_before hremark hscans hstart (by omega)
    fun t ht => hbetween t (List.mem_append_left _ ht)
  refine ⟨_, tokens?_of_scans hscans' (hbeyond.rest.trans hend), hgrown.append_one ?_⟩
  exact ⟨rfl, .inr hbeyond, .inr ⟨by dsimp only; omega, hbeyond.index⟩⟩

/-- **A plain file with a comment put in between two tokens is a plain file with the same tree, but
for the comment.** -/
theorem file?_inserted (hremark : isBlockRemark remark = true) {root : Outline}
    (hfile : file? (front ++ back) = some root)
    (hbetween : isBetween front.length (front ++ back) = true)
    (hinside : root.start.index < front.length ∧ front.length < root.stop.index) :
    ∃ root', file? (front ++ (remark ++ back)) = some root' ∧
      Remarked (SameText front.length) root root' := by
  have hback : back ≠ [] := by
    rintro rfl
    rw [index_stop_file? hfile, List.append_nil] at hinside
    exact Nat.lt_irrefl _ hinside.2
  obtain ⟨ts, -, -, -, hts, -⟩ := (file?_eq_some_iff _ root).mp hfile
  obtain ⟨ts', hts', hgrown⟩ := tokens?_inserted hremark hts hback hbetween
  obtain ⟨root', hfile', hkind, hrole, hmissing, hthreaded⟩ := file?_grown hts hts' hgrown hfile
  refine ⟨root', hfile', ?_⟩
  cases root
  cases root'
  cases hkind
  cases hrole
  cases hmissing
  refine .node (fun houtside => absurd hinside houtside) (hthreaded.imp fun _ _ _ h => ?_)
  exact h.imp fun _ _ _ _ hspots => sameText_of_spots hspots

/-- The tree of a plain file with a comment put in. -/
theorem ofSource_inserted (hremark : isBlockRemark remark = true)
    (hplace : isPlace front.length (front ++ back) = true) :
    Remarked (SameText front.length) (.ofSource (front ++ back))
      (.ofSource (front ++ (remark ++ back))) := by
  rw [isPlace, Bool.and_eq_true] at hplace
  obtain ⟨hbetween, hinside⟩ := hplace
  cases hfile : file? (front ++ back) with
  | none =>
      rw [hfile] at hinside
      cases hinside
  | some root =>
      rw [hfile, Option.any_some, Bool.and_eq_true, decide_eq_true_eq, decide_eq_true_eq] at hinside
      obtain ⟨root', hfile', hroot⟩ := file?_inserted hremark hfile hbetween hinside
      rw [Outline.ofSource, Outline.ofSource, hfile, hfile']
      exact hroot

end Files

end RollCall.Source.Plain
