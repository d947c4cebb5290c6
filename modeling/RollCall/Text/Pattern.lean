/-!
# RollCall.Text.Pattern — patterns of text and their longest match

A pattern is read one character at a time: `after c p` is what has to follow once `c` has been read.
`longest` gives the longest beginning of a text that fits a pattern. `reach` says how far a text can
be read at all before no text that starts so fits.
-/

namespace RollCall.Text

/-- A pattern of text. -/
inductive Pattern where
  /-- No text fits. -/
  | never
  /-- The empty text. -/
  | nothing
  /-- One character of a class. -/
  | one (test : Char → Bool)
  /-- One pattern and then another. -/
  | seq (first second : Pattern)
  /-- One pattern or another. -/
  | alt (first second : Pattern)
  /-- A pattern any number of times. -/
  | many (item : Pattern)

namespace Pattern

/-! ## §A Building patterns -/

/-- One pattern and then another, simplified. -/
def andThen : Pattern → Pattern → Pattern
  | .never, _ => .never
  | .nothing, q => q
  | p, q => .seq p q

/-- One pattern or another, simplified. -/
def orElse : Pattern → Pattern → Pattern
  | .never, q => q
  | p, .never => p
  | p, q => .alt p q

/-- A pattern or nothing. -/
def opt (p : Pattern) : Pattern := .alt p .nothing

/-- A pattern one or more times. -/
def oneOrMore (p : Pattern) : Pattern := .seq p (.many p)

/-- A given character. -/
def char (c : Char) : Pattern := .one (· == c)

/-- One of the characters of a text. -/
def among (set : String) : Pattern := .one fun c => set.toList.contains c

/-- Any character but those of a text. -/
def besides (set : String) : Pattern := .one fun c => !set.toList.contains c

/-- Patterns one after the other. -/
def sequence (ps : List Pattern) : Pattern := ps.foldr .seq .nothing

/-- One of several patterns. -/
def choice (ps : List Pattern) : Pattern := ps.foldr .alt .never

/-- A given text. -/
def text (t : String) : Pattern := sequence (t.toList.map char)

/-- A pattern a given number of times. -/
def times (n : Nat) (p : Pattern) : Pattern := sequence (List.replicate n p)

/-! ## §B Reading -/

/-- Whether the empty text fits. -/
def acceptsEmpty : Pattern → Bool
  | .never => false
  | .nothing => true
  | .one _ => false
  | .seq p q => p.acceptsEmpty && q.acceptsEmpty
  | .alt p q => p.acceptsEmpty || q.acceptsEmpty
  | .many _ => true

/-- Whether no text at all fits, as far as simplifying shows it. -/
def isNever : Pattern → Bool
  | .never => true
  | _ => false

/-- What has to follow a character. -/
def after (c : Char) : Pattern → Pattern
  | .never => .never
  | .nothing => .never
  | .one test => if test c then .nothing else .never
  | .seq p q =>
    let first := (p.after c).andThen q
    if p.acceptsEmpty then first.orElse (q.after c) else first
  | .alt p q => (p.after c).orElse (q.after c)
  | .many p => (p.after c).andThen (.many p)

/-- The length of the longest match, where `n` characters have been read and `best` is the longest
so far. -/
def longestFrom : Nat → Option Nat → Pattern → List Char → Option Nat
  | n, best, p, cs =>
    let best := if p.acceptsEmpty then some n else best
    match cs with
    | [] => best
    | c :: cs =>
      let p := p.after c
      if p.isNever then best else longestFrom (n + 1) best p cs

/-- The length of the longest beginning of a text that fits. -/
def longest (p : Pattern) (cs : List Char) : Option Nat := longestFrom 0 none p cs

/-- How many characters at the front of a text can be read. -/
def reach (p : Pattern) : List Char → Nat
  | [] => 0
  | c :: cs =>
    let p := p.after c
    if p.isNever then 0 else p.reach cs + 1

end Pattern

end RollCall.Text
