import RollCall.Source.Outline
import RollCall.Text.Blank

/-!
# RollCall.Source.Fault — what is wrong with a source text

A fault is either text that does not fit, or a token that is missing. Text is quoted by its first
line, of which sixty characters at most are shown.
-/

namespace RollCall.Source

/-- A fault with its line. -/
inductive Fault where
  | unexpected (line : Nat) (text : List Char)
  | missing (line : Nat) (token : String)
deriving DecidableEq, Repr

namespace Fault

/-- The line. -/
def line : Fault → Nat
  | .unexpected line _ => line
  | .missing line _ => line

/-- The part of a text that is shown. -/
def snippet (text : List Char) : List Char :=
  Text.trim ((text.takeWhile (· != '\n')).take 60)

/-- The wording of a fault. -/
def message : Fault → String
  | .unexpected _ text => "syntax error near \x60" ++ String.ofList (snippet text) ++ "\x60"
  | .missing _ token => "missing \"" ++ token ++ "\""

mutual

/-- The faults of an outline in the order of the source. A fault inside another one does not
count. -/
def ofOutline : Outline → List Fault
  | .node kind _ isMissing start stop children =>
    if isMissing then [.missing start.line kind.nameOf]
    else if kind == .fault then [.unexpected start.line (start.textTo stop)]
    else ofOutlines children

/-- The faults of several outlines. -/
def ofOutlines : List Outline → List Fault
  | [] => []
  | o :: os => ofOutline o ++ ofOutlines os

end

end Fault

end RollCall.Source
