import RollCall.Text.Uppercase

/-!
# RollCall.MethodName — what a name says by its capitals

A name is exported when it starts with an upper case character. A method belongs to the group named
by what stands before the first upper case character after its first character; a method without one
belongs to the group with the empty name.
-/

namespace RollCall

/-- Whether a name is visible outside its package. -/
def isExported (name : String) : Bool :=
  match name.toList with
  | [] => false
  | c :: _ => Text.isUppercase c

/-- The part of a name in front of its second word, where words start at upper case characters. -/
def groupChars : List Char → List Char
  | [] => []
  | c :: cs =>
    if cs.any Text.isUppercase then c :: cs.takeWhile fun d => !Text.isUppercase d else []

/-- The group a method belongs to by its name. -/
def groupName (name : String) : String := String.ofList (groupChars name.toList)

end RollCall
