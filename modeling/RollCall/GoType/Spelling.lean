import RollCall.GoType.Basic

/-!
# RollCall.GoType.Spelling — the canonical spelling of a type

The spelling is the key under which an example value is registered. It is valid Go wherever the
texts of its function and uncovered types are.
-/

namespace RollCall.GoType

mutual

/-- The canonical spelling, as characters. -/
def spell : GoType → List Char
  | .named none name => name.toList
  | .named (some package) name => package.toList ++ '.' :: name.toList
  | .pointer elem => '*' :: elem.spell
  | .slice elem => '[' :: ']' :: elem.spell
  | .array none elem => '[' :: '.' :: '.' :: '.' :: ']' :: elem.spell
  | .array (some n) elem => '[' :: Nat.toDigits 10 n ++ ']' :: elem.spell
  | .chan elem => 'c' :: 'h' :: 'a' :: 'n' :: ' ' :: elem.spell
  | .map key value => 'm' :: 'a' :: 'p' :: '[' :: key.spell ++ ']' :: value.spell
  | .struct [] => "struct \x7b\x7d".toList
  | .struct (f :: fs) => "struct \x7b".toList ++ ' ' :: spellField f ++ spellFields fs
  | .interface => "interface \x7b\x7d".toList
  | .func text => text.toList
  | .other text => text.toList

/-- A field: its name and type, or its type alone where it is embedded. -/
def spellField : Field GoType → List Char
  | ⟨name, type, embedded⟩ => if embedded then type.spell else name.toList ++ ' ' :: type.spell

/-- The fields after the first one, and the brace that closes the struct. -/
def spellFields : List (Field GoType) → List Char
  | [] => [' ', '}']
  | f :: fs => ';' :: ' ' :: spellField f ++ spellFields fs

end

/-- The canonical spelling. -/
def spelling (t : GoType) : String := String.ofList t.spell

end RollCall.GoType
