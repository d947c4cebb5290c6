import RollCall.Json.Basic

/-!
# RollCall.Example.Registry — known example values

A registry gives example values by the canonical spelling of their types.
-/

namespace RollCall

/-- Example values by the spelling of their type. -/
abbrev Registry := Dictionary Json

namespace Registry

/-- The value 42.5. -/
def sampleFloat : Binary64 := ⟨false, 85 * Nat.pow 2 46, -47⟩

/-- The types every registry starts from: a few basic types, permissions, byte strings in base 64,
and errors. -/
def seeded : Registry :=
  Dictionary.ofList
    [("auth.Permission", .str "write"), ("string", .str "string value"), ("uint64", .int 42),
     ("byte", .int 7), ("[]byte", .str "Ynl0ZSBhcnJheQ=="), ("bool", .bool true), ("int", .int 9),
     ("int64", .int 9), ("float64", .float sampleFloat), ("error", .obj [])]

end Registry

end RollCall
