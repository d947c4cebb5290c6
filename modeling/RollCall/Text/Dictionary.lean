/-!
# RollCall.Text.Dictionary — values kept under names, in the order of the names

A dictionary is a list of entries whose names ascend strictly by code point. `set` is the only
operation that adds an entry; it keeps the order and replaces the value of a name that is there, so
the last value set under a name is the one that is found.
-/

namespace RollCall

/-- Entries by ascending name. -/
abbrev Dictionary (α : Type u) := List (String × α)

namespace Dictionary

variable {α : Type u} {β : Type v}

/-- The value under a name. -/
def get? (name : String) : Dictionary α → Option α
  | [] => none
  | (k, v) :: rest => if k = name then some v else get? name rest

/-- Puts a value under a name, in its place, instead of the value that was there. -/
def set (name : String) (value : α) : Dictionary α → Dictionary α
  | [] => [(name, value)]
  | (k, v) :: rest =>
    if name < k then (name, value) :: (k, v) :: rest
    else if k = name then (name, value) :: rest
    else (k, v) :: set name value rest

/-- The names, ascending. -/
def names (d : Dictionary α) : List String := d.map Prod.fst

/-- Whether a name has a value. -/
def has (name : String) (d : Dictionary α) : Bool := (get? name d).isSome

/-- Sets every entry in turn: of two with one name the later one stays. -/
def setAll (d : Dictionary α) (entries : List (String × α)) : Dictionary α :=
  entries.foldl (fun acc (k, v) => set k v acc) d

/-- The dictionary of a list of entries. -/
def ofList (entries : List (String × α)) : Dictionary α := setAll [] entries

/-- Changes every value. -/
def mapValues (f : α → β) (d : Dictionary α) : Dictionary β := d.map fun (k, v) => (k, f v)

end Dictionary

end RollCall
