import RollCall.Text.Alphanumeric
import RollCall.Text.Blank
import RollCall.Text.Numeral

/-!
# RollCall.Log.Filter — which messages are shown

A filter is a list of rules between commas. A rule is a level, or the name of a channel with or
without a level after an equals sign; a channel without a level shows everything. A rule for a
channel holds for every channel whose name starts with it, and the longest name decides; of two
rules for one name the later one counts. A rule may ask in braces for a detail that a message has to
carry; such a rule decides before one for the same name that asks for none.

A rule may also name a scope in square brackets, or ask for the value of a detail. No message of
this program is written inside a scope, so such a rule concerns none.

Blanks around a rule are passed over when its parts are looked for, but the places of the parts are
then counted from the first blank on.
-/

namespace RollCall.Log

/-- How much is shown, from nothing to everything. -/
inductive Level where
  | off
  | error
  | warn
  | info
  | debug
  | trace
deriving DecidableEq, Repr

namespace Level

/-- The place of a level. -/
def rank : Level → Nat
  | .off => 0
  | .error => 1
  | .warn => 2
  | .info => 3
  | .debug => 4
  | .trace => 5

/-- The level of a number. -/
def ofNumber? : Nat → Option Level
  | 0 => some .off
  | 1 => some .error
  | 2 => some .warn
  | 3 => some .info
  | 4 => some .debug
  | 5 => some .trace
  | _ => none

/-- The level of a number, or of a name in any letter case. -/
def ofName? (name : List Char) : Option Level :=
  match (Text.wholeNumber? name).bind ofNumber? with
  | some level => some level
  | none =>
    match String.ofList (name.map Char.toLower) with
    | "off" => some .off
    | "error" => some .error
    | "warn" => some .warn
    | "info" => some .info
    | "debug" => some .debug
    | "trace" => some .trace
    | _ => none

end Level

/-- A rule for the channels that start with a name, or for all, and for the messages that carry all
of the details. -/
structure Rule where
  channel : Option (List Char)
  details : List (List Char)
  level : Level
deriving DecidableEq, Repr

/-- The rules of a filter, in order. -/
abbrev Filter := List Rule

namespace Filter

/-- The filter that shows one level of all channels. -/
def ofLevel (level : Level) : Filter := [⟨none, [], level⟩]

/-! ## §A Reading a rule -/

/-- How far a rule has been read. A number is the place where a part starts. -/
inductive Stage where
  | start
  | levelOrChannel (first : Nat)
  | scope (first : Nat)
  | detail (first : Nat)
  | details
  | channel
  | level (first : Nat)
deriving DecidableEq, Repr

/-- What has been read of a rule. -/
structure Draft where
  stage : Stage
  channel : Option (List Char)
  /-- The scope; one that is left out in front of a detail does not count. -/
  scope : Option (List Char)
  details : List (List Char)
deriving DecidableEq, Repr

/-- The characters of a text from one place up to another, both counted in bytes. -/
def slice : Nat → Nat → List Char → List Char
  | _, _, [] => []
  | first, last, c :: cs =>
    let n := c.utf8Size
    let rest := slice (first - n) (last - n) cs
    if first == 0 && 0 < last then c :: rest else rest

/-- A character that a rule can start with. -/
def startsRule (c : Char) : Bool := c == '-' || c == ':' || c == '_' || Text.isAlphanumeric c

/-- Takes up the character at a place of a rule with the given text. -/
def Draft.step (text : List Char) (d : Draft) (place : Nat) (c : Char) : Option Draft :=
  match d.stage with
  | .start =>
    if c == '[' then some { d with stage := .scope (place + 1) }
    else if startsRule c then some { d with stage := .levelOrChannel place }
    else none
  | .levelOrChannel first =>
    let channel := some (slice first place text)
    if c == '=' then some { d with stage := .level (place + 1), channel := channel }
    else if c == '[' then some { d with stage := .scope (place + 1), channel := channel }
    else some d
  | .scope first =>
    let name := slice first place text
    if c == ']' then some { d with stage := .channel, scope := some name }
    else if c == '{' then
      let scope := if name.isEmpty then none else some name
      some { d with stage := .detail (place + 1), scope := scope }
    else some d
  | .detail first =>
    let name := slice first place text
    if c == '}' then
      if name.isEmpty then none
      else some { d with stage := .details, details := d.details ++ [name] }
    else some d
  | .details => if c == ']' then some { d with stage := .channel } else none
  | .channel => if c == '=' then some { d with stage := .level (place + 1) } else none
  | .level _ => some d

/-- Takes up all characters of a rule, from a place on. -/
def Draft.steps (text : List Char) : Nat → Draft → List Char → Option Draft
  | _, d, [] => some d
  | place, d, c :: cs =>
    match d.step text place c with
    | none => none
    | some d => Draft.steps text (place + c.utf8Size) d cs

/-- The rule of a draft; `some none` is a rule that concerns no message. -/
def Draft.rule (text : List Char) (d : Draft) : Option (Option Rule) :=
  let size := (String.ofList text).utf8ByteSize
  let rest (first : Nat) : List Char := slice first size text
  let parts : Option (Option (List Char) × Level) :=
    match d.stage with
    | .levelOrChannel first =>
      match Level.ofName? (rest first) with
      | some level => some (none, level)
      | none => some (some (rest first), .trace)
    | .level first =>
      if (rest first).isEmpty then some (d.channel, .trace)
      else (Level.ofName? (rest first)).map fun level => (d.channel, level)
    | .channel => some (d.channel, .trace)
    | _ => none
  let applies := d.scope.isNone && d.details.all fun detail => !detail.contains '='
  parts.map fun (channel, level) => if applies then some ⟨channel, d.details, level⟩ else none

/-- A rule; `none` is no rule, and `some none` a rule that concerns no message. -/
def readRule (text : List Char) : Option (Option Rule) :=
  (Draft.steps text 0 ⟨.start, none, none, []⟩ (Text.trim text)).bind (Draft.rule text)

/-- The filter of a text. An empty one shows errors only. -/
def parse? (text : String) : Option Filter :=
  let parts := (Text.pieces (· == ',') text.toList).filter fun part => !part.isEmpty
  if parts.isEmpty then some (ofLevel .error)
  else (parts.mapM readRule).map fun rules => rules.filterMap id

/-! ## §B Deciding -/

/-- Whether a rule concerns a message on a channel with the given details. -/
def concerns (rule : Rule) (channel : List Char) (details : List String) : Bool :=
  (Text.afterLead? (rule.channel.getD []) channel).isSome &&
    rule.details.all fun name => details.contains (String.ofList name)

/-- Whether the second of two rules that concern a message decides before the first, or instead of
it: the longer channel, then more details, then the greater names of details. -/
def overrules (old new : Rule) : Bool :=
  let length (rule : Rule) : Nat := rule.channel.elim 0 (·.length + 1)
  if length old != length new then length old < length new
  else if old.details.length != new.details.length then old.details.length < new.details.length
  else !((new.details.map String.ofList) < (old.details.map String.ofList))

/-- The rule that decides about a message. -/
def decisive (filter : Filter) (channel : List Char) (details : List String) : Option Rule :=
  filter.foldl
    (fun best rule =>
      if !concerns rule channel details then best
      else
        match best with
        | none => some rule
        | some old => if overrules old rule then some rule else best)
    none

/-- Whether a message of a level with the given details is shown on a channel. -/
def shows (filter : Filter) (channel : String) (details : List String) (level : Level) : Bool :=
  match decisive filter channel.toList details with
  | some rule => level.rank ≤ rule.level.rank
  | none => false

end Filter

end RollCall.Log
