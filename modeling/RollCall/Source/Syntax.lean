import RollCall.Grammar.Table

/-!
# RollCall.Source.Syntax — the grammar of Go

The rules say how source files are put together, from declarations and statements down to tokens.
They are wider than the language: statements may stand outside of functions, declarations in any
order, and a clause may be missing. Names in rules are for the tree: a token that names a type is
told apart from one that names a package or a field.

A newline is a token only where something can end with it. A semicolon and the end of the text can
end the same things.
-/

namespace RollCall.Source

open RollCall.Grammar
open RollCall.Grammar.Rule

namespace Syntax

/-! ## §A Tokens and names -/

/-- A name. -/
def ident : Rule := .token "identifier"

/-- The name of a type. -/
def typeName : Rule := named "type_identifier" ident

/-- The name of a field or method. -/
def fieldName : Rule := named "field_identifier" ident

/-- The name of a package. -/
def packageName : Rule := named "package_identifier" ident

/-- A label. -/
def labelName : Rule := named "label_name" ident

/-- What ends a declaration or statement. -/
def ending : Rule := .alt ["\n", ";", "\x00"]

/-- Items, each but perhaps the last with an ending, between brackets. -/
def endedItems (run : String) (item : Rule) : Rule :=
  opt [.seq [item, runOpt run (.seq [ending, item]), opt [ending]]]

/-- A group of specifications in round brackets. -/
def group (run : String) (item : Rule) : Rule := .seq ["(", endedItems run item, ")"]

/-- One or more items with commas between them. -/
def commas (run : String) (item : Rule) : Rule := separated run "," item

/-- Items with commas between them, perhaps none, and perhaps a comma behind. -/
def looseCommas (run : String) (item : Rule) : Rule := opt [opt [commas run item], opt [","]]

/-- Names with commas between them. -/
def names : Rule := commas "_names" (role "name" ident)

/-- A type. -/
def type : Rule := .alt [.part "_type", .part "type in brackets"]

/-- An expression. -/
def expression : Rule := .part "_expression"

/-- Expressions with commas between them. -/
def expressions : Rule := .part "expression list"

/-- A string. -/
def stringLiteral : Rule := .alt [.part "raw string", .part "string"]

/-- A declaration that stands outside of functions only. -/
def topLevel : Rule :=
  .alt [.part "package clause", .part "function", .part "method", .part "import"]

/-- The result of a function. -/
def result : Rule := role "result" (opt [.alt [.part "parameters", .part "_type"]])

/-- The parameters of a function. -/
def parameters : Rule := role "parameters" (.part "parameters")

/-- Type parameters, which may be left out. -/
def typeParameters : Rule := role "type_parameters" (opt [.part "type parameters"])

/-- A specification of a type declaration. -/
def typeSpec : Rule := .alt [.part "type spec", .part "type alias"]

/-! ## §B Operators -/

/-- The operators that bind like a product. -/
def productSigns : List String := ["*", "/", "%", "<<", ">>", "&", "&^"]

/-- The operators that bind like a sum. -/
def sumSigns : List String := ["+", "-", "|", "^"]

/-- The comparisons. -/
def comparisonSigns : List String := ["==", "!=", "<", "<=", ">", ">="]

/-- The signs of assignments. -/
def assignmentSigns : List String := (productSigns ++ sumSigns).map (· ++ "=") ++ ["="]

/-- One of several tokens. -/
def oneOf (signs : List String) : Rule := .alt (signs.map Rule.token)

/-- How tightly a selector, an index or a call binds. -/
def primary : Int := 7

/-- How tightly an operator in front of its operand binds. -/
def unary : Int := 6

/-- Two operands with one of the signs between them. -/
def binary (level : Int) (signs : List String) : Rule :=
  leftRank level (.seq [role "left" expression, role "operator" (oneOf signs),
    role "right" expression])

/-! ## §C Declarations -/

/-- The rules of source files and declarations. -/
def declarations : List (String × Rule) :=
  [("source file", .seq [
      runOpt "_items" (.alt [.seq [.part "_statement", ending], .seq [topLevel, ending]]),
      opt [topLevel]]),
   ("package clause", .seq ["package", packageName]),
   ("import", .seq ["import", .alt [.part "import spec", .part "import specs"]]),
   ("import spec", .seq [
      opt [role "name" (.alt [.part "dot", "blank_identifier", packageName])],
      role "path" stringLiteral]),
   ("dot", "."),
   ("import specs", group "_imports" (.part "import spec")),
   ("_declaration", .alt [.part "constants", .part "types", .part "variables"]),
   ("constants", .seq ["const",
      .alt [.part "constant spec", group "_constants" (.part "constant spec")]]),
   ("constant spec", leftRank 0 (.seq [role "name" (commas "_constant names" ident),
      opt [opt [role "type" type], "=", role "value" expressions]])),
   ("variables", .seq ["var", .alt [.part "variable spec", .part "variable specs"]]),
   ("variable spec", .seq [names, .alt [
      .seq [role "type" type, opt ["=", role "value" expressions]],
      .seq ["=", role "value" expressions]]]),
   ("variable specs", group "_variables" (.part "variable spec")),
   ("function", rightRank 1 (.seq ["func", role "name" ident, typeParameters, parameters, result,
      role "body" (opt [.part "block"])])),
   ("method", rightRank 1 (.seq ["func", role "receiver" (.part "parameters"),
      role "name" fieldName, parameters, result, role "body" (opt [.part "block"])])),
   ("type parameters", .seq ["[", commas "_type parameters" (.part "type parameter"), opt [","],
      "]"]),
   ("type parameter", .seq [names, role "type" (named "type_constraint" (.part "type element"))]),
   ("parameters", .seq ["(",
      looseCommas "_parameters" (.alt [.part "parameter", .part "variadic parameter"]), ")"]),
   ("parameter", .seq [opt [names], role "type" type]),
   ("variadic parameter", .seq [role "name" (opt [ident]), "...", role "type" type]),
   ("type alias", .seq [role "name" typeName, typeParameters, "=", role "type" type]),
   ("types", .seq ["type", .alt [.part "type spec", .part "type alias", group "_types" typeSpec]]),
   ("type spec", .seq [role "name" typeName, typeParameters, role "type" type])]

/-! ## §D Types -/

/-- The rules of types. -/
def types : List (String × Rule) :=
  [("expression list", commas "_expressions" expression),
   ("type in brackets", .seq ["(", type, ")"]),
   ("_type", .alt [weight (-1) typeName, .part "generic type", .part "qualified type",
      .part "pointer type", .part "struct type", .part "interface type", .part "array type",
      .part "slice type", .part "map type", .part "channel type", .part "function type",
      .part "negated type"]),
   ("generic type", weight 1 (.seq [
      role "type" (.alt [typeName, .part "qualified type", .part "negated type"]),
      role "type_arguments" (.part "type arguments")])),
   ("type arguments", weight 2 (.seq ["[", commas "_type elements" (.part "type element"),
      opt [","], "]"])),
   ("pointer type", rank unary (.seq ["*", type])),
   ("array type", rightRank 0 (.seq ["[", role "length" expression, "]", role "element" type])),
   ("counted array type", .seq ["[", "...", "]", role "element" type]),
   ("slice type", rightRank 0 (.seq ["[", "]", role "element" type])),
   ("struct type", .seq ["struct", .part "fields"]),
   ("negated type", leftRank 0 (.seq ["~", type])),
   ("fields", .seq ["\x7b", endedItems "_fields" (.part "field"), "\x7d"]),
   ("field", .seq [
      .alt [
        .seq [commas "_field names" (role "name" fieldName), role "type" type],
        .seq [opt ["*"],
          role "type" (.alt [typeName, .part "qualified type", .part "generic type"])]],
      role "tag" (opt [stringLiteral])]),
   ("interface type", .seq ["interface", "\x7b",
      endedItems "_elements" (.alt [.part "method element", .part "type element"]), "\x7d"]),
   ("method element", .seq [role "name" fieldName, parameters, result]),
   ("type element", separated "_union terms" "|" type),
   ("map type", rightRank 0 (.seq ["map", "[", role "key" type, "]", role "value" type])),
   ("channel type", leftRank 0 (.alt [
      .seq ["chan", role "value" type],
      .seq ["chan", "<-", role "value" type],
      rank unary (.seq ["<-", "chan", role "value" type])])),
   ("function type", rightRank 0 (.seq ["func", parameters, result]))]

/-! ## §E Statements -/

/-- A label with nothing behind it. -/
def emptyLabeled : Rule := named "labeled_statement" (.part "empty labeled statement")

/-- A statement that may stand in front of the condition. -/
def initializer : Rule := opt [role "initializer" (.part "_simple statement"), ";"]

/-- The statements of a case. -/
def caseBody : Rule := opt [.part "statements"]

/-- Expressions in front of an assignment to new or old variables. -/
def assigned : Rule := opt [role "left" expressions, .alt ["=", ":="]]

/-- The rules of statements. -/
def statements : List (String × Rule) :=
  [("block", .seq ["\x7b", opt [.part "statements"], "\x7d"]),
   ("statements", .alt [
      .seq [.part "_statement", runOpt "_statements" (.seq [ending, .part "_statement"]),
        opt [ending, opt [emptyLabeled]]],
      emptyLabeled]),
   ("_statement", .alt [.part "_declaration", .part "_simple statement", .part "return",
      .part "go", .part "defer", .part "if", .part "for", .part "switch", .part "type switch",
      .part "select", .part "labeled statement", .part "fallthrough", .part "break",
      .part "continue", .part "goto", .part "block", .part "empty statement"]),
   ("empty statement", ";"),
   ("_simple statement", .alt [.part "expression statement", .part "send", .part "increment",
      .part "decrement", .part "assignment", .part "short variables"]),
   ("expression statement", expression),
   ("send", .seq [role "channel" expression, "<-", role "value" expression]),
   ("receive", .seq [assigned, role "right" expression]),
   ("increment", .seq [expression, "++"]),
   ("decrement", .seq [expression, "--"]),
   ("assignment", .seq [role "left" expressions, role "operator" (oneOf assignmentSigns),
      role "right" expressions]),
   ("short variables", .seq [role "left" expressions, ":=", role "right" expressions]),
   ("labeled statement", .seq [role "label" labelName, ":", .part "_statement"]),
   ("empty labeled statement", .seq [role "label" labelName, ":"]),
   ("fallthrough", leftRank 0 "fallthrough"),
   ("break", .seq ["break", opt [labelName]]),
   ("continue", .seq ["continue", opt [labelName]]),
   ("goto", .seq ["goto", labelName]),
   ("return", .seq ["return", opt [expressions]]),
   ("go", .seq ["go", expression]),
   ("defer", .seq ["defer", expression]),
   ("if", .seq ["if", initializer, role "condition" expression, role "consequence" (.part "block"),
      opt ["else", role "alternative" (.alt [.part "block", .part "if"])]]),
   ("for", .seq ["for", opt [.alt [expression, .part "for clause", .part "range clause"]],
      role "body" (.part "block")]),
   ("for clause", .seq [role "initializer" (opt [.part "_simple statement"]), ";",
      role "condition" (opt [expression]), ";", role "update" (opt [.part "_simple statement"])]),
   ("range clause", .seq [assigned, "range", role "right" expression]),
   ("switch", .seq ["switch", initializer, role "value" (opt [expression]), "\x7b",
      runOpt "_cases" (.alt [.part "case", .part "default case"]), "\x7d"]),
   ("case", .seq ["case", role "value" expressions, ":", caseBody]),
   ("default case", .seq ["default", ":", caseBody]),
   ("type switch", .seq ["switch", .part "_type switch header", "\x7b",
      runOpt "_type cases" (.alt [.part "type case", .part "default case"]), "\x7d"]),
   ("_type switch header", .seq [initializer, opt [role "alias" expressions, ":="],
      role "value" expression, ".", "(", "type", ")"]),
   ("type case", .seq ["case", role "type" (commas "_case types" type), ":", caseBody]),
   ("select", .seq ["select", "\x7b",
      runOpt "_communications" (.alt [.part "communication", .part "default case"]), "\x7d"]),
   ("communication", .seq ["case", role "communication" (.alt [.part "send", .part "receive"]),
      ":", caseBody])]

/-! ## §F Expressions -/

/-- A word that is a name unless it is called. -/
def builtin : Rule := named "identifier" (.alt ["new", "make"])

/-- The rules of expressions and literals. -/
def expressionRules : List (String × Rule) :=
  [("_expression", .alt [.part "unary", .part "binary", .part "selector", .part "index",
      .part "slice", .part "call", .part "type assertion", .part "conversion",
      .part "instantiation", ident, builtin, .part "composite literal", .part "function literal",
      stringLiteral, "int_literal", "float_literal", "imaginary_literal", "rune_literal", "nil",
      "true", "false", "iota", .part "expression in brackets"]),
   ("expression in brackets", .seq ["(", expression, ")"]),
   ("call", rank primary (.alt [
      .seq [role "function" builtin,
        role "arguments" (named "argument_list" (.part "builtin arguments"))],
      .seq [role "function" expression, role "type_arguments" (opt [.part "type arguments"]),
        role "arguments" (.part "arguments")]])),
   ("variadic argument", rightRank 0 (.seq [expression, "..."])),
   ("builtin arguments", .seq ["(",
      opt [type, runOpt "_expressions" (.seq [",", expression]), opt [","]], ")"]),
   ("arguments", .seq ["(",
      looseCommas "_arguments" (.alt [expression, .part "variadic argument"]), ")"]),
   ("selector", rank primary (.seq [role "operand" expression, ".", role "field" fieldName])),
   ("index", weight 1 (rank primary (.seq [role "operand" expression, "[",
      role "index" expression, "]"]))),
   ("slice", rank primary (.seq [role "operand" expression, "[",
      .alt [
        .seq [role "start" (opt [expression]), ":", role "end" (opt [expression])],
        .seq [role "start" (opt [expression]), ":", role "end" expression, ":",
          role "capacity" expression]],
      "]"])),
   ("type assertion", rank primary (.seq [role "operand" expression, ".", "(", role "type" type,
      ")"])),
   ("conversion", weight (-1) (.seq [role "type" type, "(", role "operand" expression, opt [","],
      ")"])),
   ("instantiation", weight (-1) (.seq [role "type" type, "[", commas "_case types" type,
      opt [","], "]"])),
   ("composite literal", rank (-1) (.seq [
      role "type" (.alt [.part "map type", .part "slice type", .part "array type",
        .part "counted array type", .part "struct type", typeName, .part "generic type",
        .part "qualified type"]),
      role "body" (.part "literal value")])),
   ("literal value", .seq ["\x7b",
      looseCommas "_literal elements" (.alt [.part "literal element", .part "keyed element"]),
      "\x7d"]),
   ("literal element", .alt [expression, .part "literal value"]),
   ("keyed element", .seq [role "key" (.part "literal element"), ":",
      role "value" (.part "literal element")]),
   ("function literal", .seq ["func", parameters, result, role "body" (.part "block")]),
   ("unary", rank unary (.seq [role "operator" (oneOf ["+", "-", "!", "^", "*", "&", "<-"]),
      role "operand" expression])),
   ("binary", .alt [binary 5 productSigns, binary 4 sumSigns, binary 3 comparisonSigns,
      binary 2 ["&&"], binary 1 ["||"]]),
   ("qualified type", .seq [role "package" packageName, ".", role "name" typeName]),
   ("raw string", .seq ["\x60", named "raw_string_literal_content" "raw text",
      named "\x60" "closing \x60"]),
   ("string", .seq ["\"",
      runOpt "_string pieces"
        (.alt [named "interpreted_string_literal_content" "text", "escape_sequence"]),
      named "\"" "closing \""])]

/-- The parts that only gather others. -/
def gathering : List String := ["_expression", "_type", "_statement", "_simple statement"]

/-- The grammar with its symbols numbered. -/
def table : Table :=
  Table.ofRules ["identifier"] ["comment"] gathering
    (declarations ++ types ++ statements ++ expressionRules)

end Syntax

end RollCall.Source
