import ResultLint.Source.Grammar.Words

/-!
The grammar of expressions: patterns, functions, literals, operators, and elements.
-/
namespace ResultLint.Source.Grammar

/-- The name of a member; its spelling decides what it is called. -/
def propertyName : Grammar :=
  .choice [
    .token (.wordExcept []) (some (.propertyName, true)),
    .token .privateName (some (.privateName, true)),
    .token .string (some (.string, true)),
    .token .number (some (.other, true)),
    .node .other (between "[" "]" (.rule .expressions))]

/-- What a value is bound or assigned to. -/
def pattern : Grammar :=
  let default : Grammar := .optional (.sequence [operator ["="], .rule .expression])
  let entry : Grammar :=
    .choice [
      .sequence [operator ["..."], .rule .pattern],
      .node .other (.sequence [.rule .propertyName, sign ":", .rule .pattern, default]),
      .node .other (.sequence [anyWord, default])]
  .choice [
    .node .other (braces (sparseList entry)),
    .node .other (between "[" "]" (sparseList (.node .other (.sequence [
      .optional (operator ["..."]), .rule .pattern, default])))),
    .node .other (.sequence [
      .token (.wordExcept (expressionWords.filter fun w => w != "this" && w != "super")) none,
      .many (.choice [
        .sequence [operator ["."], .choice [.token .privateName none, anyWord]],
        .sequence [.noSemicolon, between "[" "]" (.rule .expressions)],
        .sequence [.noSemicolon, operator ["!"]]])])]

def parameter : Grammar :=
  let flag (name : String) : Grammar :=
    .sequence [word name, .ahead (.choice [anyWord, sign "\x7b", sign "["])]
  .node .other (.sequence [
    .many (.rule .decorator),
    .optional (.choice [flag "public", flag "private", flag "protected"]),
    .optional (flag "override"), .optional (flag "readonly"),
    .choice [.sequence [operator ["..."], .rule .pattern], .rule .pattern],
    .optional (sign "?"), .optional (.rule .ascription), .optional initializer])

def parameters : Grammar :=
  .node .other (between "(" ")" (.optional (commaList parameter)))

/-- Parameters, with type parameters before and a declared return type behind them. -/
def signature : Grammar :=
  .sequence [
    .optional (.rule .typeParameters), .rule .parameters,
    .optional (.role .returnType (.rule .returnAscription))]

def asyncWord : Grammar :=
  .sequence [word "async", .noSemicolon]

/-- A function whose value is used where it stands. -/
def functionExpression : Grammar :=
  .choice [
    .node .function (.sequence [
      .optional asyncWord, functionWord, .notAhead (sign "*"),
      .optional (.role .name (.token (.wordExcept []) (some (.identifier, true)))),
      .rule .signature, .role .body (.rule .block)]),
    .node .generatorFunction (.sequence [
      .optional asyncWord, functionWord, sign "*",
      .optional (.role .name (.token (.wordExcept []) (some (.identifier, true)))),
      .rule .signature, .role .body (.rule .block)])]

def arrow : Grammar :=
  let body : Grammar :=
    .role .body (.choice [.rule .block, .node .other (.rule .expression)])
  let declared : Grammar := .arrowTypes (.role .returnType (.rule .returnAscription))
  .node .arrowFunction (.choice [
    .sequence [
      .optional (.sequence [asyncWord, .ahead anyWord]),
      .token (.wordExcept expressionWords) none, operator ["=>"], body],
    .sequence [
      .optional asyncWord, .optional (.rule .typeParameters), .rule .parameters,
      .choice [
        .sequence [.optional declared, operator ["=>"]],
        .sequence [.within .noFunctionTypes declared, operator ["=>"]]],
      body]])

def arguments : Grammar :=
  .node .other (between "(" ")" (sparseList (.choice [
    .node .other (.sequence [operator ["..."], .rule .expression]), .rule .expression])))

def array : Grammar :=
  .node .array (between "[" "]" (sparseList (.choice [
    .node .other (.sequence [operator ["..."], .rule .expression]), .rule .expression])))

def object : Grammar :=
  .node .object (braces (sparseList (.choice [
    .node .other (.sequence [operator ["..."], .rule .expression]),
    methodDefinition,
    .node .pair (.sequence [
      .role .key (.rule .propertyName), sign ":", .role .value (.rule .expression)]),
    anyWord])))

def template : Grammar :=
  .node .other (.sequence [
    .tight (.signs "\x60"),
    .many (.choice [
      .tight .templateText,
      .node .other (.sequence [
        sign "$\x7b", .within .brackets (.rule .expressions), .tight (.signs "\x7d")])]),
    sign "\x60"])

/-- A value in braces among elements; `last` is the closing brace. -/
def elementValue (last : Grammar) : Grammar :=
  .node .other (.sequence [
    sign "\x7b",
    .within .brackets (.optional (.choice [
      .sequence [operator ["..."], .rule .expression], .rule .expressions])),
    last])

def elementName : Grammar :=
  .sequence [
    .token .elementName none,
    .many (.sequence [.choice [sign ":", operator ["."]], .token .elementName none])]

def elementAttribute : Grammar :=
  .choice [
    elementValue (sign "\x7d"),
    .sequence [
      .token .elementName none, .optional (.sequence [sign ":", .token .elementName none]),
      .optional (.sequence [
        operator ["="],
        .choice [
          .token .attributeText none, elementValue (sign "\x7d"),
          .sequence [.rule .element, .spacing]]])]]

/-- An element or a fragment; white space behind it is not passed. -/
def element : Grammar :=
  .node .other (.choice [
    .sequence [sign "<", .tight (.signs ">"), .rule .elementChildren, sign "<", operator ["/"],
      .tight (.signs ">")],
    .sequence [
      sign "<", elementName, .optional (.rule .typeArguments), .many elementAttribute,
      .choice [
        .sequence [operator ["/"], .tight (.signs ">")],
        .sequence [
          .tight (.signs ">"), .rule .elementChildren, sign "<", operator ["/"], elementName,
          .tight (.signs ">")]]]])

def elementChildren : Grammar :=
  .many (.choice [.tight .elementText, elementValue (.tight (.signs "\x7d")), .rule .element])

/-- A new object; its class is named without a call. -/
def construction : Grammar :=
  .node .other (.sequence [
    word "new",
    .choice [
      .sequence [operator ["."], anyWord],
      .sequence [
        .chain (.rule .primary) [
          (.member, .anything, none, .sequence [
            operator ["."], .choice [.token .privateName none, anyWord]]),
          (.subscript, .anything, none, between "[" "]" (.rule .expressions)),
          (.nonNull, .anything, none, operator ["!"])],
        .optional (.rule .typeArguments), .optional (.rule .arguments)]]])

def classExpression : Grammar :=
  .node .other (.sequence [
    .many (.rule .decorator), word "class",
    .optional (.token (.wordExcept ["extends", "implements"]) none),
    .rule .classTail])

def parenthesized : Grammar :=
  .node .parenthesized (between "(" ")" (.sequence [
    .rule .expressions, .optional (.rule .ascription)]))

def primary : Grammar :=
  .choice [
    .rule .arrow, functionExpression, construction, classExpression,
    .sequence [word "import", .ahead (.choice [sign "(", operator ["."]])],
    .choice (["this", "super", "true", "false", "null", "undefined"].map word),
    .token .number none, text, .rule .template, .token .regex none,
    parenthesized, .rule .array, .rule .object,
    .dialect .tsx (.sequence [.rule .element, .spacing]),
    .token (.wordExcept expressionWords) (some (.identifier, true))]

/-- A beginning of an expression, by its first token. -/
def expressionStart : Grammar :=
  .choice [
    .token (.wordExcept
      ["in", "instanceof", "as", "satisfies", "of", "extends", "implements"]) none,
    .token .number none, text, .token .privateName none,
    operator ["(", "[", "\x7b", "\x60", "<", "!", "~", "+", "-", "++", "--", "/", "@"]]

def suffixed : Grammar :=
  let optionalDot : Grammar := .optional (operator ["?."])
  .chain (.rule .primary) [
    (.member, .anything, none, .sequence [
      operator [".", "?."], .choice [.token .privateName none, anyWord]]),
    (.subscript, .anything, none, .sequence [
      optionalDot, between "[" "]" (.rule .expressions)]),
    (.other, .anything, none, .sequence [
      optionalDot, .optional (.rule .typeArguments), .rule .arguments]),
    (.other, .anything, none, .sequence [.optional (.rule .typeArguments), .rule .template]),
    (.other, .anything, none, .sequence [.rule .typeArguments, .notAhead expressionStart]),
    (.nonNull, .anything, none, .sequence [.noSemicolon, operator ["!"]]),
    (.other, .anything, none, .sequence [.noSemicolon, operator ["++", "--"]])]

def operand : Grammar :=
  .choice [
    .node .other (.sequence [operator ["!", "~", "-", "+", "++", "--"], .rule .operand]),
    .node .other (.sequence [.choice (["typeof", "void", "delete"].map word), .rule .operand]),
    .node .other (.sequence [word "await", .noSemicolon, .rule .operand]),
    .node .other (.sequence [
      word "yield",
      .choice [
        .sequence [sign "*", .rule .expression], .sequence [.noSemicolon, .rule .expression],
        nothing]]),
    .rule .suffixed,
    .dialect .typescript (.node .other (.sequence [.rule .typeArguments, .rule .operand])),
    .sequence [.token .privateName none, .ahead (word "in")]]

def assignmentOperators : List String :=
  ["+=", "-=", "*=", "/=", "%=", "^=", "&=", "|=", ">>=", ">>>=", "<<=", "**=", "&&=", "||=", "??="]

def binaryOperators : List String :=
  ["&&", "||", ">>", ">>>", "<<", "&", "^", "|", "+", "-", "*", "/", "%", "**", "<", "<=", "==",
   "===", "!=", "!==", ">=", ">", "??"]

/-- An operand, what it is assigned, or operators with further operands. -/
def expression : Grammar :=
  let branches (shifted : Grammar → Grammar) : Grammar :=
    .sequence [
      .token .questionMark none, shifted (.rule .expression), sign ":", .rule .expression]
  .choice [
    .node .assignment (.sequence [
      .ahead (operator ["\x7b", "["]), .role .left (.rule .pattern), operator ["="],
      .role .right (.rule .expression)]),
    .chain (.rule .operand) [
      (.assignment, .target, some .left, .sequence [
        operator ["="], .role .right (.rule .expression)]),
      (.augmentedAssignment, .target, some .left, .sequence [
        operator assignmentOperators, .role .right (.rule .expression)]),
      (.other, .anything, none, .sequence [operator binaryOperators, .rule .operand]),
      (.other, .anything, none, .sequence [
        .choice [word "in", word "instanceof"], .rule .operand]),
      (.other, .anything, none, .sequence [
        .noSemicolon, word "as",
        .choice [.sequence [word "const", .notAhead (operator ["[", "."])], .rule .type]]),
      (.other, .anything, none, .sequence [.noSemicolon, word "satisfies", .rule .type]),
      (.other, .anything, none, .choice [branches id, branches (.within .noArrowTypes)])]]

/-- Expressions with commas between them. -/
def expressions : Grammar :=
  .chain (.rule .expression) [
    (.other, .anything, none, .sequence [sign ",", .rule .expression])]

end ResultLint.Source.Grammar
