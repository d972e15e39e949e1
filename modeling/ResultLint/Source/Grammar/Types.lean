import ResultLint.Source.Grammar.Words

/-!
The grammar of types, of type parameters and arguments, and of annotations.
-/
namespace ResultLint.Source.Grammar

def typeArguments : Grammar :=
  between "<" ">" (commaList (.rule .type))

def typeParameter : Grammar :=
  .sequence [
    .optional (.sequence [word "const", .ahead anyWord]), anyWord,
    .optional (.sequence [.choice [word "extends", sign ":"], .rule .type]),
    .optional (.sequence [sign "=", .rule .type])]

def typeParameters : Grammar :=
  between "<" ">" (commaList typeParameter)

/-- A parameter named as being of a type. -/
def predicate : Grammar :=
  .sequence [anyWord, .noSemicolon, word "is", .rule .type]

/-- What a call promises about a parameter when it returns. -/
def asserts : Grammar :=
  .sequence [word "asserts", .noSemicolon, .choice [predicate, anyWord]]

def functionType : Grammar :=
  .sequence [
    .optional (.rule .typeParameters), .rule .parameters, operator ["=>"],
    .choice [asserts, predicate, .rule .type]]

def constructorType : Grammar :=
  .sequence [
    .optional (word "abstract"), word "new", .optional (.rule .typeParameters), .rule .parameters,
    operator ["=>"], .rule .type]

/-- A type, and the two that a condition on it selects. -/
def type : Grammar :=
  .sequence [
    .rule .unionType,
    .optional (.sequence [
      .noSemicolon, word "extends", .rule .unionType, sign "?", .rule .type, sign ":",
      .rule .type])]

def unionType : Grammar :=
  .sequence [
    .optional (operator ["|", "&"]), .rule .typeOperand,
    .many (.sequence [operator ["|", "&"], .rule .typeOperand])]

def typeOperand : Grammar :=
  .choice [
    .functionTypes (.choice [functionType, constructorType]),
    .sequence [.choice [word "readonly", word "keyof"], .rule .typeOperand],
    .sequence [
      word "infer", anyWord,
      .optional (.sequence [word "extends", .rule .unionType, .notAhead (sign "?")])],
    .sequence [word "unique", word "symbol"],
    .rule .typePostfix]

/-- A type followed by brackets: an array of it, or one of its members. -/
def typePostfix : Grammar :=
  .sequence [
    .rule .typePrimary,
    .many (.sequence [.noSemicolon, between "[" "]" (.optional (.rule .type))])]

def tupleMember : Grammar :=
  .choice [
    .sequence [
      .optional (operator ["..."]), anyWord, .optional (sign "?"), sign ":", .rule .type],
    .sequence [operator ["..."], .rule .type],
    .sequence [.rule .type, .optional (sign "?")]]

def templateType : Grammar :=
  .sequence [
    .tight (.signs "\x60"),
    .many (.choice [
      .tight .templateText,
      .sequence [sign "$\x7b", .within .brackets (.rule .type), .tight (.signs "\x7d")]]),
    sign "\x60"]

/-- The type of a value or of a module. -/
def typeQuery : Grammar :=
  .sequence [
    word "typeof",
    .choice [.sequence [word "import", .rule .arguments], anyWord],
    .many (.sequence [operator [".", "?."], .choice [.token .privateName none, anyWord]]),
    .optional (.rule .typeArguments)]

def importType : Grammar :=
  .sequence [
    word "import", .rule .arguments, .many (.sequence [operator [".", "?."], anyWord])]

def typePrimary : Grammar :=
  .choice [
    between "(" ")" (.rule .type),
    .rule .objectType,
    between "[" "]" (.optional (commaList tupleMember)),
    templateType, text, .token .number none,
    .sequence [operator ["-", "+"], .token .number none],
    .sequence [sign "?", .rule .typePostfix],
    operator ["*"],
    typeQuery, importType,
    .sequence [
      .token (.wordExcept ["typeof", "keyof", "infer", "readonly", "new", "import"]) none,
      .many (.sequence [operator ["."], anyWord]),
      .optional (.rule .typeArguments)]]

/-- A member in brackets: an index with its type, or a member for each key of a type. -/
def indexSignature : Grammar :=
  .sequence [
    .optional (.sequence [.optional (operator ["-", "+"]), word "readonly"]),
    between "[" "]" (.choice [
      .sequence [anyWord, sign ":", .rule .type],
      .sequence [
        anyWord, word "in", .rule .type, .optional (.sequence [word "as", .rule .type])]]),
    .choice [
      .rule .ascription,
      .sequence [.choice [sign "-?:", sign "+?:", sign "?:"], .rule .type]]]

/-- A member of an object type. -/
def typeMember : Grammar :=
  .choice [
    .node .other (.rule .indexSignature),
    .node .other (.sequence [
      .optional (modifier "abstract"), word "new", .optional (.rule .typeParameters),
      .rule .parameters, .optional (.rule .ascription)]),
    .node .other (.rule .signature),
    .node .methodSignature methodHead,
    .node .other (.sequence [
      .optional accessibility, .optional (modifier "static"), .optional (modifier "override"),
      .optional (modifier "readonly"), .rule .propertyName, .optional (sign "?"),
      .optional (.rule .ascription)])]

def objectType : Grammar :=
  let separator : Grammar := .choice [sign ",", semicolon]
  .node .other (.sequence [
    sign "\x7b",
    .within .statement (.sequence [
      .optional (.sequence [
        .optional (.choice [sign ",", sign ";"]), typeMember,
        .many (.sequence [separator, typeMember]), .optional separator])]),
    sign "\x7d"])

def ascription : Grammar :=
  .node .typeAscription (.sequence [sign ":", .node .other (.rule .type)])

/-- The declared return type. The word `const` alone is a type without a node of its own. -/
def returnAscription : Grammar :=
  .node .typeAscription (.sequence [
    sign ":",
    .choice [
      .node .other asserts, .node .other predicate,
      .sequence [
        word "const",
        .notAhead (.choice [operator ["|", "&", "[", "."], sign "<", word "extends"])],
      .node .other (.rule .type)]])

end ResultLint.Source.Grammar
