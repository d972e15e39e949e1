import ResultLint.Source.Grammar.Words

/-!
The grammar of statements and declarations.
-/
namespace ResultLint.Source.Grammar

def block : Grammar :=
  .node .block (.sequence [
    sign "\x7b", .within .statement (.rule .statements), sign "\x7d",
    .optional (.lineSemicolon false)])

/-- A condition in parentheses. -/
def condition : Grammar :=
  .node .parenthesized (between "(" ")" (.rule .expressions))

def bindingName : Grammar :=
  .choice [
    .sequence [.ahead (operator ["\x7b", "["]), .rule .pattern],
    .token (.wordExcept []) (some (.identifier, true))]

def declarator : Grammar :=
  .node .variableDeclarator (.sequence [
    .role .name bindingName,
    .optional (.sequence [operator ["!"], .ahead (sign ":")]),
    .optional (.rule .ascription), .optional initializer])

/-- Variables up to their semicolon. -/
def variableList : Grammar :=
  .node .other (.sequence [
    .choice [
      .sequence [word "let", .ahead (.choice [anyWord, sign "\x7b", sign "["])],
      .sequence [word "const", .notAhead (.sequence [word "enum", anyWord])],
      word "var"],
    declarator, .many (.sequence [sign ",", declarator])])

def functionName : Grammar :=
  .role .name (.token (.wordExcept []) (some (.identifier, true)))

def asyncFunction : Grammar :=
  .sequence [.optional (leading "async"), functionWord]

def functionDeclaration : Grammar :=
  .choice [
    .node .functionDeclaration (.sequence [
      asyncFunction, functionName, .rule .signature, .role .body (.rule .block)]),
    .node .generatorDeclaration (.sequence [
      asyncFunction, sign "*", functionName, .rule .signature, .role .body (.rule .block)]),
    .node .functionSignature (.sequence [
      asyncFunction, functionName, .rule .signature,
      .choice [sign ";", .lineSemicolon true]])]

def classDeclaration : Grammar :=
  .node .other (.sequence [
    .many (.rule .decorator), .optional (.sequence [leading "abstract", .ahead (word "class")]),
    word "class", .token (.wordExcept ["extends", "implements"]) none, .rule .classTail,
    .optional (.lineSemicolon false)])

def typeAlias : Grammar :=
  .sequence [
    leading "type", anyWord, .optional (.rule .typeParameters), operator ["="], .rule .type,
    semicolon]

def interface : Grammar :=
  .sequence [
    word "interface", anyWord, .optional (.rule .typeParameters),
    .optional (.sequence [
      word "extends", commaList (.sequence [path, .optional (.rule .typeArguments)])]),
    .rule .objectType]

def enumeration : Grammar :=
  .sequence [
    .optional (word "const"), word "enum", anyWord,
    .node .other (braces (.optional (commaList (.node .other (.sequence [
      .rule .propertyName, .optional initializer])))))]

def namespaceBlock : Grammar :=
  .sequence [
    .choice [leading "module", leading "namespace"], .choice [text, path],
    .optional (.rule .block)]

def importAlias : Grammar :=
  .sequence [
    anyWord, operator ["="],
    .choice [.sequence [word "require", between "(" ")" text], path], semicolon]

def ambient : Grammar :=
  .sequence [
    leading "declare",
    .choice [
      .rule .declaration,
      .sequence [word "global", .rule .block],
      .sequence [word "module", operator ["."], anyWord, sign ":", .rule .type, semicolon]]]

def declaration : Grammar :=
  .choice [
    functionDeclaration, classDeclaration, .sequence [variableList, semicolon],
    .node .other typeAlias, .node .other interface, .node .other enumeration,
    .node .other namespaceBlock,
    .node .other (.sequence [word "import", importAlias]),
    .node .other ambient]

/-- A name in an import or export list, perhaps under another name. -/
def listedName : Grammar :=
  let kindWord : Grammar := .choice [word "type", word "typeof"]
  let name : Grammar := .choice [anyWord, text]
  .choice [
    .sequence [kindWord, name, word "as", name],
    .sequence [name, word "as", name],
    .sequence [kindWord, name],
    name]

def nameList : Grammar :=
  braces (.optional (commaList listedName))

def fromText : Grammar :=
  .sequence [word "from", text]

/-- What an import may ask of the module beside its names. -/
def importAttributes : Grammar :=
  .optional (.sequence [.choice [word "with", word "assert"], .rule .object])

def importStatement : Grammar :=
  let several : Grammar := .choice [.sequence [operator ["*"], word "as", anyWord], nameList]
  let clause : Grammar :=
    .choice [several, .sequence [anyWord, .optional (.sequence [sign ",", several])]]
  let imported : Grammar :=
    .choice [.sequence [clause, fromText], text]
  .node .other (.sequence [
    word "import",
    .choice [
      .sequence [imported, importAttributes, semicolon],
      importAlias,
      .sequence [
        .choice [word "type", word "typeof"],
        .choice [.sequence [imported, importAttributes, semicolon], importAlias]]]])

def exportStatement : Grammar :=
  .node .other (.sequence [
    .many (.rule .decorator), word "export",
    .choice [
      .sequence [
        operator ["*"], .optional (.sequence [word "as", .choice [anyWord, text]]), fromText,
        importAttributes, semicolon],
      .sequence [
        .optional (word "type"), nameList, .optional (.sequence [fromText, importAttributes]),
        semicolon],
      .sequence [
        word "default",
        .choice [.rule .declaration, .sequence [.rule .expression, semicolon]]],
      .sequence [operator ["="], .rule .expression, semicolon],
      .sequence [word "as", word "namespace", anyWord, semicolon],
      .sequence [word "import", importAlias],
      .rule .declaration]])

/-- The parenthesis behind `for`. -/
def forHead : Grammar :=
  let bound : Grammar :=
    .choice [
      .sequence [
        .choice [word "var", word "let", word "const"], bindingName, .optional (.rule .ascription)],
      .rule .suffixed, .rule .pattern]
  let each : Grammar :=
    .sequence [bound, .choice [word "in", word "of"], .rule .expressions]
  let counted : Grammar :=
    .sequence [
      .choice [
        .sequence [variableList, sign ";"], .sequence [.rule .expressions, sign ";"], sign ";"],
      .optional (.rule .expressions), sign ";", .optional (.rule .expressions)]
  .choice [between "(" ")" each, between "(" ")" counted]

def switchCase : Grammar :=
  .sequence [
    .choice [.sequence [word "case", .rule .expressions], word "default"], sign ":",
    .rule .statements]

def tryStatement : Grammar :=
  .sequence [
    word "try", .rule .block,
    .optional (.sequence [
      word "catch",
      .optional (between "(" ")" (.sequence [.rule .pattern, .optional (.rule .ascription)])),
      .rule .block]),
    .optional (.sequence [word "finally", .rule .block])]

/-- A jump, perhaps to a label. -/
def jump (name : String) : Grammar :=
  .sequence [word name, .optional (.sequence [.noSemicolon, anyWord]), semicolon]

/-- A word that is reserved where a statement begins. -/
def reserved : Grammar :=
  .choice (statementWords.map word)

/-- A function or class with a name, which is a declaration and no expression. -/
def declared : Grammar :=
  .choice [
    .sequence [.optional (leading "async"), word "function", .optional (sign "*"), anyWord],
    .sequence [word "class", .token (.wordExcept ["extends", "implements"]) none]]

def statement : Grammar :=
  .choice [
    .rule .block, sign ";",
    .node .other (.sequence [
      word "if", condition, .rule .statement,
      .optional (.sequence [word "else", .rule .statement])]),
    .node .other (.sequence [word "for", .optional (word "await"), forHead, .rule .statement]),
    .node .other (.sequence [word "while", condition, .rule .statement]),
    .node .other (.sequence [
      word "do", .rule .statement, word "while", condition, .optional semicolon]),
    .node .other (.sequence [
      word "switch", condition, sign "\x7b", .within .statement (.many switchCase), sign "\x7d"]),
    .node .other tryStatement,
    .node .other (.sequence [word "with", condition, .rule .statement]),
    jump "break", jump "continue",
    .sequence [word "debugger", semicolon],
    .node .other (.sequence [
      word "return", .optional (.sequence [.noSemicolon, .rule .expressions]), semicolon]),
    .node .other (.sequence [word "throw", .rule .expressions, semicolon]),
    importStatement, exportStatement, .rule .declaration,
    .sequence [
      .notAhead reserved, anyWord, sign ":", .rule .statement],
    .node .other (.sequence [
      .notAhead (.choice [reserved, declared, sign "\x7b"]), .rule .expressions, semicolon])]

def statements : Grammar :=
  .many (.within .statement (.rule .statement))

end ResultLint.Source.Grammar
