import ResultLint.Source.Grammar.Basic

/-!
Short forms in which the grammar is written: words, signs, lists, brackets, and the parts that
several constructs share.
-/
namespace ResultLint.Source.Grammar

def word (text : String) : Grammar := .token (.word text) none

def anyWord : Grammar := .token (.wordExcept []) none

def sign (text : String) : Grammar := .token (.signs text) none

def operator (texts : List String) : Grammar := .token (.operator texts) none

def text : Grammar := .token .string none

/-- Nothing, which always fits. -/
def nothing : Grammar := .sequence []

/-- One or more parts with commas between them, and perhaps one at the end. -/
def commaList (g : Grammar) : Grammar :=
  .sequence [g, .many (.sequence [sign ",", g]), .optional (sign ",")]

/-- Parts with commas between them, any of which may be left out. -/
def sparseList (g : Grammar) : Grammar :=
  .sequence [.optional g, .many (.sequence [sign ",", .optional g])]

/-- Something between two signs, where line ends mean nothing. -/
def between (first last : String) (g : Grammar) : Grammar :=
  .sequence [sign first, .within .brackets g, sign last]

def braces (g : Grammar) : Grammar := between "\x7b" "\x7d" g

/-- A word path with dots. -/
def path : Grammar := .sequence [anyWord, .many (.sequence [operator ["."], anyWord])]

/-- A semicolon, or a line end that stands for it. -/
def semicolon : Grammar := .choice [sign ";", .lineSemicolon false]

/-- Words that begin an expression and so name nothing in one. -/
def expressionWords : List String :=
  ["function", "class", "new", "this", "super", "true", "false", "null", "typeof", "void",
   "delete", "yield", "import"]

/-- Words that begin or divide statements. -/
def statementWords : List String :=
  ["if", "for", "while", "do", "switch", "try", "with", "break", "continue", "return", "throw",
   "debugger", "var", "const", "export", "enum", "interface", "abstract", "case", "default", "else"]

/-- What may begin the name of a member. -/
def memberStart : Grammar :=
  .choice [anyWord, text, .token .number none, .token .privateName none, sign "[", sign "*"]

/-- A word in front of a member, not one that is the member's own name. -/
def modifier (name : String) : Grammar :=
  .sequence [word name, .noSemicolon, .ahead memberStart]

def accessibility : Grammar :=
  .choice [modifier "public", modifier "private", modifier "protected"]

/-- The keyword of an accessor, which stays in the tree. -/
def accessor (name : String) (kind : Kind) : Grammar :=
  .sequence [.token (.word name) (some (kind, false)), .noSemicolon, .ahead memberStart]

/-- What may stand before the name of a method. -/
def methodModifiers : Grammar :=
  .sequence [
    .optional accessibility, .optional (modifier "static"), .optional (modifier "override"),
    .optional (modifier "readonly"), .optional (modifier "async"),
    .optional (.choice [accessor "get" .get, accessor "set" .set, sign "*"])]

/-- A method up to its body. -/
def methodHead : Grammar :=
  .sequence [
    methodModifiers, .role .name (.rule .propertyName), .optional (sign "?"), .rule .signature]

def methodDefinition : Grammar :=
  .node .methodDefinition (.sequence [methodHead, .role .body (.rule .block)])

/-- The value behind an equals sign. -/
def initializer : Grammar :=
  .sequence [operator ["="], .role .value (.rule .expression)]

/-- The keyword of a function, which stays in the tree. -/
def functionWord : Grammar :=
  .token (.word "function") (some (.function, false))

/-- A word on the same line before something else of its construct. -/
def leading (name : String) : Grammar :=
  .sequence [word name, .noSemicolon]

end ResultLint.Source.Grammar
