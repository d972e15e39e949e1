import ResultLint.Source.Grammar.Classes
import ResultLint.Source.Grammar.Expressions
import ResultLint.Source.Grammar.Statements
import ResultLint.Source.Grammar.Types

/-!
The whole grammar: which part each name stands for.
-/
namespace ResultLint.Source

def Rule.grammar : Rule → Grammar
  | .statement => Grammar.statement
  | .statements => Grammar.statements
  | .block => Grammar.block
  | .declaration => Grammar.declaration
  | .classTail => Grammar.classTail
  | .classMember => Grammar.classMember
  | .decorator => Grammar.decorator
  | .expression => Grammar.expression
  | .expressions => Grammar.expressions
  | .operand => Grammar.operand
  | .suffixed => Grammar.suffixed
  | .primary => Grammar.primary
  | .arrow => Grammar.arrow
  | .parameters => Grammar.parameters
  | .signature => Grammar.signature
  | .pattern => Grammar.pattern
  | .propertyName => Grammar.propertyName
  | .object => Grammar.object
  | .array => Grammar.array
  | .arguments => Grammar.arguments
  | .template => Grammar.template
  | .element => Grammar.element
  | .elementChildren => Grammar.elementChildren
  | .type => Grammar.type
  | .unionType => Grammar.unionType
  | .typeOperand => Grammar.typeOperand
  | .typePostfix => Grammar.typePostfix
  | .typePrimary => Grammar.typePrimary
  | .typeArguments => Grammar.typeArguments
  | .typeParameters => Grammar.typeParameters
  | .objectType => Grammar.objectType
  | .indexSignature => Grammar.indexSignature
  | .ascription => Grammar.ascription
  | .returnAscription => Grammar.returnAscription

end ResultLint.Source
