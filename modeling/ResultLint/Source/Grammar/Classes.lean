import ResultLint.Source.Grammar.Words

/-!
The grammar of classes: what a class extends, and its members.
-/
namespace ResultLint.Source.Grammar

def decorator : Grammar :=
  let named : Grammar :=
    .sequence [path, .optional (.rule .typeArguments), .optional (.rule .arguments)]
  .node .other (.sequence [sign "@", .choice [between "(" ")" named, named]])

/-- Type parameters, base class, interfaces and members. -/
def classTail : Grammar :=
  .sequence [
    .optional (.rule .typeParameters),
    .optional (.sequence [
      word "extends",
      commaList (.node .other (.sequence [.rule .suffixed, .optional (.rule .typeArguments)]))]),
    .optional (.sequence [word "implements", commaList (.rule .type)]),
    .node .classBody (.sequence [
      sign "\x7b", .within .statement (.many (.rule .classMember)), sign "\x7d"])]

/-- What ends a member without a body. -/
def memberEnd (beforeBody : Bool) : Grammar :=
  .choice [sign ";", sign ",", .lineSemicolon beforeBody]

def fieldModifiers : Grammar :=
  .sequence [
    .optional (.choice [
      .sequence [modifier "declare", .optional accessibility],
      .sequence [accessibility, .optional (modifier "declare")]]),
    .choice [
      .sequence [
        modifier "static", .optional (modifier "override"), .optional (modifier "readonly")],
      .sequence [modifier "override", .optional (modifier "readonly")],
      .sequence [modifier "abstract", .optional (modifier "readonly")],
      .sequence [modifier "readonly", .optional (modifier "abstract")],
      modifier "accessor",
      nothing]]

def field : Grammar :=
  .node .other (.sequence [
    fieldModifiers, .rule .propertyName, .optional (.choice [sign "?", operator ["!"]]),
    .optional (.rule .ascription), .optional initializer])

def abstractMethod : Grammar :=
  .node .other (.sequence [
    .optional accessibility, modifier "abstract", .optional (modifier "override"),
    .optional (.choice [accessor "get" .get, accessor "set" .set, sign "*"]),
    .rule .propertyName, .optional (sign "?"), .rule .signature])

def classMember : Grammar :=
  .choice [
    sign ";",
    .rule .decorator,
    .node .other (.sequence [word "static", .rule .block]),
    .sequence [methodDefinition, .optional (sign ";")],
    .sequence [.node .methodSignature methodHead, memberEnd true],
    .sequence [abstractMethod, memberEnd false],
    .sequence [
      .node .other (.sequence [.optional (modifier "static"), .rule .indexSignature]),
      memberEnd false],
    .sequence [field, memberEnd false]]

end ResultLint.Source.Grammar
