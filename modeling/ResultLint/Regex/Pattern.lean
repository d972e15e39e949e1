import ResultLint.Regex.Basic
import ResultLint.Unicode.Property

/-!
The written form of regular expressions: groups, alternatives, repetition, character classes
with set operations, property names, assertions, and inline flags. Look-around and back
references are refused, and so is an expression that nests or grows beyond a limit.
-/
namespace ResultLint.Regex.Pattern

open Text Unicode

/-- Inline flags; `extended` lets blanks and comments stand between the signs. -/
structure Flags where
  ignoreCase : Bool
  multiLine : Bool
  dotAll : Bool
  unicode : Bool
  extended : Bool
  crlf : Bool
  deriving DecidableEq, Repr

def Flags.initial : Flags := ⟨false, false, false, true, false, false⟩

inductive Error where
  | malformed
  | tooBig
  deriving DecidableEq, Repr

/-- What a fault is told as. The first words are a parser's own; what follows them stands in for its
report, which shows the pattern and the place of the fault. -/
def Error.message : Error → String
  | .malformed => "regex parse error: the pattern is malformed"
  | .tooBig => "Compiled regex exceeds size limit of 10485760 bytes."

/-- What is left to read, the flags in force, and the group names used so far. -/
structure Reading where
  rest : List Char
  flags : Flags
  names : List (List Char)

abbrev Parse := StateT Reading Option

def refuse {α : Type} : Parse α := fun _ => none

/-- Drops blanks and comments that run from a number sign to the end of the line. -/
def dropIgnored (comment : Bool) : List Char → List Char
  | [] => []
  | c :: cs =>
    if comment then dropIgnored (c != '\n') cs
    else if isBlank c then dropIgnored false cs
    else if c = '#' then dropIgnored true cs
    else c :: cs

def skipIgnored : Parse Unit :=
  modify fun r => if r.flags.extended then { r with rest := dropIgnored false r.rest } else r

def peek : Parse (Option Char) := do
  return (← get).rest.head?

/-- Goes past one character. -/
def bump : Parse Unit :=
  modify fun r => { r with rest := r.rest.tail }

/-- Goes past one character and what may be ignored after it; refuses the end of the pattern. -/
def advance : Parse Char := do
  bump
  skipIgnored
  match ← peek with
  | some c => return c
  | none => refuse

/-- Like `advance`, where the end of the pattern is no fault. -/
def advanceMaybe : Parse Unit := do
  bump
  skipIgnored

/-- Goes past a text if it comes next. -/
def take? (mark : List Char) : Parse Bool := do
  match stripStart? mark (← get).rest with
  | some rest => modify fun r => { r with rest := rest }; return true
  | none => return false

def withinLatin (c : Char) (first last : Char) : Bool :=
  first ≤ c && c ≤ last

/-- Signs that mean something to patterns and stand for themselves behind a backslash. -/
def isMeta (c : Char) : Bool :=
  "\\.+*?()|[]\x7b\x7d^$#&-~".toList.contains c

/-- The pattern that writes exactly a text: signs that mean something get a backslash. -/
def ofText (text : List Char) : List Char :=
  text.flatMap fun c => if isMeta c then ['\\', c] else [c]

/-- Behind a backslash every other ASCII character stands for itself, less letters, digits and
angle brackets. -/
def isEscapable (c : Char) : Bool :=
  isMeta c || (c.toNat < 0x80 && !c.isAlphanum && c != '<' && c != '>')

/-- The sets named by a letter behind a backslash. -/
def shorthand (unicode : Bool) (letter : Char) : CharSet :=
  match letter, unicode with
  | 'd', true => Property.digits
  | 's', true => CharSet.blank
  | 'w', true => Property.wordChars
  | 'd', false => ⟨[(0x30, 0x39)]⟩
  | 's', false => ⟨[(0x9, 0xD), (0x20, 0x20)]⟩
  | _, _ => ⟨[(0x30, 0x39), (0x41, 0x5A), (0x5F, 0x5F), (0x61, 0x7A)]⟩

/-- Sets with a name between colons inside a class. -/
def namedClass? (name : List Char) : Option CharSet :=
  [("alnum", [(0x30, 0x39), (0x41, 0x5A), (0x61, 0x7A)]),
   ("alpha", [(0x41, 0x5A), (0x61, 0x7A)]), ("ascii", [(0, 0x7F)]),
   ("blank", [(0x9, 0x9), (0x20, 0x20)]), ("cntrl", [(0, 0x1F), (0x7F, 0x7F)]),
   ("digit", [(0x30, 0x39)]), ("graph", [(0x21, 0x7E)]), ("lower", [(0x61, 0x7A)]),
   ("print", [(0x20, 0x7E)]), ("punct", [(0x21, 0x2F), (0x3A, 0x40), (0x5B, 0x60), (0x7B, 0x7E)]),
   ("space", [(0x9, 0xD), (0x20, 0x20)]), ("upper", [(0x41, 0x5A)]),
   ("word", [(0x30, 0x39), (0x41, 0x5A), (0x5F, 0x5F), (0x61, 0x7A)]),
   ("xdigit", [(0x30, 0x39), (0x41, 0x46), (0x61, 0x66)])].lookup (String.ofList name) |>.map
    CharSet.mk

/-- ASCII letters in both cases. -/
def closeUnderAsciiCase (s : CharSet) : CharSet :=
  (List.range 26).foldl
    (fun acc k =>
      if s.contains (Char.ofNat (0x41 + k)) || s.contains (Char.ofNat (0x61 + k)) then
        acc.union ⟨[(0x41 + k, 0x41 + k), (0x61 + k, 0x61 + k)]⟩
      else acc)
    s

def foldCase (flags : Flags) (s : CharSet) : CharSet :=
  if !flags.ignoreCase then s
  else if flags.unicode then Property.closeUnderCase s
  else closeUnderAsciiCase s

/-- The complement under the flags. Without Unicode it would hold halves of characters. -/
def negate (flags : Flags) (s : CharSet) : Parse CharSet :=
  if flags.unicode then pure s.complement else refuse

/-- What a single sign or an escape stands for. -/
inductive Primitive where
  | literal (c : Char)
  | set (s : CharSet)
  | assertion (a : Assertion)
  | anyChar

/-- Digits of a count, as long as they last; a count has at most 32 bits. -/
def decimal : Parse Nat := do
  modify fun r => { r with rest := r.rest.dropWhile isBlank }
  let taken := (← get).rest
  let digits := (if (← get).flags.extended then digitsAmong taken.length taken
    else (taken.takeWhile Char.isDigit, taken.dropWhile Char.isDigit))
  modify fun r => { r with rest := digits.2.dropWhile isBlank }
  skipIgnored
  let n := digits.1.foldl (fun n c => 10 * n + (c.toNat - '0'.toNat)) 0
  if digits.1.isEmpty || n ≥ 0x100000000 then refuse else return n
where
  /-- Digits with ignored text between them. -/
  digitsAmong : Nat → List Char → List Char × List Char
    | 0, s => ([], s)
    | _, [] => ([], [])
    | n + 1, c :: cs =>
      if c.isDigit then
        let more := digitsAmong n (dropIgnored false cs)
        (c :: more.1, more.2)
      else ([], c :: cs)

/-- A code point that is a character. -/
def charOf (digits : List Char) : Parse Char :=
  let n := CharSet.ofHex digits
  if n.isValidChar then pure (Char.ofNat n) else refuse

/-- The digits up to a closing brace. -/
def bracedDigits : Nat → List Char → Parse (List Char)
  | 0, _ => refuse
  | fuel + 1, digits => do
    let c ← advance
    if c = '\x7d' then return digits.reverse
    else if (Text.digit? 16 c).isSome then bracedDigits fuel (c :: digits)
    else refuse

/-- A fixed number of digits, the first of them being next. -/
def fixedDigits : Nat → List Char → Parse (List Char)
  | 0, digits => do
    advanceMaybe
    return digits.reverse
  | n + 1, digits => do
    let c ← if digits.isEmpty then (do match ← peek with
        | some c => return c
        | none => refuse)
      else advance
    if (Text.digit? 16 c).isSome then fixedDigits n (c :: digits) else refuse

/-- A character by its code point, behind the letter that says how many digits follow. Without
Unicode two digits name a byte, and a byte that is no character of its own is not taken. -/
def hexChar (width : Nat) : Parse Char := do
  let c ← advance
  if c = '\x7b' then
    let digits ← bracedDigits ((← get).rest.length + 1) []
    advanceMaybe
    if digits.isEmpty then refuse else charOf digits
  else
    let named ← charOf (← fixedDigits width [])
    if width = 2 && named.toNat ≥ 0x80 && !(← get).flags.unicode then refuse else return named

/-- The text up to a closing brace. -/
def bracedName : Nat → List Char → Parse (List Char)
  | 0, _ => refuse
  | fuel + 1, name => do
    let c ← advance
    if c = '\x7d' then
      bump
      return name.reverse
    else bracedName fuel (c :: name)

/-- The set of a property, its name or single letter being next. -/
def property? : Parse (Option CharSet) := do
  let c ← advance
  if c = '\x7b' then
    let name ← bracedName ((← get).rest.length + 1) []
    match cut? ['!', '='] name with
    | some (key, value) => return (Property.valued? key value).map CharSet.complement
    | none =>
      match cut? [':'] name with
      | some (key, value) => return Property.valued? key value
      | none =>
        match cut? ['='] name with
        | some (key, value) => return Property.valued? key value
        | none => return Property.named? name
  else if c = '\\' then refuse
  else
    advanceMaybe
    return Property.category? (Property.fold [c])

/-- The name of a special boundary, behind its opening brace. -/
def boundaryName : Nat → List Char → Parse (List Char)
  | 0, _ => refuse
  | fuel + 1, name => do
    match ← peek with
    | some c =>
      if c = '\x7d' then
        bump
        return name.reverse
      else if c.isAlpha || c = '-' then
        advanceMaybe
        boundaryName fuel (c :: name)
      else refuse
    | none => refuse

/-- A word boundary, and the special kinds that a name in braces selects. A brace that opens no
name is left for a repetition count. -/
def boundary (word : CharSet) : Parse Assertion := do
  if (← peek) != some '\x7b' then return .boundary word
  let here ← get
  let c ← advance
  if c.isAlpha || c = '-' then
    match String.ofList (← boundaryName ((← get).rest.length + 1) []) with
    | "start" => return .wordStart word
    | "end" => return .wordEnd word
    | "start-half" => return .wordStartHalf word
    | "end-half" => return .wordEndHalf word
    | _ => refuse
  else
    set here
    return .boundary word

/-- The word characters under the flags. -/
def wordSet (flags : Flags) : CharSet := shorthand flags.unicode 'w'

/-- What follows a backslash, which is next. -/
def escape : Parse Primitive := do
  bump
  let flags := (← get).flags
  match ← peek with
  | none => refuse
  | some c =>
    if c.isDigit then refuse
    else if c = 'x' ∨ c = 'u' ∨ c = 'U' then
      let width := if c = 'x' then 2 else if c = 'u' then 4 else 8
      return .literal (← hexChar width)
    else if c = 'p' ∨ c = 'P' then
      match ← property? with
      | none => refuse
      | some s =>
        if !flags.unicode then refuse
        let s := foldCase flags s
        if c = 'P' then return .set s.complement else return .set s
    else if c = 'd' ∨ c = 's' ∨ c = 'w' then
      bump
      return .set (shorthand flags.unicode c)
    else if c = 'D' ∨ c = 'S' ∨ c = 'W' then
      bump
      return .set (← negate flags (shorthand flags.unicode c.toLower))
    else
      bump
      if isEscapable c then return .literal c
      else
        match c with
        | 'a' => return .literal '\x07'
        | 'f' => return .literal '\x0C'
        | 't' => return .literal '\t'
        | 'n' => return .literal '\n'
        | 'r' => return .literal '\r'
        | 'v' => return .literal '\x0B'
        | 'A' => return .assertion .textStart
        | 'z' => return .assertion .textEnd
        | 'b' => return .assertion (← boundary (wordSet flags))
        | 'B' => return .assertion (.noBoundary (wordSet flags))
        | '<' => return .assertion (.wordStart (wordSet flags))
        | '>' => return .assertion (.wordEnd (wordSet flags))
        | _ => refuse

/-- A single sign outside a class. -/
def primitive (c : Char) : Parse Primitive := do
  let flags := (← get).flags
  match c with
  | '\\' => escape
  | '.' => bump; return .anyChar
  | '^' =>
    bump
    return .assertion (if flags.multiLine then
      if flags.crlf then .crlfLineStart else .lineStart else .textStart)
  | '$' =>
    bump
    return .assertion (if flags.multiLine then
      if flags.crlf then .crlfLineEnd else .lineEnd else .textEnd)
  | c => bump; return .literal c

/-- The expression of a single sign under the flags. -/
def Primitive.regex (flags : Flags) : Primitive → Parse Regex
  | .literal c =>
    if c.toNat ≥ 0x80 && !flags.unicode && flags.ignoreCase then pure (.char (.single c))
    else pure (.char (foldCase flags (.single c)))
  | .set s => pure (.char s)
  | .assertion a => pure (.assertion a)
  | .anyChar =>
    if !flags.unicode then refuse
    else if flags.dotAll then pure (.char .any)
    else if flags.crlf then
      pure (.char (CharSet.complement ⟨[(0xA, 0xA), (0xD, 0xD)]⟩))
    else pure (.char (CharSet.complement ⟨[(0xA, 0xA)]⟩))

/-- The set of a class item; a position cannot stand in a class. -/
def Primitive.items (flags : Flags) : Primitive → Parse CharSet
  | .literal c => if c.toNat ≥ 0x80 && !flags.unicode then refuse else pure (.single c)
  | .set s => pure s
  | _ => refuse

/-- One sign inside a class. -/
def classPrimitive : Parse Primitive := do
  match ← peek with
  | some '\\' => escape
  | some c => bump; return .literal c
  | none => refuse

/-- The next character behind ignored text after the current one. -/
def peekBehind : Parse (Option Char) := do
  let r ← get
  let rest := r.rest.tail
  return (if r.flags.extended then dropIgnored false rest else rest).head?

/-- One sign or a range. A hyphen before the end of the class or before another hyphen makes no
range. -/
def classRange : Parse CharSet := do
  let flags := (← get).flags
  let first ← classPrimitive
  skipIgnored
  match ← peek with
  | none => refuse
  | some c =>
    let behind ← peekBehind
    if c != '-' || behind = some ']' || behind = some '-' then first.items flags
    else
      let _ ← advance
      match first, ← classPrimitive with
      | .literal a, .literal b =>
        if a ≤ b && (flags.unicode || b.toNat < 0x80) then return .range a.toNat b.toNat else refuse
      | _, _ => refuse

/-- How two parts of a class are combined. -/
inductive SetOperation where
  | inter | difference | symmetricDifference

def SetOperation.apply : SetOperation → CharSet → CharSet → CharSet
  | .inter => CharSet.inter
  | .difference => CharSet.difference
  | .symmetricDifference => CharSet.symmetricDifference

/-- Combines what stands before an operation with what stands after it. -/
def combine (flags : Flags) (left : Option (SetOperation × CharSet)) (right : CharSet) : CharSet :=
  match left with
  | none => right
  | some (op, s) => op.apply (foldCase flags s) (foldCase flags right)

/-- A named class between `[:` and `:]`, if one stands here. -/
def namedClass : Parse (Option CharSet) := do
  let flags := (← get).flags
  let here ← get
  let restart : Parse (Option CharSet) := do
    set here
    return none
  if !(← take? ['[', ':']) then restart
  else
    let negated ← take? ['^']
    match cut? [':', ']'] (← get).rest with
    | none => restart
    | some (name, rest) =>
      if name.contains ':' then restart
      else
        match namedClass? name with
        | none => restart
        | some s =>
          modify fun r => { r with rest := rest }
          let s := foldCase flags s
          if negated then return some (← negate flags s) else return some s

/-- The opening of a class: whether it is negated, and the hyphens or the bracket that stand for
themselves there. -/
def classOpening : Parse (Bool × CharSet) := do
  let c ← advance
  let negated := c = '^'
  if negated then
    let _ ← advance
  let hyphens ← skipHyphens (← get).rest.length false
  if hyphens then return (negated, .single '-')
  else if (← peek) = some ']' then
    let _ ← advance
    return (negated, .single ']')
  else return (negated, .empty)
where
  skipHyphens : Nat → Bool → Parse Bool
    | 0, seen => return seen
    | fuel + 1, seen => do
      if (← peek) = some '-' then
        let _ ← advance
        skipHyphens fuel true
      else return seen

/-- A class behind its opening, and how deep classes nest in it. `left` waits for the operand
that `items` collects. -/
def classBody : Nat → Bool → Option (SetOperation × CharSet) → CharSet → Nat →
    Parse (CharSet × Nat)
  | 0, _, _, _, _ => refuse
  | fuel + 1, negated, left, items, depth => do
    skipIgnored
    let flags := (← get).flags
    match ← peek with
    | none => refuse
    | some '[' =>
      match ← namedClass with
      | some s => classBody fuel negated left (items.union s) depth
      | none =>
        let (innerNegated, first) ← classOpening
        let (s, inner) ← classBody fuel innerNegated none first 1
        classBody fuel negated left (items.union s) (max depth (inner + 1))
    | some ']' =>
      bump
      let s := foldCase flags (combine flags left items)
      return (← if negated then negate flags s else pure s, depth)
    | some _ =>
      if ← take? ['&', '&'] then
        classBody fuel negated (some (.inter, combine flags left items)) .empty depth
      else if ← take? ['-', '-'] then
        classBody fuel negated (some (.difference, combine flags left items)) .empty depth
      else if ← take? ['~', '~'] then
        classBody fuel negated (some (.symmetricDifference, combine flags left items)) .empty depth
      else classBody fuel negated left (items.union (← classRange)) depth

/-- A class from its opening bracket on, and how deep classes nest in it. -/
def bracketed : Parse (CharSet × Nat) := do
  let (negated, items) ← classOpening
  classBody ((← get).rest.length + 1) negated none items 1

/-- A part of a sequence: its expression, how deep it nests, and whether it can be repeated. -/
structure Item where
  regex : Regex
  depth : Nat
  repeatable : Bool

/-- The count in braces, the opening one being next. -/
def count : Parse (Nat × Option Nat) := do
  let _ ← advance
  let least ← decimal
  match ← peek with
  | some ',' =>
    if (← advance) = '\x7d' then return (least, none)
    else
      let most ← decimal
      if most < least then refuse else return (least, some most)
  | _ => return (least, some least)

/-- Goes past the question mark that makes a repetition lazy. -/
def skipLazy : Parse Unit := do
  let _ ← take? ['?']

def isNameChar (first : Bool) (c : Char) : Bool :=
  c = '_' || (Property.wordChars.contains c && c.toNat ≥ 0x80) || c.isAlpha ||
    (!first && (c.isDigit || c = '.' || c = '[' || c = ']'))

/-- A group name up to its closing angle bracket; no name is used twice. -/
def groupName : Parse Unit := do
  match cut? ['>'] (← get).rest with
  | none => refuse
  | some (name, rest) =>
    match name with
    | [] => refuse
    | c :: cs =>
      if isNameChar true c && cs.all (isNameChar false) && !(← get).names.contains name then
        modify fun r => { r with rest := rest, names := name :: r.names }
      else refuse

def setFlag (flags : Flags) (on : Bool) : Char → Option Flags
  | 'i' => some { flags with ignoreCase := on }
  | 'm' => some { flags with multiLine := on }
  | 's' => some { flags with dotAll := on }
  | 'U' => some flags
  | 'u' => some { flags with unicode := on }
  | 'R' => some { flags with crlf := on }
  | 'x' => some { flags with extended := on }
  | _ => none

/-- Flags up to a colon or a closing parenthesis, which is returned; no sign occurs twice and
none but a flag follows a minus. -/
def flagList : Nat → Flags → List Char → Parse (Flags × List Char × Char)
  | 0, _, _ => refuse
  | fuel + 1, flags, seen => do
    match ← peek with
    | none => refuse
    | some c =>
      bump
      if c = ':' ∨ c = ')' then
        if seen.head? = some '-' then refuse else return (flags, seen, c)
      else if seen.contains c then refuse
      else if c = '-' then flagList fuel flags (c :: seen)
      else
        match setFlag flags (!seen.contains '-') c with
        | some flags => flagList fuel flags (c :: seen)
        | none => refuse

/-- What a parenthesis opens: a group, or flags for the rest of the group around it. -/
inductive Opening where
  | group (flags : Flags)
  | flagsOnly (flags : Flags)

/-- Reads what follows an opening parenthesis up to the body of the group. -/
def groupOpening : Parse Opening := do
  bump
  skipIgnored
  let r ← get
  if ["?=", "?!", "?<=", "?<!"].any fun mark => (stripStart? mark.toList r.rest).isSome then refuse
  else if ← take? "?P<".toList then
    groupName
    return .group r.flags
  else if ← take? "?<".toList then
    groupName
    return .group r.flags
  else if ← take? ['?'] then
    let (flags, seen, ending) ← flagList (r.rest.length + 1) r.flags []
    if ending = ':' then return .group flags
    else if seen.isEmpty then refuse
    else return .flagsOnly flags
  else return .group r.flags

def depthOf (items : List Item) : Nat :=
  items.foldl (fun d i => max d i.depth) 0

/-- A finished sequence. Items are held in reverse order. -/
def sequence (items : List Item) : Item :=
  let depth := match items with
    | [] => 0
    | [i] => i.depth
    | _ => depthOf items + 1
  ⟨seqAll (items.reverse.map Item.regex), depth, true⟩

/-- Finished alternatives, the last one first. -/
def alternatives (branches : List Item) : Item :=
  match branches with
  | [] => ⟨.empty, 0, true⟩
  | [b] => b
  | last :: earlier =>
    ⟨earlier.foldl (fun acc b => .alt b.regex acc) last.regex, depthOf branches + 1, true⟩

/-- The body of a group up to its closing parenthesis or the end of the pattern. -/
def body : Nat → List Item → List Item → Parse Item
  | 0, _, _ => refuse
  | fuel + 1, branches, items => do
    skipIgnored
    let repetition (least : Nat) (most : Option Nat) : Parse Item := do
      match items with
      | [] => refuse
      | i :: earlier =>
        if i.repeatable then
          body fuel branches (⟨.repeated i.regex least most, i.depth + 1, true⟩ :: earlier)
        else refuse
    match ← peek with
    | none => return alternatives (sequence items :: branches)
    | some ')' => return alternatives (sequence items :: branches)
    | some '|' =>
      bump
      body fuel (sequence items :: branches) []
    | some '(' =>
      let outer := (← get).flags
      match ← groupOpening with
      | .flagsOnly flags =>
        modify fun r => { r with flags := flags }
        body fuel branches (⟨.empty, 0, false⟩ :: items)
      | .group flags =>
        modify fun r => { r with flags := flags }
        let inner ← body fuel [] []
        if !(← take? [')']) then refuse
        modify fun r => { r with flags := outer }
        body fuel branches (⟨inner.regex, inner.depth + 1, true⟩ :: items)
    | some '[' =>
      let (s, depth) ← bracketed
      body fuel branches (⟨.char s, depth, true⟩ :: items)
    | some '?' => bump; skipLazy; repetition 0 (some 1)
    | some '*' => bump; skipLazy; repetition 0 none
    | some '+' => bump; skipLazy; repetition 1 none
    | some '\x7b' =>
      if !(items.head?.any Item.repeatable) then refuse
      let (least, most) ← count
      if (← peek) != some '\x7d' then refuse
      advanceMaybe
      skipLazy
      repetition least most
    | some c =>
      let r ← (← primitive c).regex (← get).flags
      body fuel branches (⟨r, 0, true⟩ :: items)

/-- How deep groups, repetitions and classes may nest. -/
def nestLimit : Nat := 250

/-- The memory that a compiled expression may take. -/
def sizeLimit : Nat := 10 * 0x100000

/-- An estimate of the memory that an automaton for the expression takes. -/
def weight : Regex → Nat
  | .empty => 0
  | .char s =>
    match s.ranges with
    | [(a, b)] => if a = b then 32 * (Char.ofNat a).utf8Size else if b < 0x80 then 32 else 224
    | rs => if rs.all fun r => r.2 < 0x80 then 32 + 8 * rs.length else 100 + 62 * rs.length
  | .assertion _ => 32
  | .seq a b => weight a + weight b
  | .alt a b => weight a + weight b + 40
  | .repeated r least most => (weight r + 40) * max 1 (max least (most.getD 0))

/-- The expression that a pattern writes. -/
def parse (pattern : List Char) : Except Error Regex :=
  match (body (4 * pattern.length + 8) [] []).run ⟨pattern, .initial, []⟩ with
  | some (item, r) =>
    if !r.rest.isEmpty || item.depth > nestLimit then .error .malformed
    else if weight item.regex > sizeLimit then .error .tooBig
    else .ok item.regex
  | none => .error .malformed

end ResultLint.Regex.Pattern
