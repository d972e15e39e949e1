import ResultLint.Source.Trivia
import ResultLint.Text.Search

/-!
Tokens. A terminal is recognised at the beginning of a text and takes as much of it as its form
allows. What a word means depends on where it stands, so words are not divided into identifiers
and keywords here.
-/
namespace ResultLint.Source

/-- A piece of text that a grammar treats as a unit. -/
inductive Terminal where
  /-- Exactly this word. -/
  | word (text : String)
  /-- Any word but these. -/
  | wordExcept (reserved : List String)
  /-- A name behind a number sign. -/
  | privateName
  | number
  | string
  /-- A regular expression with its flags. -/
  | regex
  /-- Exactly these signs, whatever follows. -/
  | signs (text : String)
  /-- The longest operator that stands here, if it is one of these. -/
  | operator (texts : List String)
  /-- A question mark that does not belong to an optional parameter or to optional chaining. -/
  | questionMark
  /-- Template text up to a quote or a substitution. -/
  | templateText
  /-- Text between the tags of an element. -/
  | elementText
  /-- The name of an element or attribute, which may hold hyphens. -/
  | elementName
  /-- The quoted value of an attribute. -/
  | attributeText
  deriving Repr

namespace Terminal

/-- A recognised piece and what follows it. -/
abbrev Match := List Char × List Char

/-- Signs that never are part of a word. -/
def isSign (c : Char) : Bool :=
  ":;\x60\"'@#.,|^&<=>+-*/\\%?!~()[]\x7b\x7d".toList.contains c

def isWordChar (c : Char) : Bool :=
  0x20 ≤ c.toNat && !isSpacing c && !isSign c

def isHexDigit (c : Char) : Bool :=
  c.isDigit || ('a' ≤ c && c ≤ 'f') || ('A' ≤ c && c ≤ 'F')

/-- Puts characters before a match. -/
def Match.push (cs : List Char) (m : Match) : Match := (cs ++ m.1, m.2)

/-- The characters of a word. Escapes count as characters; `braced` says that one is open. -/
def wordChars (braced : Bool) : List Char → Match
  | '\\' :: 'u' :: '\x7b' :: d :: cs =>
    if !braced && isHexDigit d then Match.push ['\\', 'u', '\x7b', d] (wordChars true cs)
    else ([], '\\' :: 'u' :: '\x7b' :: d :: cs)
  | '\\' :: 'u' :: a :: b :: c :: d :: cs =>
    if !braced && [a, b, c, d].all isHexDigit then
      Match.push ['\\', 'u', a, b, c, d] (wordChars false cs)
    else ([], '\\' :: 'u' :: a :: b :: c :: d :: cs)
  | [] => ([], [])
  | c :: cs =>
    if braced then
      if isHexDigit c then Match.push [c] (wordChars true cs)
      else if c = '\x7d' then Match.push [c] (wordChars false cs)
      else ([], c :: cs)
    else if isWordChar c then Match.push [c] (wordChars false cs)
    else ([], c :: cs)

/-- A word: no digit begins it. -/
def anyWord (s : List Char) : Option Match :=
  let m := wordChars false s
  match m.1 with
  | [] => none
  | c :: _ => if c.isDigit then none else some m

/-- Digits with single underscores between them. -/
def digits (p : Char → Bool) : List Char → Match
  | '_' :: d :: cs => if p d then Match.push ['_', d] (digits p cs) else ([], '_' :: d :: cs)
  | [] => ([], [])
  | c :: cs => if p c then Match.push [c] (digits p cs) else ([], c :: cs)

/-- Digits of which the first is no underscore. -/
def digits? (p : Char → Bool) (s : List Char) : Option Match :=
  match s with
  | c :: _ => if p c then some (digits p s) else none
  | [] => none

/-- An exponent, if one stands here. -/
def exponent (s : List Char) : Match :=
  match s with
  | e :: cs =>
    if e = 'e' ∨ e = 'E' then
      match cs with
      | sign :: ds =>
        if sign = '+' ∨ sign = '-' then
          match digits? Char.isDigit ds with
          | some m => m.push [e, sign]
          | none => ([], s)
        else
          match digits? Char.isDigit cs with
          | some m => m.push [e]
          | none => ([], s)
      | [] => ([], s)
    else ([], s)
  | [] => ([], [])

/-- The mark of a big integer, if it stands here. -/
def bigMark (m : Match) : Match :=
  match m.2 with
  | 'n' :: cs => (m.1 ++ ['n'], cs)
  | _ => m

/-- Digits after a letter that gives their base. -/
def based (zero letter : Char) (p : Char → Bool) (cs : List Char) : Option Match :=
  (digits? p cs).map fun m => bigMark (m.push [zero, letter])

def decimal (s : List Char) : Option Match :=
  match s with
  | '.' :: cs =>
    (digits? Char.isDigit cs).map fun m => (exponent m.2).push ('.' :: m.1)
  | _ =>
    (digits? Char.isDigit s).map fun whole =>
      match whole.2 with
      | '.' :: cs =>
        let fraction := (digits? Char.isDigit cs).getD ([], cs)
        (exponent fraction.2).push (whole.1 ++ '.' :: fraction.1)
      | rest =>
        let power := exponent rest
        if power.1.isEmpty then bigMark whole else power.push whole.1

def numberLiteral (s : List Char) : Option Match :=
  match s with
  | '0' :: letter :: cs =>
    let other := match letter.toLower with
      | 'x' => based '0' letter isHexDigit cs
      | 'b' => based '0' letter (fun c => c == '0' || c == '1') cs
      | 'o' => based '0' letter (fun c => '0' ≤ c && c ≤ '7') cs
      | _ => none
    other <|> decimal s
  | _ => decimal s

/-- An escape behind its backslash: how many characters it has, if it is one. A code point in
braces is left open after its first digit. -/
def escapeLength? (s : List Char) : Option Nat :=
  match s with
  | 'x' :: a :: b :: _ => if isHexDigit a && isHexDigit b then some 3 else none
  | 'u' :: '\x7b' :: cs =>
    let ds := cs.takeWhile isHexDigit
    if !ds.isEmpty && (cs.drop ds.length).head? = some '\x7d' then some (ds.length + 3) else none
  | 'u' :: a :: b :: c :: d :: _ => if [a, b, c, d].all isHexDigit then some 5 else none
  | '\r' :: '\n' :: _ => some 2
  | c :: _ => if c = 'x' ∨ c = 'u' then none else some 1
  | [] => none

/-- Text with escapes up to a stop, which is not taken; none if it runs into a character that is
refused or an escape that is none. `skip` counts the characters of an escape still to be
taken. -/
def escapedText (stop : List Char → Bool) (refused : Char → Bool) (skip : Nat) :
    List Char → Option Match
  | [] => none
  | c :: cs =>
    if skip ≠ 0 then (escapedText stop refused (skip - 1) cs).map (Match.push [c])
    else if stop (c :: cs) then some ([], c :: cs)
    else if c = '\\' then
      match escapeLength? cs with
      | some n => (escapedText stop refused n cs).map (Match.push [c])
      | none => none
    else if refused c then none
    else (escapedText stop refused 0 cs).map (Match.push [c])

def isLineBreak (c : Char) : Bool :=
  c == '\n' || c == '\r'

def stringLiteral (s : List Char) : Option Match :=
  match s with
  | q :: cs =>
    if q = '"' ∨ q = '\'' then
      match escapedText (fun r => r.head? == some q) isLineBreak 0 cs with
      | some (body, _ :: rest) => some (q :: body ++ [q], rest)
      | _ => none
    else none
  | [] => none

/-- The body of a regular expression; a slash inside brackets does not end it. -/
def regexBody (bracketed : Bool) : List Char → Option Match
  | [] => none
  | '\\' :: c :: cs =>
    if c = '\n' then none else (regexBody bracketed cs).map (Match.push ['\\', c])
  | c :: cs =>
    if c = '\n' then none
    else if bracketed then (regexBody (c != ']') cs).map (Match.push [c])
    else if c = '/' then some ([], c :: cs)
    else (regexBody (c = '[') cs).map (Match.push [c])

def regexLiteral (s : List Char) : Option Match :=
  match s with
  | '/' :: cs =>
    match regexBody false cs with
    | some ([], _) => none
    | some (body, _ :: rest) =>
      let flags := rest.takeWhile fun c => 'a' ≤ c && c ≤ 'z'
      some ('/' :: body ++ '/' :: flags, rest.drop flags.length)
    | _ => none
  | _ => none

/-- Every operator and punctuation mark that has more than one sign, the longest first. -/
def operators : List String :=
  [">>>=", "...", "===", "!==", "**=", "<<=", ">>=", ">>>", "&&=", "||=", "??=", "=>", "==", "!=",
   "<=", ">=", "&&", "||", "??", "++", "--", "+=", "-=", "*=", "/=", "%=", "&=", "|=", "^=", "<<",
   ">>", "**", "?."]

/-- The operator that stands here: the longest with several signs, else a single sign. -/
def operatorHere (s : List Char) : Option Match :=
  let long := operators.findSome? fun text =>
    (Text.stripStart? text.toList s).map fun rest => (text.toList, rest)
  long <|> match s with
    | c :: cs => if isSign c then some ([c], cs) else none
    | [] => none

/-- Drops white space. -/
def afterSpacing (s : List Char) : List Char :=
  s.dropWhile Text.isBlank

def questionMarkHere (s : List Char) : Option Match :=
  match s with
  | '?' :: cs =>
    match cs with
    | '?' :: _ => none
    | '.' :: d :: _ => if d.isDigit then some (['?'], cs) else none
    | _ =>
      match afterSpacing cs with
      | c :: _ => if c = ':' ∨ c = ')' ∨ c = ',' then none else some (['?'], cs)
      | [] => some (['?'], cs)
  | _ => none

/-- Template text is not empty. -/
def templateTextHere (s : List Char) : Option Match :=
  let stop (r : List Char) : Bool := match r with
    | '\x60' :: _ => true
    | '$' :: '\x7b' :: _ => true
    | _ => false
  match escapedText stop (fun _ => false) 0 s with
  | some (c :: cs, rest) => some (c :: cs, rest)
  | _ => none

/-- A character reference between an ampersand and a semicolon. -/
def isReference (s : List Char) : Bool :=
  let body := s.takeWhile (· != ';')
  body.length < s.length &&
    match body with
    | '#' :: x :: ds =>
      if x = 'x' ∨ x = 'X' then !ds.isEmpty && ds.length ≤ 6 && ds.all isHexDigit
      else ds.length ≤ 4 && (x :: ds).all Char.isDigit
    | ds => !ds.isEmpty && ds.length ≤ 30 && ds.all Char.isAlpha

/-- Text between tags: no braces, no angle brackets, and ampersands only in references. -/
def elementTextHere : List Char → Match
  | [] => ([], [])
  | c :: cs =>
    if c = '<' ∨ c = '>' ∨ c = '\x7b' ∨ c = '\x7d' then ([], c :: cs)
    else if c = '&' ∧ isReference cs = false then ([], c :: cs)
    else Match.push [c] (elementTextHere cs)

def elementNameHere (s : List Char) : Option Match :=
  match anyWord s with
  | none => none
  | some _ =>
    let name := s.takeWhile fun c => isWordChar c || c == '-'
    some (name, s.drop name.length)

def attributeTextHere (s : List Char) : Option Match :=
  match s with
  | q :: cs =>
    if q = '"' ∨ q = '\'' then
      let body := cs.takeWhile (· != q)
      if body.length < cs.length then some (q :: body ++ [q], cs.drop (body.length + 1)) else none
    else none
  | [] => none

/-- Recognises a terminal at the beginning of a text. -/
def read (t : Terminal) (s : List Char) : Option Match :=
  match t with
  | .word text => (anyWord s).filter fun m => m.1 == text.toList
  | .wordExcept reserved => (anyWord s).filter fun m => !reserved.contains (String.ofList m.1)
  | .privateName =>
    match s with
    | '#' :: cs => (anyWord cs).map (Match.push ['#'])
    | _ => none
  | .number => numberLiteral s
  | .string => stringLiteral s
  | .regex => regexLiteral s
  | .signs text => (Text.stripStart? text.toList s).map fun rest => (text.toList, rest)
  | .operator texts => (operatorHere s).filter fun m => texts.contains (String.ofList m.1)
  | .questionMark => questionMarkHere s
  | .templateText => templateTextHere s
  | .elementText => match elementTextHere s with
    | ([], _) => none
    | m => some m
  | .elementName => elementNameHere s
  | .attributeText => attributeTextHere s

end Terminal

end ResultLint.Source
