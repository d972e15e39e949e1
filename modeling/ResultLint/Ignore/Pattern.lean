import ResultLint.Regex.Basic
import ResultLint.Text.Utf8

/-!
Patterns of ignore files. `?` and `*` stay within one component of a path, `**` as a component
stands for directories, brackets stand for one byte among some, braces hold alternatives, and a
backslash takes the next character as it is. A pattern is matched against the bytes of a path.
-/
namespace ResultLint.Ignore

namespace Pattern

inductive Token where
  | char (c : Char)
  | anyByte
  | anyName
  /-- Any directories in front, or none. -/
  | anywhere
  /-- Everything below the directory in front. -/
  | contents
  /-- Any directories between two components, or none. -/
  | between
  | oneOf (negated : Bool) (ranges : List (Char × Char))
  | choice (branches : List (List Token))
  deriving Repr

/-- Reading brackets: the ranges so far in reverse order, and whether a hyphen is pending. -/
structure Ranges where
  done : List (Char × Char)
  pending : Bool

/-- Adds a character between brackets; none if it ends a range that starts behind it. -/
def Ranges.add? (r : Ranges) (c : Char) : Option Ranges :=
  match r.pending, r.done with
  | true, (first, _) :: before => if first ≤ c then some ⟨(first, c) :: before, false⟩ else none
  | _, done => some ⟨(c, c) :: done, false⟩

/-- What brackets are. -/
inductive Bracket where
  | closed (ranges : List (Char × Char)) (rest : List Char)
  /-- Without a closing bracket, the opening one stands for itself. -/
  | unclosed
  | outOfOrder

/-- The rest of brackets, the first character behind them or behind the negation apart. -/
def ranges : Ranges → List Char → Bracket
  | _, [] => .unclosed
  | r, c :: rest =>
    if c = ']' then .closed (if r.pending then ('-', '-') :: r.done else r.done) rest
    else if c = '-' ∧ ¬ r.pending then ranges { r with pending := true } rest
    else
      match r.add? c with
      | some r => ranges r rest
      | none => .outOfOrder

/-- The brackets behind an opening one: whether they are negated, and what they are. -/
def bracket (s : List Char) : Bool × Bracket :=
  let (negated, body) := match s with
    | '!' :: body | '^' :: body => (true, body)
    | body => (false, body)
  match body with
  | [] => (negated, .unclosed)
  | c :: rest => (negated, ranges ⟨[(c, c)], false⟩ rest)

/-- Reading a pattern: the tokens of the current branch in reverse order, the braces that are
open, each with its finished branches and the tokens before it, and whether a bracket was found
that is never closed. -/
structure State where
  branch : List Token
  braces : List (List (List Token) × List Token)
  unclosed : Bool

def State.push (s : State) (t : Token) : State := { s with branch := t :: s.branch }

/-- Two stars: what they stand for depends on what is on both sides. Gives the text behind. -/
def State.stars (s : State) (before : Option Char) (rest : List Char) : State × List Char :=
  let plain := (s.push .anyName).push .anyName
  if s.branch.isEmpty then
    match rest with
    | [] => (s.push .anywhere, [])
    | '/' :: more => (s.push .anywhere, more)
    | _ => (plain, rest)
  else if before != some '/' &&
      (s.braces.isEmpty || (before != some ',' && before != some '\x7b')) then
    (plain, rest)
  else
    let replace (t : Token) : State :=
      match s.branch with
      | .anywhere :: _ | .contents :: _ => s
      | _ :: earlier => { s with branch := t :: earlier }
      | [] => s.push t
    match rest with
    | [] => (replace .contents, [])
    | '/' :: more => (replace .between, more)
    | c :: _ =>
      if (c = ',' ∨ c = '\x7d') ∧ ¬ s.braces.isEmpty then (replace .contents, rest)
      else (plain, rest)

/-- The tokens of a pattern; none if it is not well formed. -/
def scan : Nat → State → Option Char → List Char → Option (List Token)
  | 0, _, _, _ => none
  | _, s, _, [] => if s.braces.isEmpty then some s.branch.reverse else none
  | fuel + 1, s, before, c :: rest =>
    let plain := scan fuel (s.push (.char c)) (some c) rest
    if c = '?' then scan fuel (s.push .anyByte) (some c) rest
    else if c = '*' then
      match rest with
      | '*' :: more =>
        let (s, behind) := s.stars before more
        scan fuel s (if behind.length < more.length then some '/' else some '*') behind
      | _ => scan fuel (s.push .anyName) (some c) rest
    else if c = '[' ∧ ¬ s.unclosed then
      match bracket rest with
      | (negated, .closed found behind) =>
        scan fuel (s.push (.oneOf negated found)) (some ']') behind
      | (_, .unclosed) => scan fuel { s.push (.char c) with unclosed := true } (some c) rest
      | (_, .outOfOrder) => none
    else if c = '\x7b' then
      scan fuel { s with branch := [], braces := ([], s.branch) :: s.braces } (some c) rest
    else if c = '\x7d' then
      match s.braces with
      | [] => none
      | (done, earlier) :: outer =>
        let branches := done ++ [s.branch.reverse]
        scan fuel { s with branch := .choice branches :: earlier, braces := outer } (some c) rest
    else if c = ',' then
      match s.braces with
      | [] => plain
      | (done, earlier) :: outer =>
        scan fuel
          { s with branch := [], braces := (done ++ [s.branch.reverse], earlier) :: outer }
          (some c) rest
    else if c = '\\' then
      match rest with
      | [] => none
      | d :: more => scan fuel (s.push (.char d)) (some d) more
    else plain

def parse (s : List Char) : Option (List Token) :=
  scan (s.length + 1) ⟨[], [], false⟩ none s

/-- A byte as the character of the same number. -/
def ofByte (b : UInt8) : Char := Char.ofNat b.toNat

/-- The bytes of a text, each as a character. -/
def bytes (s : List Char) : List Char := (Text.encode s).map ofByte

/-- Any byte but the slash. -/
def nameByte : Unicode.CharSet := (Unicode.CharSet.single '/').complement

def anyText : Regex := .repeated (.char .any) 0 none

def slash : Regex := .char (.single '/')

/-- The bytes that a range stands for: those of both ends, and between the last one of its first
end and the first one of its last end all others. -/
def rangeSet (first last : Char) : Unicode.CharSet :=
  let a := (bytes [first]).map Char.toNat
  let b := (bytes [last]).map Char.toNat
  if first = last then .ofRanges (a.map fun n => (n, n))
  else
    .ofRanges ((a.dropLast.map fun n => (n, n)) ++ [(a.getLast?.getD 0, b.head?.getD 0)] ++
      (b.tail.map fun n => (n, n)))

mutual

/-- The expression of a token; none if it stands for the empty text only. -/
def tokenRegex : Token → Option Regex
  | .char c => some (Regex.literal (bytes [c]))
  | .anyByte => some (.char nameByte)
  | .anyName => some (.repeated (.char nameByte) 0 none)
  | .anywhere => some (.alt (.repeated slash 0 (some 1)) (.seq anyText slash))
  | .contents => some (.seq slash anyText)
  | .between => some (.alt slash (.seq slash (.seq anyText slash)))
  | .oneOf negated ranges =>
    let set := ranges.foldl (fun set (first, last) => set.union (rangeSet first last)) .empty
    some (.char (if negated then set.complement else set))
  | .choice branches => branchesRegex branches

/-- The expression of tokens in a row. -/
def tokensRegex : List Token → Option Regex
  | [] => none
  | t :: ts =>
    match tokenRegex t, tokensRegex ts with
    | some r, some rest => some (.seq r rest)
    | some r, none => some r
    | none, rest => rest

/-- The expression of alternatives; empty ones do not count. -/
def branchesRegex : List (List Token) → Option Regex
  | [] => none
  | b :: bs =>
    match tokensRegex b, branchesRegex bs with
    | some r, some rest => some (.alt r rest)
    | some r, none => some r
    | none, rest => rest

end

/-- The expression of a whole pattern. Directories alone stand for everything. -/
def regex (tokens : List Token) : Regex :=
  let body := match tokens with
    | [.anywhere] => anyText
    | _ => (tokensRegex tokens).getD .empty
  .seq (.assertion .textStart) (.seq body (.assertion .textEnd))

end Pattern

end ResultLint.Ignore
