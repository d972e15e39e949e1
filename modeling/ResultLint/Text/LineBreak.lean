import ResultLint.Unicode.BreakClass

/-!
Where a line of text may be broken, by the rules of the Unicode standard: at the end of blanks,
behind hyphens and between ideographs, but not before closing marks nor inside words and numbers.
-/
namespace ResultLint.Text.LineBreak

open Unicode

/-- What the rules remember of the text before a place. -/
structure Before where
  /-- The class of the last character that is no blank; marks belong to what they stand on. -/
  last : BreakClass
  /-- Whether blanks follow it. -/
  blanks : Bool
  /-- Whether the very last character joins the next one to it. -/
  joined : Bool
  /-- Whether the last character is a hyphen right behind a Hebrew letter. -/
  hebrewHyphen : Bool
  /-- Whether the regional letters at the end are odd in number, one of them without its pair. -/
  unpaired : Bool
  deriving DecidableEq, Repr

namespace Before

/-- Classes that end a line of themselves. -/
def isHard (c : BreakClass) : Bool :=
  [.mandatory, .carriageReturn, .lineFeed, .nextLine].contains c

def isMark (c : BreakClass) : Bool :=
  c = .mark ∨ c = .zeroWidthJoiner

/-- Whether a mark behind this text belongs to its last character. -/
def carriesMarks (b : Before) : Bool :=
  !b.blanks && !isHard b.last && b.last != .zeroWidthSpace

/-- A text of one character. -/
def ofFirst (c : BreakClass) : Before where
  last := if isMark c then .letter else c
  blanks := c = .space
  joined := c = .zeroWidthJoiner
  hebrewHyphen := false
  unpaired := c = .regional

/-- The text with one more character. -/
def add (b : Before) (c : BreakClass) : Before :=
  if c = .space then { b with blanks := true, joined := false }
  else if isMark c && b.carriesMarks then { b with joined := c = .zeroWidthJoiner }
  else
    { ofFirst c with
      hebrewHyphen := !b.blanks && b.last = .hebrew && (c = .hyphen || c = .after)
      unpaired := c = .regional && !(b.unpaired && !b.blanks) }

def isWordLetter (c : BreakClass) : Bool :=
  c = .letter ∨ c = .hebrew

def isPicture (c : BreakClass) : Bool :=
  [.ideograph, .emoji, .emojiModifier].contains c

def isSyllable (c : BreakClass) : Bool :=
  [.leadingJamo, .vowelJamo, .trailingJamo, .openSyllable, .closedSyllable].contains c

/-- Parts of numbers that stay together, signs before and behind them among these. -/
def inNumber : BreakClass → BreakClass → Bool
  | .closing, .numberAfter | .closing, .numberBefore => true
  | .closingParenthesis, .numberAfter | .closingParenthesis, .numberBefore => true
  | .digit, .numberAfter | .digit, .numberBefore | .digit, .digit => true
  | .numberAfter, .opening | .numberAfter, .wideOpening | .numberAfter, .digit => true
  | .numberBefore, .opening | .numberBefore, .wideOpening | .numberBefore, .digit => true
  | .hyphen, .digit | .separator, .digit | .slash, .digit => true
  | _, _ => false

/-- Parts of one Hangul syllable. -/
def inSyllable : BreakClass → BreakClass → Bool
  | .leadingJamo, c => isSyllable c && c != .trailingJamo
  | .vowelJamo, c | .openSyllable, c => c = .vowelJamo || c = .trailingJamo
  | .trailingJamo, c | .closedSyllable, c => c = .trailingJamo
  | _, _ => false

/-- Neighbours that stay together, with nothing between them. -/
def sticks (b : Before) (next : BreakClass) : Bool :=
  let last := b.last
  if last = .quotation || next = .quotation then true
  else if last = .contingent || next = .contingent then false
  else
    [BreakClass.after, .hyphen, .nonStarter, .inseparable].contains next || last = .before ||
    b.hebrewHyphen || (last = .slash && next = .hebrew) ||
    (isWordLetter last && next = .digit) || (last = .digit && isWordLetter next) ||
    (last = .numberBefore && (isPicture next || isSyllable next)) ||
    ((isPicture last || isSyllable last) && next = .numberAfter) ||
    ((last = .numberBefore || last = .numberAfter) && isWordLetter next) ||
    (isWordLetter last && (next = .numberBefore || next = .numberAfter)) ||
    inNumber last next || inSyllable last next ||
    ((isWordLetter last || last = .separator) && isWordLetter next) ||
    ((isWordLetter last || last = .digit) && next = .opening) ||
    (last = .closingParenthesis && (isWordLetter next || next = .digit)) ||
    (last = .regional && next = .regional && b.unpaired) ||
    (last = .emoji && next = .emojiModifier)

/-- Pairs that stay together even with blanks between them. -/
def sticksOverBlanks : BreakClass → BreakClass → Bool
  | .opening, _ | .wideOpening, _ => true
  | .quotation, .opening | .quotation, .wideOpening => true
  | .closing, .nonStarter | .closingParenthesis, .nonStarter => true
  | .dash, .dash => true
  | _, _ => false

/-- Whether a line may end between a text and a character behind it. -/
def allows (b : Before) (character : BreakClass) : Bool :=
  let last := b.last
  let next := if isMark character then .letter else character
  if isHard last && !b.blanks then !(last = .carriageReturn && character = .lineFeed)
  else if isHard character || character = .space || character = .zeroWidthSpace then false
  else if last = .zeroWidthSpace then true
  else if b.joined || (isMark character && b.carriesMarks) || next = .wordJoiner then false
  else if !b.blanks && (last = .wordJoiner || last = .glue) then false
  else if !b.blanks && next = .glue && last != .after && last != .hyphen then false
  else if [BreakClass.closing, .closingParenthesis, .exclamation, .separator, .slash].contains
      next then false
  else if sticksOverBlanks last next then false
  else b.blanks || !b.sticks next

end Before

/-- Whether a line may end before each of some characters that follow a text. -/
def behind (b : Before) : List BreakClass → List Bool
  | [] => []
  | c :: cs => b.allows c :: behind (b.add c) cs

/-- Whether a line may end before each character of a text; never before its first one. -/
def places (s : List Char) : List Bool :=
  match s.map BreakClass.ofChar with
  | [] => []
  | c :: cs => false :: behind (.ofFirst c) cs

end ResultLint.Text.LineBreak
