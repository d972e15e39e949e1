import ResultLint.Proofs.Source.Extent

/-!
How members of classes and objects are named: by a word, a private word, a string, a number or an
expression in brackets. The first character of a name tells its form, and the form whether the name
is a key and whether it spells the constructor.
-/
namespace ResultLint.Source

open Text

/-- A word as it is read somewhere. -/
def IsWord (word : List Char) : Prop :=
  ∃ rest, Terminal.anyWord (word ++ rest) = some (word, rest)

/-- The name of a member as it is spelled. -/
inductive MemberName where
  | identifier (word : List Char) (isWord : IsWord word)
  | privateName (word : List Char) (isWord : IsWord word)
  | string (quote : Char) (body : List Char) (isQuote : quote = '"' ∨ quote = '\'')
  | number (first : Char) (more : List Char) (isNumeric : first.isDigit = true ∨ first = '.')
  | computed (inner : List Char)

namespace MemberName

def text : MemberName → List Char
  | .identifier word _ => word
  | .privateName word _ => '#' :: word
  | .string quote body _ => quote :: body ++ [quote]
  | .number first more _ => first :: more
  | .computed inner => '[' :: inner

/-- The key that a name is, if it is one: a word as it is spelled, a private one without the number
sign. -/
def key? : MemberName → Option String
  | .identifier word _ | .privateName word _ => some (String.ofList word)
  | _ => none

/-- The kind of node that a name is read into. -/
def kind : MemberName → Kind
  | .identifier _ _ => .propertyName
  | .privateName _ _ => .privateName
  | .string _ _ _ => .string
  | .number _ _ _ | .computed _ => .other

/-- The names that a constructor can have. -/
def constructors : List (List Char) :=
  ["constructor".toList, "#constructor".toList, "'constructor'".toList, "\"constructor\"".toList]

end MemberName

/-- A word begins with a character of words or with an escape. -/
theorem Terminal.wordChars_first (s : List Char) (c : Char) (cs : List Char)
    (taken : (wordChars false s).1 = c :: cs) : c = '\\' ∨ isWordChar c = true := by
  unfold wordChars at taken
  split at taken
  · split at taken
    · exact .inl (List.cons.inj taken).1.symm
    · cases taken
  · split at taken
    · exact .inl (List.cons.inj taken).1.symm
    · cases taken
  · cases taken
  · simp only [Bool.false_eq_true, if_false] at taken
    split at taken
    · next letter =>
      cases taken
      exact .inr letter
    · cases taken

/-- A word begins neither with a digit nor with a sign that begins another form of name. -/
theorem first_of_isWord (word : List Char) (isWord : IsWord word) :
    ∃ c cs, word = c :: cs ∧ c.isDigit = false ∧ c ∉ ['#', '"', '\'', '.', '['] := by
  obtain ⟨rest, read⟩ := isWord
  unfold Terminal.anyWord at read
  dsimp only at read
  split at read
  · cases read
  · next c cs first =>
    split at read
    · cases read
    · next digit =>
      rw [Option.some.inj read] at first
      refine ⟨c, cs, first, by simpa using digit, ?_⟩
      have signs : ∀ d ∈ ['#', '"', '\'', '.', '['],
          d ≠ '\\' ∧ Terminal.isWordChar d = false :=
        List.forall_iff_forall_mem.mp (by decide)
      intro sign
      have begins := Terminal.wordChars_first _ c cs
        ((congrArg Prod.fst (Option.some.inj read)).trans first)
      rcases begins with escape | letter
      · exact (signs c sign).1 escape
      · rw [(signs c sign).2] at letter
        cases letter

namespace MemberName

/-- The kind of node that a name with this first character is read into. -/
def kindOfFirst (c : Char) : Kind :=
  if c = '#' then .privateName
  else if c = '"' ∨ c = '\'' then .string
  else if c.isDigit ∨ c = '.' ∨ c = '[' then .other
  else .propertyName

theorem kind_eq_of_first (name : MemberName) :
    ∃ c cs, name.text = c :: cs ∧ name.kind = kindOfFirst c := by
  cases name with
  | identifier word isWord =>
    obtain ⟨c, cs, rfl, noDigit, noSign⟩ := first_of_isWord word isWord
    simp only [List.mem_cons, List.not_mem_nil, or_false, not_or] at noSign
    exact ⟨c, cs, rfl, by simp [kindOfFirst, kind, noDigit, noSign]⟩
  | privateName word isWord => exact ⟨_, _, rfl, rfl⟩
  | string quote body isQuote => rcases isQuote with rfl | rfl <;> exact ⟨_, _, rfl, rfl⟩
  | number first more isNumeric =>
    refine ⟨_, _, rfl, ?_⟩
    rcases isNumeric with digit | rfl
    · have other : ∀ d ∈ ['#', '"', '\''], d.isDigit = false :=
        List.forall_iff_forall_mem.mp (by decide)
      have apart (d : Char) (listed : d ∈ ['#', '"', '\'']) : first ≠ d := by
        rintro rfl
        rw [other first listed] at digit
        cases digit
      simp [kindOfFirst, kind, digit, apart '#' (by decide), apart '"' (by decide),
        apart '\'' (by decide)]
    · rfl
  | computed inner => exact ⟨_, _, rfl, rfl⟩

theorem kind_eq_of_text (m n : MemberName) (same : m.text = n.text) : m.kind = n.kind := by
  obtain ⟨c, cs, left, kind⟩ := m.kind_eq_of_first
  obtain ⟨d, ds, right, kind'⟩ := n.kind_eq_of_first
  rw [left, right] at same
  rw [kind, kind', (List.cons.inj same).1]

theorem first_ne_bracket (first : Char) (isNumeric : first.isDigit = true ∨ first = '.') :
    first ≠ '[' := by
  rintro rfl
  revert isNumeric
  decide

/-- A name is known by its text. -/
theorem eq_of_text (m n : MemberName) (same : m.text = n.text) : m = n := by
  have kinds := kind_eq_of_text m n same
  cases m with
  | identifier word isWord =>
    cases n with
    | identifier word' isWord' =>
      cases same
      rfl
    | _ => cases kinds
  | privateName word isWord =>
    cases n with
    | privateName word' isWord' =>
      cases same
      rfl
    | _ => cases kinds
  | string quote body isQuote =>
    cases n with
    | string quote' body' isQuote' =>
      obtain ⟨rfl, rest⟩ := List.cons.inj same
      rw [List.append_cancel_right rest]
    | _ => cases kinds
  | number first more isNumeric =>
    cases n with
    | number first' more' isNumeric' =>
      cases same
      rfl
    | computed inner => exact absurd (List.cons.inj same).1 (first_ne_bracket first isNumeric)
    | _ => cases kinds
  | computed inner =>
    cases n with
    | number first more isNumeric =>
      exact absurd (List.cons.inj same).1.symm (first_ne_bracket first isNumeric)
    | computed inner' =>
      cases same
      rfl
    | _ => cases kinds

/-- Only words, quoted or behind a number sign, name a constructor. -/
theorem text_mem_constructors_iff (name : MemberName) :
    name.text ∈ constructors ↔ match name with
      | .identifier word _ | .privateName word _ | .string _ word _ => word = "constructor".toList
      | .number _ _ _ | .computed _ => False := by
  have spelled : constructors = ["constructor".toList, '#' :: "constructor".toList,
      '\'' :: "constructor".toList ++ ['\''], '"' :: "constructor".toList ++ ['"']] := by
    decide
  have begins : "constructor".toList.head? = some 'c' := by decide
  generalize "constructor".toList = named at spelled begins
  obtain ⟨tail, rfl⟩ : ∃ tail, named = 'c' :: tail := by
    cases named with
    | nil => cases begins
    | cons d tail => exact ⟨tail, by rw [Option.some.inj begins]⟩
  rw [spelled]
  simp only [List.mem_cons, List.not_mem_nil, or_false]
  cases name with
  | identifier word isWord =>
    obtain ⟨c, cs, rfl, -, noSign⟩ := first_of_isWord word isWord
    have apart (d : Char) (listed : d ∈ ['#', '"', '\'', '.', '[']) : c ≠ d := fun same =>
      noSign (same ▸ listed)
    simp [text, apart '#' (by decide), apart '\'' (by decide), apart '"' (by decide)]
  | privateName word isWord => simp [text]
  | string quote body isQuote =>
    have closed : body ++ [quote] = 'c' :: (tail ++ [quote]) ↔ body = 'c' :: tail := by
      rw [← List.cons_append, List.append_left_inj]
    rcases isQuote with rfl | rfl <;> simpa [text] using closed
  | number first more isNumeric =>
    have other : ∀ d ∈ ['c', '#', '\'', '"'], ¬ (d.isDigit = true ∨ d = '.') :=
      List.forall_iff_forall_mem.mp (by decide)
    have apart (d : Char) (listed : d ∈ ['c', '#', '\'', '"']) : first ≠ d := fun same =>
      other d listed (same ▸ isNumeric)
    simp [text, apart 'c' (by decide), apart '#' (by decide), apart '\'' (by decide),
      apart '"' (by decide)]
  | computed inner => simp [text]

end MemberName

/-- A node that a name was read into. -/
structure Tree.Bears (source : List Char) (t : Tree) (name : MemberName) : Prop where
  kind : t.kind = name.kind
  text : slice? source t.label.start t.label.stop = some name.text

theorem unquote_quoted (quote : Char) (body : List Char) (isQuote : quote = '"' ∨ quote = '\'') :
    unquote (quote :: body ++ [quote]) = body := by
  unfold unquote
  rcases isQuote with rfl | rfl <;> simp

section Keys

variable {source : List Char} {node t : Tree} {name : MemberName}
  (field : Tree.inRole? .name node.children = some t) (bears : t.Bears source name)

include field bears

/-- The key of a method is what its name says. -/
theorem methodKey?_eq : methodKey? source node = name.key? := by
  have text : textOf source t = String.ofList name.text := by
    rw [textOf, bears.text, Option.getD_some]
  unfold methodKey?
  rw [field, Option.bind_some, bears.kind, text]
  cases name with
  | privateName word isWord =>
    obtain ⟨c, cs, rfl, -, noSign⟩ := first_of_isWord word isWord
    have plain : (c == '#') = false := beq_eq_false_iff_ne.mpr fun same => noSign (by simp [same])
    simp [MemberName.kind, MemberName.text, MemberName.key?, plain]
  | _ => rfl

/-- A method's name spells the constructor in one of four ways. -/
theorem namesConstructor_iff :
    namesConstructor source node = true ↔ name.text ∈ MemberName.constructors := by
  have text : textOf source t = String.ofList name.text := by
    rw [textOf, bears.text, Option.getD_some]
  unfold namesConstructor
  rw [methodKey?_eq field bears, field, Option.any_some, bears.kind, text, String.toList_ofList,
    MemberName.text_mem_constructors_iff]
  have spells (word : List Char) :
      String.ofList word = "constructor" ↔ word = "constructor".toList := by
    constructor
    · intro same
      rw [← same, String.toList_ofList]
    · rintro rfl
      rw [String.ofList_toList]
  cases name with
  | string quote body isQuote =>
    simp only [MemberName.kind, MemberName.key?, MemberName.text]
    rw [unquote_quoted quote body isQuote]
    simp [spells]
  | _ => simp [MemberName.kind, MemberName.key?, spells]

end Keys

namespace Terminal

/-- A number begins with a digit or with its point. -/
theorem numberLiteral_first (s : List Char) (m : Match) (found : numberLiteral s = some m) :
    ∃ c cs, m.1 = c :: cs ∧ (c.isDigit = true ∨ c = '.') := by
  obtain ⟨split, nonempty⟩ := numberLiteral_splits s m found
  obtain ⟨c, cs, first⟩ := List.exists_cons_of_ne_nil nonempty
  refine ⟨c, cs, first, ?_⟩
  have begins : s.head? = some c := by rw [← split, first]; rfl
  unfold numberLiteral at found
  split at found
  · cases begins
    exact .inl (by decide)
  · unfold decimal at found
    split at found
    · cases begins
      exact .inr rfl
    · obtain ⟨whole, read, _⟩ := Option.map_eq_some_iff.mp found
      unfold digits? at read
      split at read
      · next d ds _ _ =>
        cases begins
        exact .inl (Option.ite_none_right_eq_some.mp read).1
      · cases read

theorem stringLiteral_quoted (s : List Char) (m : Match) (found : stringLiteral s = some m) :
    ∃ quote body, (quote = '"' ∨ quote = '\'') ∧ m.1 = quote :: body ++ [quote] := by
  unfold stringLiteral at found
  split at found
  · next q cs =>
    obtain ⟨isQuote, further⟩ := Option.ite_none_right_eq_some.mp found
    split at further
    · next body closing rest read =>
      cases further
      exact ⟨q, body, isQuote, rfl⟩
    · cases further
  · cases found

end Terminal

namespace Grammar

/-- A token that reads a form of name makes a node that bears it. -/
theorem token_bears (source : List Char) (t : Terminal) (kind : Kind) (fuel : Nat)
    (setting : Setting) (p q : Place) (inside : p.In source) (none : p.comments = [])
    (empty : p.trees = [])
    (reads : ∀ m, t.read p.rest = some m → ∃ name : MemberName, name.kind = kind ∧ name.text = m.1)
    (followed : follow Rule.grammar fuel setting (.token t (some (kind, true))) p = some q) :
    ∃ (u : Tree) (name : MemberName), q.trees = [u] ∧ u.label.start = p.position ∧
      u.Bears source name := by
  cases fuel with
  | zero => cases followed
  | succ fuel =>
    obtain ⟨m, read, rfl⟩ := Option.map_eq_some_iff.mp followed
    obtain ⟨name, sort, text⟩ := reads m read
    refine ⟨.node ⟨kind, true, .none, p.position, p.position + byteLength m.1⟩ [], name, ?_, rfl,
      sort.symm, ?_⟩
    · simp [Place.take, Place.afterTrivia, Place.settle, none, empty]
    · rw [text]
      exact inside.slice_match m (t.read_splits p.rest m read)

/-- What is read in brackets begins with the first one, and the last token of it is the other. -/
theorem follow_brackets (rules : Rule → Grammar) (fuel : Nat) (setting : Setting) (g : Grammar)
    (p q : Place) (ordered : p.Ordered)
    (followed : follow rules fuel setting (between "[" "]" g) p = some q) :
    ∃ inner rest, p.rest = '[' :: inner ++ rest ∧
      q.last = p.position + byteLength ('[' :: inner) := by
  cases fuel with
  | zero => cases followed
  | succ fuel =>
    obtain ⟨a, opened, further⟩ := Option.bind_eq_some_iff.mp followed
    obtain ⟨b, filled, further⟩ := Option.bind_eq_some_iff.mp further
    obtain ⟨c, closed, last⟩ := Option.bind_eq_some_iff.mp further
    cases last
    have toA := follow_reaches rules fuel setting _ p a ordered opened
    have toB := follow_reaches rules fuel setting _ a b toA.ordered filled
    obtain ⟨passed, whole, position⟩ := (toA.trans toB).text
    cases fuel with
    | zero => cases closed
    | succ fuel =>
      obtain ⟨m, read, rfl⟩ := Option.map_eq_some_iff.mp closed
      obtain ⟨first, bracket, rfl⟩ := Option.map_eq_some_iff.mp opened
      obtain ⟨behind, stripped, _⟩ := Option.map_eq_some_iff.mp bracket
      have begins : p.rest = '[' :: behind := (stripStart_some_iff _ _ _).mp stripped
      have onward : p.position < b.position := by
        have eaten : p.position < _ := take_eats p first .none true _ rfl bracket
        exact Nat.lt_of_lt_of_le eaten
          (Nat.le_trans (Nat.le_trans toA.ordered.1 toA.ordered.2) toB.position_le)
      obtain ⟨inner, rfl⟩ : ∃ inner, passed = '[' :: inner := by
        rw [begins] at whole
        cases passed with
        | nil =>
          have still : b.position = p.position := position
          omega
        | cons c cs => exact ⟨cs, by rw [(List.cons.inj whole).1]⟩
      have tail : m.1 ++ m.2 = b.rest := Terminal.read_splits _ _ m read
      refine ⟨inner ++ m.1, m.2, ?_, ?_⟩
      · rw [whole, ← tail, List.cons_append, List.cons_append, List.append_assoc]
      · rw [b.take_last, ← List.cons_append, byteLength_append, position, Nat.add_assoc]

/-- An expression in brackets makes a node that reaches from the first bracket to the last. -/
theorem computed_bears (source : List Char) (fuel : Nat) (setting : Setting) (p q : Place)
    (inside : p.In source) (none : p.comments = []) (empty : p.trees = [])
    (followed : follow Rule.grammar fuel setting
      (.node .other (between "[" "]" (.rule .expressions))) p = some q) :
    ∃ (u : Tree) (name : MemberName), q.trees = [u] ∧ u.label.start = p.position ∧
      u.Bears source name := by
  cases fuel with
  | zero => cases followed
  | succ fuel =>
    obtain ⟨r, read, rfl⟩ := Option.map_eq_some_iff.mp followed
    obtain ⟨inner, rest, whole, stop⟩ :=
      follow_brackets Rule.grammar fuel setting _ _ r inside.within.ordered read
    have slice := inside.within.slice_match ('[' :: inner, rest) whole.symm
    refine ⟨.node ⟨.other, true, .none, p.position, r.last⟩ r.trees.reverse, .computed inner, ?_,
      rfl, rfl, ?_⟩
    · simp [Place.settle, none, empty]
    · dsimp only at slice
      rw [← stop] at slice
      exact slice

/-- The name of a member is read into one node, which bears it. -/
theorem follow_propertyName (source : List Char) (fuel : Nat) (setting : Setting) (p q : Place)
    (inside : p.In source) (none : p.comments = []) (empty : p.trees = [])
    (followed : follow Rule.grammar fuel setting propertyName p = some q) :
    ∃ (u : Tree) (name : MemberName), q.trees = [u] ∧ u.label.start = p.position ∧
      u.Bears source name := by
  cases fuel with
  | zero => cases followed
  | succ fuel =>
    obtain ⟨g, listed, chosen⟩ := List.exists_of_findSome?_eq_some followed
    simp only [List.mem_cons, List.not_mem_nil, or_false] at listed
    rcases listed with rfl | rfl | rfl | rfl | rfl
    · refine token_bears source _ _ fuel setting p q inside none empty ?_ chosen
      intro m read
      have word := (Option.filter_eq_some_iff.mp read).1
      have split := (Terminal.anyWord_splits _ m word).1
      refine ⟨.identifier m.1 ⟨m.2, ?_⟩, rfl, rfl⟩
      rw [split, word]
    · refine token_bears source _ _ fuel setting p q inside none empty ?_ chosen
      intro m read
      unfold Terminal.read at read
      dsimp only at read
      split at read
      · next cs =>
        obtain ⟨inner, word, rfl⟩ := Option.map_eq_some_iff.mp read
        have split := (Terminal.anyWord_splits _ inner word).1
        refine ⟨.privateName inner.1 ⟨inner.2, ?_⟩, rfl, rfl⟩
        rw [split, word]
      · cases read
    · refine token_bears source _ _ fuel setting p q inside none empty ?_ chosen
      intro m read
      obtain ⟨quote, body, isQuote, text⟩ := Terminal.stringLiteral_quoted _ m read
      exact ⟨.string quote body isQuote, rfl, text.symm⟩
    · refine token_bears source _ _ fuel setting p q inside none empty ?_ chosen
      intro m read
      obtain ⟨c, cs, text, isNumeric⟩ := Terminal.numberLiteral_first _ m read
      exact ⟨.number c cs isNumeric, rfl, text.symm⟩
    · exact computed_bears source fuel setting p q inside none empty chosen

end Grammar

end ResultLint.Source
