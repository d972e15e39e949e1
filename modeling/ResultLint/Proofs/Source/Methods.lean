import ResultLint.Proofs.Source.Comments
import ResultLint.Proofs.Source.MemberName

/-!
The heads of methods. Words and an asterisk stand in front of a method's name, with white space and
comments between them, and the keyword of an accessor is the only one of them that gets a node. So
what a method's node holds up to its name says which of them were read.
-/
namespace ResultLint.Source

open Text

/-- Words and asterisks that are read one behind another from a position of a source up to another
one, with white space and comments behind each. -/
inductive Lexed (source : List Char) : Nat → Nat → List String → Prop
  | done (position : Nat) : Lexed source position position []
  | token (start stop : Nat) (before text rest : List Char) (tokens : List String)
      (whole : source = before ++ (text ++ rest)) (position : byteLength before = start)
      (one : Terminal.anyWord (text ++ rest) = some (text, rest) ∨ text = ['*'])
      (more : Lexed source (Trivia.skip (start + byteLength text) rest).position stop tokens) :
      Lexed source start stop (String.ofList text :: tokens)

namespace Lexed

variable {source : List Char} {start middle stop : Nat} {tokens others : List String}

/-- A token takes some of the text. -/
theorem lt_skip (text rest : List Char)
    (one : Terminal.anyWord (text ++ rest) = some (text, rest) ∨ text = ['*']) (start : Nat) :
    start < (Trivia.skip (start + byteLength text) rest).position := by
  have nonempty : text ≠ [] := by
    rcases one with word | rfl
    · exact (Terminal.anyWord_splits _ _ word).2
    · exact List.cons_ne_nil _ _
  have size := byteLength_pos text nonempty
  obtain ⟨passed, _, moved⟩ := (Trivia.skip_passes (start + byteLength text) rest).text
  dsimp only at moved
  omega

theorem start_le (read : Lexed source start stop tokens) : start ≤ stop := by
  induction read with
  | done position => exact Nat.le_refl _
  | token start stop before text rest tokens whole position one more ih =>
    exact Nat.le_trans (Nat.le_of_lt (lt_skip text rest one start)) ih

theorem append (first : Lexed source start middle tokens)
    (second : Lexed source middle stop others) : Lexed source start stop (tokens ++ others) := by
  induction first with
  | done position => exact second
  | token start middle before text rest tokens whole position one more ih =>
    exact .token start stop before text rest (tokens ++ others) whole position one (ih second)

/-- One text begins with one token only. -/
theorem token_unique (text rest text' rest' : List Char) (same : text ++ rest = text' ++ rest')
    (one : Terminal.anyWord (text ++ rest) = some (text, rest) ∨ text = ['*'])
    (one' : Terminal.anyWord (text' ++ rest') = some (text', rest') ∨ text' = ['*']) :
    text = text' ∧ rest = rest' := by
  have noWord (behind : List Char) : Terminal.anyWord (['*'] ++ behind) = none := by
    have sign : Terminal.isWordChar '*' = false := by decide
    simp [Terminal.anyWord, Terminal.wordChars, sign]
  rcases one with word | rfl
  · rcases one' with word' | rfl
    · rw [same, word'] at word
      cases word
      exact ⟨rfl, rfl⟩
    · rw [same, noWord] at word
      cases word
  · rcases one' with word' | rfl
    · rw [← same, noWord] at word'
      cases word'
    · exact ⟨rfl, (List.cons.inj same).2⟩

/-- There is one way to read a piece of a source. -/
theorem unique (left : Lexed source start stop tokens) (right : Lexed source start stop others) :
    tokens = others := by
  induction left generalizing others with
  | done position =>
    cases right with
    | done => rfl
    | token _ _ before text rest _ _ _ one more =>
      have onward := lt_skip text rest one position
      exact absurd more.start_le (by omega)
  | token start stop before text rest tokens whole position one more ih =>
    cases right with
    | done =>
      have onward := lt_skip text rest one start
      exact absurd more.start_le (by omega)
    | token _ _ before' text' rest' others whole' position' one' more' =>
      obtain ⟨_, same⟩ := append_unique before _ before' _ (whole.symm.trans whole')
        (position.trans position'.symm)
      obtain ⟨rfl, rfl⟩ := token_unique text rest text' rest' same one one'
      rw [ih more']

end Lexed

/-- The accessor that a token makes of a method. -/
def keyword? : String → Option MethodKind
  | "get" => some .get
  | "set" => some .set
  | _ => none

/-- The accessor that a node of a keyword makes of a method. -/
def Kind.keyword? (kind : Kind) (named : Bool) : Option MethodKind :=
  match named, kind with
  | false, .get => some .get
  | false, .set => some .set
  | _, _ => none

def Tree.keyword? (t : Tree) : Option MethodKind :=
  t.kind.keyword? t.label.named

namespace Trivia

/-- Comments that are passed begin before the place behind them. -/
theorem skip_begins (source before rest : List Char) (whole : source = before ++ rest) :
    ∀ range ∈ (skip (byteLength before) rest).comments,
      range.1 < (skip (byteLength before) rest).position := by
  intro range member
  have last := skip_behind (byteLength before) rest range member
  obtain ⟨_, text, behind, _, _, stop, opens⟩ := skip_sound source before rest whole range member
  have size := byteLength_pos text (comment_ne_nil text behind opens)
  omega

end Trivia

namespace Grammar

/-- A place that tokens were read up to: in front of it are the tokens, and the nodes there are
those of comments and keywords, in the order of the tokens. -/
structure Place.Behind (source : List Char) (start : Nat) (tokens : List String) (p : Place) :
    Prop where
  inside : p.In source
  lexed : Lexed source start p.position tokens
  waiting : ∀ range ∈ p.comments, range.1 < p.position
  front : ∀ t ∈ p.trees, t.label.role = none ∧ t.label.start < p.position
  keywords : p.trees.reverse.findSome? Tree.keyword? = tokens.findSome? keyword?

namespace Place.Behind

variable {source : List Char} {start : Nat} {tokens : List String} {p : Place}

/-- Comments that are put into the tree are in front as well, and no keywords. -/
theorem settle (behind : p.Behind source start tokens) :
    (∀ t ∈ p.settle.trees, t.label.role = none ∧ t.label.start < p.position) ∧
      p.settle.trees.reverse.findSome? Tree.keyword? = tokens.findSome? keyword? := by
  constructor
  · intro t member
    rcases List.mem_append.mp member with comment | tree
    · obtain ⟨range, waits, rfl⟩ := List.mem_map.mp comment
      exact ⟨rfl, behind.waiting range waits⟩
    · exact behind.front t tree
  · have silent : (p.comments.map commentTree).reverse.findSome? Tree.keyword? = none := by
      rw [List.findSome?_eq_none_iff]
      intro t member
      obtain ⟨range, _, rfl⟩ := List.mem_map.mp (List.mem_reverse.mp member)
      rfl
    have parts : p.settle.trees = p.comments.map commentTree ++ p.trees := rfl
    rw [parts, List.reverse_append, List.findSome?_append, behind.keywords, silent, Option.or_none]

/-- One more token, with a node if it is a keyword. -/
theorem take (behind : p.Behind source start tokens) (m : Terminal.Match)
    (leaf : Option (Kind × Bool))
    (one : Terminal.anyWord p.rest = some m ∨ (m.1 = ['*'] ∧ m.Splits p.rest))
    (marked : (leaf.bind fun l => l.1.keyword? l.2) = keyword? (String.ofList m.1)) :
    (p.take m leaf true).Behind source start (tokens ++ [String.ofList m.1]) := by
  have split : m.Splits p.rest := by
    rcases one with word | ⟨_, split⟩
    · exact (Terminal.anyWord_splits _ m word).1
    · exact split
  have text : m.1 ++ m.2 = p.rest := split
  have same : Terminal.anyWord (m.1 ++ m.2) = some (m.1, m.2) ∨ m.1 = ['*'] := by
    rw [text]
    exact one.imp_right And.left
  obtain ⟨before, whole, position⟩ := behind.inside.aligned
  have onward := Lexed.lt_skip m.1 m.2 same p.position
  obtain ⟨front, keywords⟩ := behind.settle
  have further : ∀ t ∈ p.settle.trees, t.label.role = none ∧
      t.label.start < (p.take m leaf true).position := fun t member =>
    ⟨(front t member).1, Nat.lt_trans (front t member).2 onward⟩
  refine ⟨behind.inside.of_reaches (p.take_reaches m leaf true behind.inside.ordered split),
    behind.lexed.append (.token p.position _ before m.1 m.2 [] (by rw [text, whole]) position same
      (.done _)), ?_, ?_, ?_⟩
  · intro range member
    have begins := Trivia.skip_begins source (before ++ m.1) m.2 (by simp [text, whole])
    rw [byteLength_append, position] at begins
    have passed : (p.take m leaf true).comments =
        (Trivia.skip (p.position + byteLength m.1) m.2).comments ++ [] := rfl
    rw [passed, List.append_nil] at member
    exact begins range member
  · cases leaf with
    | none => exact further
    | some l => exact List.forall_mem_cons.mpr ⟨⟨rfl, onward⟩, further⟩
  · rw [List.findSome?_append, ← keywords, List.findSome?_singleton, ← marked]
    cases leaf with
    | none => exact (Option.or_none ..).symm
    | some l =>
      have trees : (p.take m (some l) true).trees.reverse = p.settle.trees.reverse ++
          [.node ⟨l.1, l.2, none, p.position, p.position + byteLength m.1⟩ []] := List.reverse_cons
      rw [trees, List.findSome?_append, List.findSome?_singleton]
      rfl

end Place.Behind

/-- A token in front of something else of its construct is read alone. -/
theorem follow_leading (rules : Rule → Grammar) (fuel : Nat) (setting : Setting) (t : Terminal)
    (leaf : Option (Kind × Bool)) (g : Grammar) (p q : Place)
    (followed : follow rules fuel setting (.sequence [.token t leaf, .noSemicolon, .ahead g]) p =
      some q) :
    ∃ m, t.read p.rest = some m ∧ q = p.take m leaf true := by
  cases fuel with
  | zero => cases followed
  | succ fuel =>
    obtain ⟨a, taken, further⟩ := Option.bind_eq_some_iff.mp followed
    obtain ⟨b, noSemicolon, further⟩ := Option.bind_eq_some_iff.mp further
    obtain ⟨c, ahead, last⟩ := Option.bind_eq_some_iff.mp further
    cases last
    cases fuel with
    | zero => cases taken
    | succ fuel =>
      obtain ⟨m, read, rfl⟩ := Option.map_eq_some_iff.mp taken
      obtain ⟨_, _, rfl⟩ := Option.map_eq_some_iff.mp ahead
      obtain ⟨_, same⟩ := Option.ite_none_left_eq_some.mp noSemicolon
      exact ⟨m, read, (Option.some.inj same).symm⟩

/-- Modifiers of a method that are no keywords of accessors. -/
inductive Modifies : Grammar → Prop
  | modifier (name : String) (other : keyword? name = none) : Modifies (modifier name)
  | choice (gs : List Grammar) (each : ∀ g ∈ gs, Modifies g) : Modifies (.choice gs)
  | optional (g : Grammar) (inner : Modifies g) : Modifies (.optional g)

section Heads

variable {source : List Char} {start : Nat} {tokens : List String}

/-- A word that is read alone is one more token. -/
theorem follow_leadingWord (fuel : Nat) (setting : Setting) (name : String)
    (leaf : Option (Kind × Bool)) (g : Grammar) (p q : Place)
    (marked : (leaf.bind fun l => l.1.keyword? l.2) = keyword? name)
    (behind : p.Behind source start tokens)
    (followed : follow Rule.grammar fuel setting
      (.sequence [.token (.word name) leaf, .noSemicolon, .ahead g]) p = some q) :
    q.Behind source start (tokens ++ [name]) := by
  obtain ⟨m, read, rfl⟩ := follow_leading _ fuel setting _ leaf g p q followed
  have letters := Terminal.read_word name p.rest m read
  have same : String.ofList m.1 = name := by rw [letters, String.ofList_toList]
  have taken := behind.take m leaf (.inl (Option.filter_eq_some_iff.mp read).1)
    (by rw [same, marked])
  rwa [same] at taken

theorem Modifies.follow {g : Grammar} (modifies : Modifies g) (fuel : Nat) (setting : Setting)
    (p q : Place) (behind : p.Behind source start tokens)
    (followed : follow Rule.grammar fuel setting g p = some q) :
    ∃ more, (∀ word ∈ more, keyword? word = none) ∧ q.Behind source start (tokens ++ more) := by
  induction modifies generalizing fuel with
  | modifier name other =>
    have read := follow_leadingWord fuel setting name none memberStart p q other.symm behind
      followed
    exact ⟨[name], by simpa using other, read⟩
  | choice gs each ih =>
    cases fuel with
    | zero => cases followed
    | succ fuel =>
      obtain ⟨g, listed, chosen⟩ := List.exists_of_findSome?_eq_some followed
      exact ih g listed fuel chosen
  | optional g inner ih =>
    cases fuel with
    | zero => cases followed
    | succ fuel =>
      rw [Grammar.follow] at followed
      cases read : Grammar.follow Rule.grammar fuel setting g p with
      | none =>
        rw [read] at followed
        cases followed
        exact ⟨[], by simp, by simpa using behind⟩
      | some r =>
        rw [read] at followed
        cases followed
        exact ih fuel read

/-- The keyword of an accessor, or an asterisk, or nothing. -/
theorem follow_accessors (fuel : Nat) (setting : Setting) (p q : Place)
    (behind : p.Behind source start tokens)
    (followed : follow Rule.grammar fuel setting
      (.optional (.choice [accessor "get" .get, accessor "set" .set, sign "*"])) p = some q) :
    ∃ last, last.length ≤ 1 ∧ q.Behind source start (tokens ++ last) := by
  cases fuel with
  | zero => cases followed
  | succ fuel =>
    rw [Grammar.follow] at followed
    cases read : Grammar.follow Rule.grammar fuel setting
        (.choice [accessor "get" .get, accessor "set" .set, sign "*"]) p with
    | none =>
      rw [read] at followed
      cases followed
      exact ⟨[], by simp, by simpa using behind⟩
    | some r =>
      rw [read] at followed
      cases followed
      cases fuel with
      | zero => cases read
      | succ fuel =>
        obtain ⟨g, listed, chosen⟩ := List.exists_of_findSome?_eq_some read
        simp only [List.mem_cons, List.not_mem_nil, or_false] at listed
        rcases listed with rfl | rfl | rfl
        · exact ⟨["get"], by simp,
            follow_leadingWord fuel setting _ _ memberStart p _ rfl behind chosen⟩
        · exact ⟨["set"], by simp,
            follow_leadingWord fuel setting _ _ memberStart p _ rfl behind chosen⟩
        · cases fuel with
          | zero => cases chosen
          | succ fuel =>
            obtain ⟨m, sign, rfl⟩ := Option.map_eq_some_iff.mp chosen
            have split := Terminal.read_splits _ p.rest m sign
            obtain ⟨rest, _, rfl⟩ := Option.map_eq_some_iff.mp sign
            have asterisk : "*".toList = ['*'] := by decide
            have other : none = keyword? (String.ofList "*".toList) := by decide
            exact ⟨[_], by simp, behind.take _ none (.inr ⟨asterisk, split⟩) other⟩

/-- What stands in front of the name of a method: modifiers, and behind them at most one token that
may be the keyword of an accessor. -/
theorem follow_methodModifiers (fuel : Nat) (setting : Setting) (p q : Place)
    (behind : p.Behind source start [])
    (followed : follow Rule.grammar fuel setting methodModifiers p = some q) :
    ∃ front last, (∀ word ∈ front, keyword? word = none) ∧ last.length ≤ 1 ∧
      q.Behind source start (front ++ last) := by
  have plain (name : String) (other : keyword? name = none) :
      Modifies (.optional (modifier name)) :=
    .optional _ (.modifier name other)
  let modifiers : List Grammar := [
    .optional accessibility, .optional (modifier "static"), .optional (modifier "override"),
    .optional (modifier "readonly"), .optional (modifier "async")]
  let accessors : List Grammar := [accessor "get" .get, accessor "set" .set, sign "*"]
  have all : ∀ g ∈ modifiers, Modifies g := by
    have access : Modifies accessibility :=
      .choice _ (List.forall_iff_forall_mem.mp
        ⟨.modifier _ rfl, .modifier _ rfl, .modifier _ rfl⟩)
    exact List.forall_iff_forall_mem.mp
      ⟨.optional _ access, plain _ rfl, plain _ rfl, plain _ rfl, plain _ rfl⟩
  cases fuel with
  | zero => cases followed
  | succ fuel =>
    have parts : methodModifiers = .sequence (modifiers ++ [.optional (.choice accessors)]) := rfl
    rw [parts, Grammar.follow, List.foldlM_append] at followed
    obtain ⟨r, before, further⟩ := Option.bind_eq_some_iff.mp followed
    obtain ⟨front, words, there⟩ := foldlM_invariant
      (fun q => ∃ more, (∀ word ∈ more, keyword? word = none) ∧ q.Behind source start more)
      (Grammar.follow Rule.grammar fuel setting) modifiers
      (by
        rintro g listed a b ⟨more, words, here⟩ step
        obtain ⟨later, words', there⟩ := (all g listed).follow fuel setting a b here step
        exact ⟨more ++ later, List.forall_mem_append.mpr ⟨words, words'⟩, there⟩)
      p r ⟨[], by simp, behind⟩ before
    obtain ⟨_, accessing, last⟩ := Option.bind_eq_some_iff.mp further
    cases last
    obtain ⟨last, short, read⟩ := follow_accessors fuel setting r q there accessing
    exact ⟨front, last, words, short, read⟩

end Heads

end Grammar

/-- The kinds of nodes of methods. -/
def Kind.isMethod : Kind → Bool
  | .methodDefinition | .methodSignature => true
  | _ => false

/-- How a method begins, as its node has it: tokens up to the node of its name, of which at most the
last one is the keyword of an accessor, and in front of that node those of comments and of the
keyword. -/
structure Headed (source : List Char) (start : Nat) (children front : List Tree) (named : Tree)
    (tokens : List String) (name : MemberName) : Prop where
  children : ∃ rest, children = front ++ named :: rest
  role : named.label.role = some .name
  bears : named.Bears source name
  lexed : Lexed source start named.label.start tokens
  others : ∀ t ∈ front, t.label.role = none ∧ t.label.start < named.label.start
  keywords : front.findSome? Tree.keyword? = tokens.findSome? keyword?
  once : ∃ modifiers last, tokens = modifiers ++ last ∧ last.length ≤ 1 ∧
    ∀ word ∈ modifiers, keyword? word = none

namespace Grammar

/-- The name of a method is one node, in front of which all stays as it is. -/
theorem follow_methodName (source : List Char) (fuel : Nat) (setting : Setting) (p q : Place)
    (inside : p.In source)
    (followed : follow Rule.grammar fuel setting (.role .name (.rule .propertyName)) p = some q) :
    ∃ named name, q.trees = named :: p.settle.trees ∧ named.label.role = some .name ∧
      named.label.start = p.position ∧ named.Bears source name := by
  cases fuel with
  | zero => cases followed
  | succ fuel =>
    obtain ⟨r, inner, rfl⟩ := Option.map_eq_some_iff.mp followed
    cases fuel with
    | zero => cases inner
    | succ fuel =>
      obtain ⟨⟨l, children⟩, name, only, begins, bears⟩ := follow_propertyName source fuel setting
        { p.settle with trees := [] } r inside.within rfl rfl inner
      have visible : l.kind ≠ .comment := by
        have kind : l.kind = name.kind := bears.kind
        rw [kind]
        cases name <;> simp [MemberName.kind]
      have marked : assignRole .name r.trees = [Tree.withRole .name (.node l children)] := by
        simp [assignRole, assignRole.go, only, Tree.kind, Tree.label, visible]
      exact ⟨Tree.withRole .name (.node l children), name, by rw [marked]; rfl, rfl, begins,
        bears.kind, bears.text⟩

/-- The head of a method is read up to its name and beyond. -/
theorem follow_methodHead (source : List Char) (fuel : Nat) (setting : Setting) (p q : Place)
    (inside : p.In source) (none : p.comments = []) (empty : p.trees = [])
    (followed : follow Rule.grammar fuel setting methodHead p = some q) :
    ∃ front named tokens name,
      Headed source p.position q.trees.reverse front named tokens name := by
  cases fuel with
  | zero => cases followed
  | succ fuel =>
    obtain ⟨a, modified, further⟩ := Option.bind_eq_some_iff.mp followed
    obtain ⟨b, naming, further⟩ := Option.bind_eq_some_iff.mp further
    have start : p.Behind source p.position [] :=
      ⟨inside, .done _, by simp [none], by simp [empty], by rw [empty]; rfl⟩
    obtain ⟨modifiers, last, words, short, behind⟩ :=
      follow_methodModifiers fuel setting p a start modified
    obtain ⟨front, keywords⟩ := behind.settle
    obtain ⟨named, name, read, role, begins, bears⟩ :=
      follow_methodName source fuel setting a b behind.inside naming
    obtain ⟨more, added⟩ := foldlM_invariant (fun q => b.trees <:+ q.trees)
      (follow Rule.grammar fuel setting) _
      (fun g _ q s before step => before.trans (follow_adds Rule.grammar _ setting g q s step))
      b q (List.suffix_refl _) further
    refine ⟨a.settle.trees.reverse, named, modifiers ++ last, name, ⟨more.reverse, ?_⟩, role,
      bears, ?_, ?_, keywords, modifiers, last, rfl, short, words⟩
    · rw [← added, read]
      simp
    · rw [begins]
      exact behind.lexed
    · rw [begins]
      exact fun t member => front t (List.mem_reverse.mp member)

/-- What is read behind the head leaves it as it is. -/
theorem follow_method (source : List Char) (fuel : Nat) (setting : Setting) (g : Grammar)
    (p q : Place) (method : g = methodHead ∨ ∃ g', g = .sequence [methodHead, g'])
    (inside : p.In source) (none : p.comments = []) (empty : p.trees = [])
    (followed : follow Rule.grammar fuel setting g p = some q) :
    ∃ front named tokens name,
      Headed source p.position q.trees.reverse front named tokens name := by
  rcases method with rfl | ⟨body, rfl⟩
  · exact follow_methodHead source fuel setting p q inside none empty followed
  · cases fuel with
    | zero => cases followed
    | succ fuel =>
      obtain ⟨r, head, further⟩ := Option.bind_eq_some_iff.mp followed
      obtain ⟨_, rest, last⟩ := Option.bind_eq_some_iff.mp further
      cases last
      obtain ⟨more, added⟩ := follow_adds Rule.grammar fuel setting body r q rest
      obtain ⟨front, named, tokens, name, headed⟩ :=
        follow_methodHead source fuel setting p r inside none empty head
      obtain ⟨behind, children⟩ := headed.children
      refine ⟨front, named, tokens, name, { headed with children := ⟨behind ++ more.reverse, ?_⟩ }⟩
      rw [← added, List.reverse_append, children, List.append_assoc, List.cons_append]

/-- Whether the nodes that a grammar makes itself are none of methods. -/
def makesNoMethod : Grammar → Bool
  | .token _ (some (kind, _)) => !kind.isMethod
  | .node kind _ => !kind.isMethod
  | .chain _ steps => steps.all fun step => !step.1.isMethod
  | _ => true

/-- A grammar that puts nodes of methods around heads of methods only, and what may follow them. -/
inductive HeadsMethods : Grammar → Prop
  | definition (body : Grammar) (deeper : HeadsMethods (.sequence [methodHead, body])) :
      HeadsMethods (.node .methodDefinition (.sequence [methodHead, body]))
  | signature (deeper : HeadsMethods methodHead) : HeadsMethods (.node .methodSignature methodHead)
  | other (g : Grammar) (own : makesNoMethod g = true)
      (deeper : ∀ part ∈ g.parts, HeadsMethods part) : HeadsMethods g

namespace HeadsMethods

theorem of_throughout (depth : Nat) (g : Grammar) (none : throughout makesNoMethod depth g = true) :
    HeadsMethods g := by
  induction depth generalizing g with
  | zero => cases none
  | succ depth ih =>
    obtain ⟨own, deeper⟩ := (throughout_iff makesNoMethod depth g).mp none
    exact .other g own fun part listed => ih part (deeper part listed)

theorem parts (g : Grammar) (heads : HeadsMethods g) : ∀ part ∈ g.parts, HeadsMethods part := by
  cases heads with
  | definition body deeper => exact List.forall_mem_singleton.mpr deeper
  | signature deeper => exact List.forall_mem_singleton.mpr deeper
  | other g own deeper => exact deeper

theorem methodDefinition : HeadsMethods methodDefinition :=
  .definition _ (of_throughout 40 _ (by decide +kernel))

theorem methodSignature : HeadsMethods (.node .methodSignature methodHead) :=
  .signature (of_throughout 40 _ (by decide +kernel))

theorem typeMember : HeadsMethods typeMember :=
  .other _ rfl (List.forall_iff_forall_mem.mp
    ⟨of_throughout 40 _ rfl, of_throughout 40 _ (by decide +kernel), of_throughout 40 _ rfl,
      methodSignature, of_throughout 40 _ (by decide +kernel)⟩)

/-- One part behind another. -/
theorem pair (g h : Grammar) (first : HeadsMethods g) (second : HeadsMethods h) :
    HeadsMethods (.sequence [g, h]) :=
  .other _ rfl (List.forall_mem_cons.mpr ⟨first, List.forall_mem_singleton.mpr second⟩)

theorem many (g : Grammar) (inner : HeadsMethods g) : HeadsMethods (.many g) :=
  .other _ rfl (List.forall_mem_singleton.mpr inner)

theorem optional (g : Grammar) (inner : HeadsMethods g) : HeadsMethods (.optional g) :=
  .other _ rfl (List.forall_mem_singleton.mpr inner)

theorem node (g : Grammar) (inner : HeadsMethods g) : HeadsMethods (.node .other g) :=
  .other _ rfl (List.forall_mem_singleton.mpr inner)

/-- Something between two signs. -/
theorem between (first last : String) (shift : Shift) (g : Grammar) (inner : HeadsMethods g) :
    HeadsMethods (.sequence [sign first, .within shift g, sign last]) := by
  have shifted : HeadsMethods (.within shift g) :=
    .other _ rfl (List.forall_mem_singleton.mpr inner)
  exact .other _ rfl (List.forall_iff_forall_mem.mp
    ⟨of_throughout 1 _ rfl, shifted, of_throughout 1 _ rfl⟩)

/-- Parts with commas between them. -/
theorem sparseList (g : Grammar) (inner : HeadsMethods g) : HeadsMethods (sparseList g) :=
  .pair _ _ (.optional g inner)
    (.many _ (.pair _ _ (of_throughout 1 _ rfl) (.optional g inner)))

end HeadsMethods

theorem rules_headMethods (r : Rule) : HeadsMethods r.grammar := by
  have plain (g : Grammar) (none : throughout makesNoMethod 40 g = true) : HeadsMethods g :=
    .of_throughout 40 g none
  -- three rules hold heads of methods: members of classes, of objects and of types of objects
  cases r with
  | classMember =>
    have defined : HeadsMethods (.sequence [methodDefinition, .optional (sign ";")]) :=
      .pair _ _ .methodDefinition (plain _ rfl)
    have signed : HeadsMethods (.sequence [.node .methodSignature methodHead, memberEnd true]) :=
      .pair _ _ .methodSignature (plain _ rfl)
    exact .other _ rfl (List.forall_iff_forall_mem.mp
      ⟨plain _ rfl, plain _ rfl, plain _ rfl, defined, signed, plain _ (by decide +kernel),
        plain _ (by decide +kernel), plain _ (by decide +kernel)⟩)
  | object =>
    refine .other _ rfl (List.forall_mem_singleton.mpr (.between _ _ _ _ (.sparseList _ ?_)))
    exact .other _ rfl (List.forall_iff_forall_mem.mp
      ⟨plain _ rfl, .methodDefinition, plain _ rfl, plain _ rfl⟩)
  | objectType =>
    have more : HeadsMethods (.many (.sequence [.choice [sign ",", semicolon], typeMember])) :=
      .many _ (.pair _ _ (plain _ rfl) .typeMember)
    have members : HeadsMethods (.sequence [
        .optional (.choice [sign ",", sign ";"]), typeMember,
        .many (.sequence [.choice [sign ",", semicolon], typeMember]),
        .optional (.choice [sign ",", semicolon])]) :=
      .other _ rfl (List.forall_iff_forall_mem.mp ⟨plain _ rfl, .typeMember, more, plain _ rfl⟩)
    have body : HeadsMethods (.sequence [.optional _]) :=
      .other _ rfl (List.forall_mem_singleton.mpr (.optional _ members))
    exact .node _ (.between _ _ .statement _ body)
  | _ => exact plain _ (by decide +kernel)

end Grammar

/-- A node of a method holds the head of one. -/
def MethodHeaded (source : List Char) (l : Label) (children : List Tree) : Prop :=
  l.kind.isMethod = true → l.named = true ∧
    ∃ front named tokens name, Headed source l.start children front named tokens name

namespace Grammar

theorem headsMethods_preserves (source : List Char) :
    Preserves Rule.grammar source HeadsMethods (MethodHeaded source) where
  named := rules_headMethods
  parts := HeadsMethods.parts
  comment _ _ _ _ method := by cases method
  leaf t kind named ok _ _ _ _ method := by
    cases ok with
    | other _ own _ =>
      rw [makesNoMethod, show kind.isMethod = true from method] at own
      cases own
  node kind g ok fuel setting p q inside followed method := by
    refine ⟨rfl, ?_⟩
    cases ok with
    | definition body deeper =>
      exact follow_method source fuel setting _ { p.settle with trees := [] } q
        (.inr ⟨body, rfl⟩) inside.within rfl rfl followed
    | signature deeper =>
      exact follow_method source fuel setting _ { p.settle with trees := [] } q
        (.inl rfl) inside.within rfl rfl followed
    | other _ own _ =>
      rw [makesNoMethod, show kind.isMethod = true from method] at own
      cases own
  role _ _ _ _ _ _ _ _ _ _ _ _ headed := headed
  step first steps ok step listed start children q _ method := by
    cases ok with
    | other _ own _ =>
      have other := List.all_eq_true.mp own step listed
      rw [show step.1.isMethod = true from method] at other
      cases other
  stepRole _ _ _ _ _ _ _ _ _ headed := headed

end Grammar

/-- Every method of a tree that is read begins with the head of one. -/
theorem methods_headed (source : List Char) (dialect : Dialect) (t : Tree)
    (read : tree? source dialect = some t) :
    ∀ c ∈ Cursor.walk t, MethodHeaded source c.focus.label c.focus.children := by
  have whole : Grammar.HeadsMethods (.node .other (.sequence [.rule .statements, .finish])) :=
    .of_throughout 4 _ rfl
  have everywhere := tree_everywhere (Grammar.headsMethods_preserves source) whole dialect t read
  intro c visited
  exact c.focus.everywhere_here
    (Cursor.walk_holds _ Tree.everywhere_children t everywhere c visited)

/-- The head of a method: the node of its name, the tokens in front of it and how it is spelled. -/
structure MethodHeading (source : List Char) (node named : Tree) (tokens : List String)
    (name : MemberName) : Prop where
  field : Tree.inRole? .name node.children = some named
  lexed : Lexed source node.label.start named.label.start tokens
  text : slice? source named.label.start named.label.stop = some name.text

/-- A method has one head. -/
theorem MethodHeading.unique {source : List Char} {node named named' : Tree}
    {tokens tokens' : List String} {name name' : MemberName}
    (left : MethodHeading source node named tokens name)
    (right : MethodHeading source node named' tokens' name') :
    named = named' ∧ tokens = tokens' ∧ name = name' := by
  obtain rfl : named = named' := Option.some.inj (left.field.symm.trans right.field)
  refine ⟨rfl, left.lexed.unique right.lexed, name.eq_of_text name' ?_⟩
  exact Option.some.inj (left.text.symm.trans right.text)

theorem keyword?_eq_some_iff (word : String) (kind : MethodKind) :
    keyword? word = some kind ↔ word = "get" ∧ kind = .get ∨ word = "set" ∧ kind = .set := by
  unfold keyword?
  split
  · simp [eq_comm]
  · simp [eq_comm]
  · next noGet noSet =>
    constructor
    · intro same
      cases same
    · rintro (⟨rfl, _⟩ | ⟨rfl, _⟩)
      · exact absurd rfl noGet
      · exact absurd rfl noSet

namespace Headed

variable {source : List Char} {node named : Tree} {front : List Tree} {tokens : List String}
  {name : MemberName}
  (headed : Headed source node.label.start node.children front named tokens name)

include headed

/-- Nothing in front of the name plays a role. -/
theorem field : Tree.inRole? .name node.children = some named := by
  obtain ⟨rest, children⟩ := headed.children
  rw [children, Tree.inRole?, List.find?_eq_some_iff_append]
  refine ⟨by simp [headed.role], front, rest, rfl, ?_⟩
  intro t member
  simp [(headed.others t member).1]

theorem heading : MethodHeading source node named tokens name :=
  ⟨headed.field, headed.lexed, headed.bears.text⟩

/-- The keyword is sought among the nodes in front of the name, and these are all there are. -/
theorem accessorKind?_eq : accessorKind? node = tokens.findSome? keyword? := by
  obtain ⟨rest, children⟩ := headed.children
  have ahead : node.children.takeWhile (fun t => t.label.start < named.label.start) = front := by
    rw [children, List.takeWhile_append_of_pos (by simpa using fun t m => (headed.others t m).2)]
    simp
  unfold accessorKind?
  rw [headed.field]
  dsimp only
  rw [ahead]
  exact headed.keywords

/-- Of the keywords there is one at most, so it is found wherever it stands. -/
theorem accessorKind?_iff (kind : MethodKind) : accessorKind? node = some kind ↔
    "get" ∈ tokens ∧ kind = .get ∨ "set" ∈ tokens ∧ kind = .set := by
  obtain ⟨modifiers, last, rfl, short, plain⟩ := headed.once
  have silent : modifiers.findSome? keyword? = none := List.findSome?_eq_none_iff.mpr plain
  have other (word : String) (marked : keyword? word ≠ none) : word ∉ modifiers :=
    fun member => marked (plain word member)
  rw [headed.accessorKind?_eq, List.findSome?_append, silent, Option.none_or]
  simp only [List.mem_append, other "get" (by decide), other "set" (by decide), false_or]
  match last, short with
  | [], _ => simp
  | [word], _ =>
    rw [List.findSome?_singleton, keyword?_eq_some_iff, List.mem_singleton, List.mem_singleton,
      eq_comm, @eq_comm _ "set"]

end Headed

/-- The head of a method decides of which kind it is. -/
theorem Headed.methodKind_eq {source : List Char} {c : Cursor} {named : Tree} {front : List Tree}
    {tokens : List String} {name : MemberName}
    (headed : Headed source c.focus.label.start c.focus.children front named tokens name) :
    (methodKind source c = .get ↔ "get" ∈ tokens) ∧
    (methodKind source c = .set ↔ "set" ∈ tokens) ∧
    (methodKind source c = .constructor ↔ "get" ∉ tokens ∧ "set" ∉ tokens ∧
      c.inClass = true ∧ name.text ∈ MemberName.constructors) := by
  have getting : accessorKind? c.focus = some .get ↔ "get" ∈ tokens := by
    simpa using headed.accessorKind?_iff .get
  have setting : accessorKind? c.focus = some .set ↔ "set" ∈ tokens := by
    simpa using headed.accessorKind?_iff .set
  have spelled := namesConstructor_iff headed.field headed.bears
  unfold methodKind
  cases found : accessorKind? c.focus with
  | some kind =>
    rw [found] at getting setting
    rcases (headed.accessorKind?_iff kind).mp found with ⟨get, rfl⟩ | ⟨set, rfl⟩
    · simp [get, ← setting]
    · simp [set, ← getting]
  | none =>
    rw [found] at getting setting
    rw [← getting, ← setting, ← spelled]
    cases inClass : c.inClass <;> cases named : namesConstructor source c.focus <;> simp

end ResultLint.Source
