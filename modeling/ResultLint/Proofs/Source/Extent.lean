import ResultLint.Proofs.Source.DeclaredType
import ResultLint.Proofs.Source.Position
import ResultLint.Proofs.Source.Visible

/-!
What the functions of a source and their annotations cover: pieces of the source that begin with a
visible character. No node ends beyond the source, and the grammar puts a node of a function only
around parts that open with a visible token.
-/
namespace ResultLint.Source

open Text

/-- The kinds of nodes that are lowered to functions. -/
def Kind.isFunction : Kind → Bool
  | .functionDeclaration | .generatorDeclaration | .functionSignature | .function
  | .generatorFunction | .arrowFunction | .methodDefinition | .methodSignature => true
  | _ => false

/-- A piece of a source that begins with a visible character. -/
structure IsPiece (source : List Char) (start stop : Nat) : Prop where
  begins : ∃ before behind, source = before ++ behind ∧ byteLength before = start ∧ Visible behind
  nonempty : start < stop
  inside : stop ≤ byteLength source

/-- A node ends inside the source, and one of a function covers a piece of it. -/
def Bounded (source : List Char) (l : Label) (_ : List Tree) : Prop :=
  l.stop ≤ byteLength source ∧
    (l.named = true → l.kind.isFunction = true → IsPiece source l.start l.stop)

theorem bounded_of_other (source : List Char) (l : Label) (children : List Tree)
    (inside : l.stop ≤ byteLength source)
    (other : (l.named && l.kind.isFunction) = false) : Bounded source l children := by
  refine ⟨inside, ?_⟩
  intro named function
  rw [named, function] at other
  cases other

namespace Grammar

/-- Whether the nodes of functions that a grammar makes itself have a visible beginning. -/
def beginsFunctions (rules : Rule → Grammar) : Grammar → Bool
  | .token _ (some (kind, named)) => !(named && kind.isFunction)
  | .node kind g => !kind.isFunction || (opens rules 20 false g && eats rules 20 g)
  | .chain _ steps => steps.all fun step => !step.1.isFunction
  | _ => true

theorem rules_beginFunctions :
    ∀ r : Rule, throughout (beginsFunctions Rule.grammar) 40 r.grammar = true := by
  intro r
  cases r <;> decide +kernel

theorem throughout_condition (condition : Grammar → Bool) (g : Grammar)
    (ok : ∃ depth, throughout condition depth g = true) : condition g = true := by
  obtain ⟨_ | depth, holds⟩ := ok
  · cases holds
  · exact ((throughout_iff condition depth g).mp holds).1

theorem throughout_parts (condition : Grammar → Bool) (g : Grammar)
    (ok : ∃ depth, throughout condition depth g = true) :
    ∀ part ∈ g.parts, ∃ depth, throughout condition depth part = true := by
  obtain ⟨_ | depth, holds⟩ := ok
  · cases holds
  · exact fun part member => ⟨depth, ((throughout_iff condition depth g).mp holds).2 part member⟩

/-- A node of a function covers a piece of the source. -/
theorem node_isPiece (source : List Char) (depth fuel : Nat) (setting : Setting) (g : Grammar)
    (p q : Place) (opening : opens Rule.grammar depth false g = true)
    (eating : eats Rule.grammar depth g = true) (here : p.In source)
    (followed : follow Rule.grammar fuel setting g { p.settle with trees := [] } = some q) :
    IsPiece source p.position q.last := by
  have there := here.within.of_reaches
    (follow_reaches Rule.grammar fuel setting g _ q here.ordered followed)
  obtain ⟨before, whole, position⟩ := here.aligned
  exact ⟨⟨before, p.rest, whole, position,
      follow_visible depth fuel setting g { p.settle with trees := [] } q opening followed⟩,
    follow_eats Rule.grammar depth fuel setting g { p.settle with trees := [] } q eating
      here.ordered followed,
    there.last_le⟩

theorem beginsFunctions_preserves (source : List Char) :
    Preserves Rule.grammar source
      (fun g => ∃ depth, throughout (beginsFunctions Rule.grammar) depth g = true)
      (Bounded source) where
  named r := ⟨40, rules_beginFunctions r⟩
  parts := throughout_parts _
  comment p here range passed := by
    have behind := Trivia.skip_behind p.position p.rest range passed
    have there := here.of_reaches (p.afterTrivia_reaches here.ordered)
    exact bounded_of_other source _ _ (Nat.le_trans behind there.position_le) rfl
  leaf t kind named ok p here m read := by
    have split := t.read_splits p.rest m read
    have there := here.of_reaches (p.take_reaches m none false here.ordered split)
    have other := throughout_condition _ _ ok
    rw [beginsFunctions, Bool.not_eq_true'] at other
    exact bounded_of_other source _ _ there.position_le other
  node kind g ok fuel setting p q here followed := by
    have there := here.within.of_reaches
      (follow_reaches Rule.grammar fuel setting g _ q here.ordered followed)
    refine ⟨there.last_le, ?_⟩
    intro _ function
    have begins := throughout_condition _ _ ok
    rw [beginsFunctions, function, Bool.not_true, Bool.false_or, Bool.and_eq_true] at begins
    exact node_isPiece source 20 fuel setting g p q begins.1 begins.2 here followed
  role _ _ _ _ _ _ _ _ _ _ _ _ bounded := bounded
  step first steps ok step listed start children q here := by
    have others := throughout_condition _ _ ok
    have other := List.all_eq_true.mp others step listed
    exact bounded_of_other source _ _ here.last_le (by simpa using other)
  stepRole _ _ _ _ _ _ _ _ _ bounded := bounded

end Grammar

theorem form?_function (source : List Char) (c : Cursor) (form : Form)
    (found : form? source c = some form) :
    c.focus.label.named = true ∧ c.focus.label.kind.isFunction = true := by
  unfold form? at found
  dsimp only at found
  split at found
  · cases found
  · next named =>
    refine ⟨by simpa using named, ?_⟩
    change c.focus.kind.isFunction = true
    split at found
    all_goals first | cases found; done | simp [*, Kind.isFunction]

theorem declaresType_begins (source : List Char) (l : Label) (children : List Tree)
    (declares : DeclaresType source l children) (inside : l.stop ≤ byteLength source) :
    IsPiece source l.start l.stop := by
  obtain ⟨before, behind, whole, position, beyond, _⟩ := declares
  obtain ⟨passed, _, moved⟩ := (Trivia.skip_passes (l.start + 1) behind).text
  refine ⟨⟨before, ':' :: behind, whole, position, ':', behind, rfl, by decide⟩, ?_, inside⟩
  dsimp only at beyond moved
  omega

/-- The span is that of a piece of the source. -/
structure Span.OfPiece (source : List Char) (span : Span) : Prop where
  piece : IsPiece source span.start span.stop
  placed : span = spanOf source span.start span.stop

section Spans

variable {source : List Char} {span : Span} (covers : Span.OfPiece source span)

include covers

theorem Span.OfPiece.length_le : span.start + span.length ≤ byteLength source := by
  have nonempty := covers.piece.nonempty
  have inside := covers.piece.inside
  unfold Span.length
  omega

theorem Span.OfPiece.isPlace : IsPlace source span.start span.line span.column := by
  obtain ⟨before, behind, rfl, position, _⟩ := covers.piece.begins
  have placed := spanOf_isPlace before behind span.stop
  rw [position, ← covers.placed] at placed
  exact placed

/-- The line of a span is a line of the source, and holds the first byte of the span. -/
theorem Span.OfPiece.line : ∃ line, line? source span.line = some line ∧
    HoldsLine source span.start line := by
  obtain ⟨before, _, whole, position, c, cs, rfl, seen⟩ := covers.piece.begins
  obtain ⟨lead, tail, behind, divided, lines, last, start, number, _⟩ := covers.isPlace.divided
  obtain ⟨_, rfl⟩ := append_unique before (c :: cs) (lead ++ tail) behind
    (by rw [← whole, divided, List.append_assoc])
    (by rw [position, start, byteLength_append])
  have feed : c ≠ '\n' := by
    rintro rfl
    exact absurd seen (by decide)
  have cr : c ≠ '\r' := by
    rintro rfl
    exact absurd seen (by decide)
  rw [divided, number, start]
  exact line_of_visible lead tail c cs lines last feed cr

end Spans

/-- The functions of a source and their annotations cover pieces of it. -/
theorem functions_ofPiece (source : List Char) (dialect : Dialect) (t : Tree)
    (read : tree? source dialect = some t) (f : FunctionNode)
    (lowered : f ∈ functionsOf source t) :
    Span.OfPiece source f.span ∧
      ∀ declared, f.returnType = some declared → Span.OfPiece source declared.span := by
  obtain ⟨c, bounded, made⟩ := functions_everywhere (Grammar.beginsFunctions_preserves source)
    ⟨4, rfl⟩ dialect t read f lowered
  have here := c.focus.everywhere_here bounded
  obtain ⟨form, found, same⟩ := Option.map_eq_some_iff.mp made
  obtain ⟨named, function⟩ := form?_function source c form found
  constructor
  · subst same
    exact ⟨here.2 named function, rfl⟩
  · intro declared annotated
    obtain ⟨l, children, node⟩ :=
      functions_lowered source dialect t read f declared lowered annotated
    subst same
    obtain ⟨u, role, made⟩ := Option.map_eq_some_iff.mp annotated
    have child := c.focus.everywhere_children bounded u (List.mem_of_find?_eq_some role)
    have spanned : declared.span = spanOfTree source u := by
      rw [← made]
      dsimp only
      split <;> rfl
    have last : l.stop = u.label.stop := by
      have same := node.span.symm.trans spanned
      exact congrArg Span.stop same
    have inside : l.stop ≤ byteLength source := by
      rw [last]
      exact (u.everywhere_here child).1
    rw [node.span]
    exact ⟨declaresType_begins source l children node.declares inside, rfl⟩

end ResultLint.Source
