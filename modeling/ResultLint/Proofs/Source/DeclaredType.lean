import ResultLint.FileContext
import ResultLint.ReturnType.Rule
import ResultLint.Source.File
import ResultLint.Proofs.Source.Annotated
import ResultLint.Proofs.Text.Blank

/-!
What the span of a declared return type covers. Without a comment behind the colon it is the
type itself; with one it is that comment, since the first named node of the annotation is taken
and comments are named nodes.
-/
namespace ResultLint.Source

open Text

/-- The span is that of the annotated type: it lies inside the annotation, ends with it, and only
white space and comments stand between the colon and its beginning. -/
structure DeclaredType.Covers (source : List Char) (d : DeclaredType) : Prop where
  inside : d.span.start < d.typeSpan.start ∧ d.typeSpan.start < d.typeSpan.stop ∧
    d.typeSpan.stop ≤ d.span.stop
  ends : d.typeSpan.stop = d.span.stop
  gap : ∃ before gap behind, source = before ++ ':' :: (gap ++ behind) ∧
    byteLength before = d.span.start ∧ d.span.start + 1 + byteLength gap = d.typeSpan.start ∧
    IsTrivia behind gap

/-- A comment is the first thing behind the colon at a position. -/
def CommentBehindColon (source : List Char) (position : Nat) (comment : List Char) : Prop :=
  ∃ before gap rest, source = before ++ ':' :: (gap ++ (comment ++ rest)) ∧
    byteLength before = position ∧ (∀ c ∈ gap, isSpacing c = true) ∧ IsComment comment rest

/-- Every tree that is read gives the role of a return type to annotations only. -/
theorem tree_sound (source : List Char) (dialect : Dialect) (t : Tree)
    (read : tree? source dialect = some t) : t.Sound source := by
  obtain ⟨q, followed, first⟩ := Option.bind_eq_some_iff.mp read
  have aligned := behindInterpreterLine_split source
  have start := Grammar.Place.afterTrivia_reaches
    ⟨(behindInterpreterLine source).1, (behindInterpreterLine source).2, [], false,
      (behindInterpreterLine source).2, (behindInterpreterLine source).2, []⟩
    ⟨Nat.le_refl _, Nat.le_refl _⟩
  have fits := Grammar.follow_fits source _ 4 _ _ _ q rfl
    ⟨start.ordered, Grammar.Place.aligned_of_reaches source _ _ aligned start, by
      simp [Grammar.Place.afterTrivia]⟩ followed
  exact fits.sound t (List.mem_of_head? first)

/-- The declared type that a node of an annotation is lowered to. -/
structure LoweredFrom (source : List Char) (l : Label) (children : List Tree)
    (d : DeclaredType) : Prop where
  declares : DeclaresType source l children
  span : d.span = spanOf source l.start l.stop
  named : ∀ type, (children.find? fun t => t.label.named) = some type →
    d.typeSpan = spanOfTree source type
  unnamed : (children.find? fun t => t.label.named) = none →
    d.typeSpan = behindColon d.span ((slice? source l.start l.stop).getD [])

theorem functions_lowered (source : List Char) (dialect : Dialect) (t : Tree)
    (read : tree? source dialect = some t) (f : FunctionNode) (d : DeclaredType)
    (lowered : f ∈ functionsOf source t) (declared : f.returnType = some d) :
    ∃ l children, LoweredFrom source l children d := by
  obtain ⟨c, visited, made⟩ := List.mem_filterMap.mp lowered
  have sound := Cursor.walk_holds (Tree.Sound source) (Tree.sound_children source) t
    (tree_sound source dialect t read) c visited
  obtain ⟨form, _, rfl⟩ := Option.map_eq_some_iff.mp made
  obtain ⟨annotated, role, same⟩ := Option.map_eq_some_iff.mp declared
  have child := Tree.sound_children source c.focus sound annotated
    (List.mem_of_find?_eq_some role)
  cases child with
  | node l children _ declares =>
    have returned : l.role = some .returnType := by
      simpa [Tree.label] using List.find?_some role
    dsimp only [Tree.children] at same
    split at same
    · next type found =>
      subst same
      refine ⟨l, children, declares returned, rfl, ?_, ?_⟩
      · intro other first
        rw [found] at first
        cases first
        rfl
      · intro missing
        rw [found] at missing
        cases missing
    · next missing =>
      subst same
      refine ⟨l, children, declares returned, rfl, ?_, ?_⟩
      · intro type found
        rw [missing] at found
        cases found
      · intro _
        dsimp only
        rw [textOf, String.toList_ofList]
        rfl

/-- The first comment behind the colon is the first child of the annotation. -/
theorem declaresType_comment (source : List Char) (l : Label) (children : List Tree)
    (comment : List Char) (declares : DeclaresType source l children)
    (opens : CommentBehindColon source l.start comment) :
    ∃ start others, children = Grammar.commentTree (start, start + byteLength comment) :: others ∧
      slice? source start (start + byteLength comment) = some comment ∧
      start + byteLength comment < l.stop := by
  obtain ⟨before, behind, whole, position, beyond, contents⟩ := declares
  obtain ⟨front, gap, rest, divided, size, blank, isComment⟩ := opens
  obtain ⟨rfl, tail⟩ := append_unique before (':' :: behind) front _
    (whole.symm.trans divided) (position.trans size.symm)
  cases tail
  obtain ⟨last, reached⟩ := Trivia.skip_comment (l.start + 1) gap comment rest blank isComment
  obtain ⟨later, commented⟩ := List.getLast?_eq_some_iff.mp last
  have lead : byteLength (before ++ ':' :: gap) = l.start + 1 + byteLength gap := by
    rw [byteLength_append, position, Nat.add_assoc]
    rfl
  have slice := slice_middle (before ++ ':' :: gap) comment rest
  have parts : before ++ ':' :: gap ++ comment ++ rest = source := by
    rw [whole]
    simp
  rw [parts, lead] at slice
  rw [commented, List.reverse_append, List.reverse_singleton, List.singleton_append,
    List.map_cons] at contents
  rcases contents with ⟨type, _, _, _, rfl⟩ | ⟨after, _, _, rfl⟩
  · exact ⟨_, _, rfl, slice, Nat.lt_of_le_of_lt reached beyond⟩
  · exact ⟨_, _, rfl, slice, Nat.lt_of_le_of_lt reached beyond⟩

/-- Without a comment behind the colon the annotation holds the type alone, behind white space. -/
theorem declaresType_uncommented (source : List Char) (l : Label) (children : List Tree)
    (declares : DeclaresType source l children)
    (uncommented : ¬ ∃ comment, CommentBehindColon source l.start comment) :
    ∃ before gap rest, source = before ++ ':' :: (gap ++ rest) ∧ byteLength before = l.start ∧
      (∀ c ∈ gap, isSpacing c = true) ∧ l.start + 1 + byteLength gap < l.stop ∧
      ((∃ type : Tree, type.label.named = true ∧
          type.label.start = l.start + 1 + byteLength gap ∧ type.label.stop = l.stop ∧
          children = [type]) ∨
        (∃ after, rest = "const".toList ++ after ∧
          l.stop = l.start + 1 + byteLength gap + 5 ∧ children = [])) := by
  obtain ⟨before, behind, whole, position, beyond, contents⟩ := declares
  obtain ⟨gap, rest, rfl, blank, visible⟩ := spacing_split behind
  have none (comment after : List Char) (opens : IsComment comment after) :
      rest ≠ comment ++ after := by
    rintro rfl
    exact uncommented ⟨comment, before, gap, after, whole, position, blank, opens⟩
  obtain ⟨rest', empty, moved⟩ := Trivia.skip_bare (l.start + 1) gap rest blank visible none
  rw [moved] at beyond
  refine ⟨before, gap, rest, whole, position, blank, beyond, ?_⟩
  rw [rest', empty, moved] at contents
  exact contents

/-- Where the word `const` stands behind the colon, the span begins no later than the word and
ends with it: white space that trimming does not know stays in. -/
theorem behindColon_const (annotated : Span) (gap : List Char)
    (blank : ∀ c ∈ gap, isSpacing c = true) :
    ∃ front back, gap = front ++ back ∧
      (behindColon annotated (':' :: (gap ++ "const".toList))).start =
        annotated.start + 1 + byteLength front ∧
      (behindColon annotated (':' :: (gap ++ "const".toList))).stop =
        annotated.start + 1 + byteLength gap + 5 := by
  have word : "const".toList = ['c', 'o', 'n', 's', 't'] := by decide
  have uncoloned : (':' :: (gap ++ "const".toList)).dropWhile (· == ':') =
      gap ++ "const".toList := by
    cases gap with
    | nil => decide
    | cons c cs =>
      have spacing := blank c List.mem_cons_self
      have other : (c == ':') = false := by
        rw [beq_eq_false_iff_ne]
        rintro rfl
        exact absurd spacing (by decide)
      rw [List.dropWhile_cons_of_pos (by decide), List.cons_append,
        List.dropWhile_cons_of_neg (by simp [other])]
  have trimmed : trimStart (gap ++ "const".toList) = gap.dropWhile isBlank ++ "const".toList := by
    rw [trimStart, List.dropWhile_append]
    split
    · next empty =>
      rw [List.isEmpty_iff.mp empty]
      decide
    · rfl
  have ended : trimEnd (gap.dropWhile isBlank ++ "const".toList) =
      gap.dropWhile isBlank ++ "const".toList := by
    rw [word]
    exact trimEnd_append _ _ (by decide) (by decide)
  have parts : byteLength gap =
      byteLength (gap.takeWhile isBlank) + byteLength (gap.dropWhile isBlank) := by
    rw [← byteLength_append, List.takeWhile_append_dropWhile]
  have raw : byteLength (':' :: (gap ++ "const".toList)) = 1 + (byteLength gap + 5) := by
    rw [← byteLength_const, ← byteLength_append]
    rfl
  have kept : byteLength (gap.dropWhile isBlank ++ "const".toList) =
      byteLength (gap.dropWhile isBlank) + 5 := by
    rw [byteLength_append, byteLength_const]
  refine ⟨gap.takeWhile isBlank, gap.dropWhile isBlank, List.takeWhile_append_dropWhile.symm,
    ?_, ?_⟩
  · unfold behindColon
    dsimp only
    rw [uncoloned, trimmed, kept, raw]
    omega
  · unfold behindColon
    dsimp only
    rw [uncoloned, trimmed, ended, kept, raw]
    omega

/-- The text of an annotation whose type is the word `const`. -/
theorem slice_const (before gap after : List Char) :
    slice? (before ++ ':' :: (gap ++ ("const".toList ++ after))) (byteLength before)
      (byteLength before + 1 + byteLength gap + 5) = some (':' :: (gap ++ "const".toList)) := by
  have slice := slice_middle before (':' :: (gap ++ "const".toList)) after
  have size : byteLength before + byteLength (':' :: (gap ++ "const".toList)) =
      byteLength before + 1 + byteLength gap + 5 := by
    rw [byteLength, byteLength_append, byteLength_const, ← Nat.add_assoc, ← Nat.add_assoc]
    rfl
  have parts : before ++ ':' :: (gap ++ "const".toList) ++ after =
      before ++ ':' :: (gap ++ ("const".toList ++ after)) := by
    rw [List.append_assoc, List.cons_append, List.append_assoc]
  rw [parts, size] at slice
  exact slice

/-- Without a comment behind the colon the span is that of the type. -/
theorem covers_of_uncommented (source : List Char) (l : Label) (children : List Tree)
    (d : DeclaredType) (lowered : LoweredFrom source l children d)
    (uncommented : ¬ ∃ comment, CommentBehindColon source l.start comment) :
    d.Covers source := by
  obtain ⟨before, gap, rest, whole, position, blank, beyond, contents⟩ :=
    declaresType_uncommented source l children lowered.declares uncommented
  have first : d.span.start = l.start := by rw [lowered.span]; rfl
  have last : d.span.stop = l.stop := by rw [lowered.span]; rfl
  rcases contents with ⟨type, named, start, stop, rfl⟩ | ⟨after, rfl, stop, rfl⟩
  · have typeSpan := lowered.named type (by rw [List.find?_singleton, if_pos named])
    have typeStart : d.typeSpan.start = type.label.start := by rw [typeSpan]; rfl
    have typeStop : d.typeSpan.stop = type.label.stop := by rw [typeSpan]; rfl
    refine ⟨by omega, by omega, before, gap, rest, whole, by omega, by omega, ?_⟩
    exact isTrivia_of_spacing gap rest blank
  · obtain ⟨front, back, rfl, typeStart, typeStop⟩ := behindColon_const d.span gap blank
    have typeSpan := lowered.unnamed rfl
    have raw := slice_const before (front ++ back) after
    rw [← whole, position, ← stop] at raw
    rw [raw, Option.getD_some] at typeSpan
    rw [← typeSpan] at typeStart typeStop
    have sizes := byteLength_append front back
    refine ⟨by omega, by omega, before, front, back ++ ("const".toList ++ after), ?_, by omega,
      by omega, ?_⟩
    · rw [whole, List.append_assoc]
    · exact isTrivia_of_spacing front _ fun c inside => blank c (List.mem_append_left back inside)

/-- In a source without syntax errors the span of a declared type is that of the type exactly if
no comment stands behind the colon; else what a rule reads there is that comment. -/
theorem declaredType_covers_iff [Recovery] (source : List Char) (dialect : Dialect)
    (intact : (SourceFile.parse source dialect).hasErrors = false) (f : FunctionNode)
    (d : DeclaredType) (lowered : f ∈ (SourceFile.parse source dialect).functions)
    (declared : f.returnType = some d) :
    (d.Covers source ↔ ¬ ∃ comment, CommentBehindColon source d.span.start comment) ∧
      ∀ comment, CommentBehindColon source d.span.start comment →
        ∀ ctx : FileContext, ctx.content = source → ctx.text d.typeSpan = comment := by
  obtain ⟨t, read, same⟩ := SourceFile.exists_tree source dialect intact
  rw [same] at lowered
  obtain ⟨l, children, node⟩ := functions_lowered source dialect t read f d lowered declared
  have first : d.span.start = l.start := by rw [node.span]; rfl
  have last : d.span.stop = l.stop := by rw [node.span]; rfl
  have commented (comment : List Char) (opens : CommentBehindColon source l.start comment) :
      slice? source d.typeSpan.start d.typeSpan.stop = some comment ∧
        d.typeSpan.stop < d.span.stop := by
    obtain ⟨start, others, rfl, slice, short⟩ :=
      declaresType_comment source l children comment node.declares opens
    rw [node.named _ (List.find?_cons_of_pos rfl), last]
    exact ⟨slice, short⟩
  rw [first]
  refine ⟨⟨?_, ?_⟩, ?_⟩
  · rintro covers ⟨comment, opens⟩
    have short := (commented comment opens).2
    have ends := covers.ends
    omega
  · exact covers_of_uncommented source l children d node
  · rintro comment opens ctx rfl
    rw [FileContext.text, (commented comment opens).1, Option.getD_some]

/-- The statement at a function whose type stands right behind the colon. -/
theorem declaredType_covers_iff_number :
    let source := "function f(): number {}".toList
    let d : DeclaredType := ⟨⟨12, 20, 1, 13⟩, ⟨14, 20, 1, 15⟩⟩
    (SourceFile.parse source .typescript).hasErrors = false ∧
      (⟨.declaration (some "f"), .other, some d, true, ⟨0, 23, 1, 1⟩⟩ : FunctionNode) ∈
        (SourceFile.parse source .typescript).functions ∧
      (d.Covers source ↔ ¬ ∃ comment, CommentBehindColon source d.span.start comment) ∧
      ∀ comment, CommentBehindColon source d.span.start comment →
        ∀ ctx : FileContext, ctx.content = source → ctx.text d.typeSpan = comment := by
  intro source d
  have intact : (SourceFile.parse source .typescript).hasErrors = false := by
    decide +kernel
  have lowered : (⟨.declaration (some "f"), .other, some d, true, ⟨0, 23, 1, 1⟩⟩ : FunctionNode) ∈
      (SourceFile.parse source .typescript).functions := by
    decide +kernel
  exact ⟨intact, lowered, declaredType_covers_iff source .typescript intact _ d lowered rfl⟩

/-- A comment behind the colon takes the place of the type, and a rule that allows the comment's
text passes a function that it reports without the comment. -/
theorem declaredType_hidden_by_comment :
    let plain := "function f(): number {}".toList
    let commented := "function f(): /* void */ number {}".toList
    let found (source : List Char) : List Violation :=
      (ReturnType.rule .default .error).check
        (.ofFile (.ofString "/p/a.ts") source (.ofString "/p")) (.parse source .typescript)
    (SourceFile.parse commented .typescript).hasErrors = false ∧
      (∃ f ∈ (SourceFile.parse commented .typescript).functions, ∃ d, f.returnType = some d ∧
        ¬ d.Covers commented ∧
        slice? commented d.typeSpan.start d.typeSpan.stop = some "/* void */".toList) ∧
      (found plain).length = 1 ∧ found commented = [] := by
  intro plain commented found
  refine ⟨by decide +kernel, ⟨⟨.declaration (some "f"), .other,
    some ⟨⟨12, 31, 1, 13⟩, ⟨14, 24, 1, 15⟩⟩, true, ⟨0, 34, 1, 1⟩⟩, by decide +kernel, _, rfl, ?_,
    by decide +kernel⟩, by decide +kernel, by decide +kernel⟩
  intro covers
  have ends := covers.ends
  simp at ends

end ResultLint.Source
