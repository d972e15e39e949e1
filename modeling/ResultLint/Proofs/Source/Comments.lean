import ResultLint.Proofs.Source.Extent

/-!
The comments of a source, as it is lexed: those that are passed between tokens on the way through
the grammar, wherever the reading puts them. The text of each of them, where it is said to be, is
that of a comment.
-/
namespace ResultLint.Source

open Text

/-- The ranges of the comments in a tree, each before those behind it. -/
def Tree.comments : Tree → List (Nat × Nat)
  | .node l ts => (if l.kind = .comment then [(l.start, l.stop)] else []) ++ commentsAll ts
where
  commentsAll : List Tree → List (Nat × Nat)
    | [] => []
    | t :: ts => comments t ++ commentsAll ts

/-- The comments of a source; one that does not follow the grammar is not lexed. Those in front of
the first token stand beside the tree, and those behind the last one wait for a token. -/
def comments (source : List Char) (dialect : Dialect) : List (Nat × Nat) :=
  match reading? source dialect with
  | some p => Tree.comments.commentsAll p.trees.reverse ++ p.comments.reverse
  | none => []

/-- A range of a source that a comment takes. -/
def IsCommentAt (source : List Char) (start stop : Nat) : Prop :=
  ∃ before text rest, source = before ++ (text ++ rest) ∧ byteLength before = start ∧
    stop = start + byteLength text ∧ IsComment text rest

namespace Trivia

/-- Behind the end of a line comment white space is passed again. -/
theorem pass_line_next (start : Nat) (t : Trivia) (rest : List Char)
    (ended : ∀ c, rest.head? = some c → endsLineComment c = true) :
    ∃ plain u gap onward, pass (.line start) t rest = pass (.spacing plain) u onward ∧
      rest = gap ++ onward ∧ u.position = t.position + byteLength gap ∧
      u.comments = (start, t.position) :: t.comments := by
  cases rest with
  | nil => exact ⟨true, t.addComment start t.position, [], [], rfl, rfl, rfl, rfl⟩
  | cons c cs =>
    have last := ended c rfl
    refine ⟨decide (c.toNat < 0x80), { t.addComment start t.position with
      position := t.position + c.utf8Size, newline := t.newline || c == '\n' }, [c], cs, ?_, rfl,
      rfl, rfl⟩
    rw [pass.eq_def]
    split
    · next same => cases same
    · next same => cases same; exact absurd last (by decide)
    · next same => cases same; exact absurd last (by decide)
    · next same => cases same; exact absurd last (by decide)
    · next same =>
      cases same
      dsimp only
      rw [if_pos last]
      rfl

/-- Passing a comment adds its range, and white space is passed behind it. -/
theorem pass_comment_next (plain : Bool) (t : Trivia) (comment rest : List Char)
    (opens : IsComment comment rest) :
    ∃ plain' u gap onward,
      pass (.spacing plain) t (comment ++ rest) = pass (.spacing plain') u onward ∧
      rest = gap ++ onward ∧
      u.position = t.position + byteLength comment + byteLength gap ∧
      u.comments = (t.position, t.position + byteLength comment) :: t.comments := by
  cases opens with
  | line body rest within ended =>
    rw [pass_lineComment plain t body rest within]
    exact pass_line_next t.position _ rest ended
  | block body rest within =>
    rw [pass_blockComment plain t body rest within]
    exact ⟨true, _, [], rest, rfl, rfl, rfl, rfl⟩

theorem comment_ne_nil (comment rest : List Char) (opens : IsComment comment rest) :
    comment ≠ [] := by
  cases opens <;> simp

/-- What white space and comments are passed at holds only comments of the source. -/
theorem pass_sound (source before s : List Char) (plain : Bool) (t : Trivia)
    (whole : source = before ++ s) (position : byteLength before = t.position)
    (sound : ∀ range ∈ t.comments, IsCommentAt source range.1 range.2) :
    ∀ range ∈ (pass (.spacing plain) t s).comments, IsCommentAt source range.1 range.2 := by
  -- from one comment to the next, so that only white space and whole comments are met
  induction size : s.length using Nat.strongRecOn generalizing before s plain t with
  | ind n ih =>
    obtain ⟨gap, rest, rfl, blank, visible⟩ := spacing_split s
    obtain ⟨plainly, newline, spaced⟩ := pass_spacing plain t gap rest blank
    rw [spaced]
    by_cases commented : ∃ comment behind, IsComment comment behind ∧ rest = comment ++ behind
    · obtain ⟨comment, behind, opens, rfl⟩ := commented
      obtain ⟨plain', u, gap', onward, next, rfl, moved, found⟩ :=
        pass_comment_next plainly
          { t with position := t.position + byteLength gap, newline := newline } comment behind
          opens
      rw [next]
      have shorter : onward.length < n := by
        have some := List.length_pos_of_ne_nil (comment_ne_nil comment _ opens)
        simp only [List.length_append] at size
        omega
      refine ih onward.length shorter (before ++ gap ++ comment ++ gap') onward plain' u ?_ ?_ ?_
        rfl
      · rw [whole]
        simp only [List.append_assoc]
      · rw [moved, byteLength_append, byteLength_append, byteLength_append, position]
      · rw [found, List.forall_mem_cons]
        refine ⟨⟨before ++ gap, comment, gap' ++ onward, ?_, ?_, rfl, opens⟩, sound⟩
        · rw [whole, List.append_assoc]
        · rw [byteLength_append, position]
    · have bare : ∀ comment behind, IsComment comment behind → rest ≠ comment ++ behind :=
        fun comment behind opens same => commented ⟨comment, behind, opens, same⟩
      rw [pass_bare plainly _ rest visible bare]
      exact sound

theorem skip_sound (source before s : List Char) (whole : source = before ++ s) :
    ∀ range ∈ (skip (byteLength before) s).comments, IsCommentAt source range.1 range.2 :=
  pass_sound source before s true _ whole rfl (by simp)

end Trivia

/-- A node of a comment takes the range of a comment. -/
def Commented (source : List Char) (l : Label) (_ : List Tree) : Prop :=
  l.kind = .comment → IsCommentAt source l.start l.stop

namespace Grammar

/-- Whether the nodes that a grammar makes itself are none of comments. -/
def makesNoComment : Grammar → Bool
  | .token _ (some (kind, _)) => kind != .comment
  | .node kind _ => kind != .comment
  | .chain _ steps => steps.all fun step => step.1 != .comment
  | _ => true

theorem rules_makeNoComment :
    ∀ r : Rule, throughout makesNoComment 40 r.grammar = true := by
  intro r
  cases r <;> decide +kernel

/-- Comments come into a tree only where white space and comments are passed. -/
theorem makesNoComment_preserves (source : List Char) :
    Preserves Rule.grammar source
      (fun g => ∃ depth, throughout makesNoComment depth g = true) (Commented source) where
  named r := ⟨40, rules_makeNoComment r⟩
  parts := throughout_parts _
  comment p here range passed := by
    obtain ⟨before, whole, position⟩ := here.aligned
    rw [← position] at passed
    exact fun _ => Trivia.skip_sound source before p.rest whole range passed
  leaf t kind named ok p _ m _ := by
    have other := throughout_condition _ _ ok
    intro same
    rw [makesNoComment, show kind = Kind.comment from same] at other
    cases other
  node kind g ok _ _ _ _ _ _ := by
    have other := throughout_condition _ _ ok
    intro same
    rw [makesNoComment, show kind = Kind.comment from same] at other
    cases other
  role _ _ _ _ _ _ _ _ _ _ _ _ commented := commented
  step first steps ok step listed start children q _ := by
    have others := throughout_condition _ _ ok
    have other := List.all_eq_true.mp others step listed
    intro same
    rw [show step.1 = Kind.comment from same] at other
    cases other
  stepRole _ _ _ _ _ _ _ _ _ commented := commented

end Grammar

theorem Tree.mem_commentsAll (range : Nat × Nat) (ts : List Tree) :
    range ∈ Tree.comments.commentsAll ts ↔ ∃ t ∈ ts, range ∈ t.comments := by
  induction ts with
  | nil => simp [Tree.comments.commentsAll]
  | cons t ts ih => simp [Tree.comments.commentsAll, ih]

theorem Tree.comments_sound (source : List Char) (t : Tree)
    (whole : t.Everywhere (Commented source)) :
    ∀ range ∈ t.comments, IsCommentAt source range.1 range.2 := by
  induction whole with
  | node l children _ here ih =>
    intro range member
    rw [Tree.comments, List.mem_append, Tree.mem_commentsAll] at member
    rcases member with own | ⟨t, child, inner⟩
    · split at own
      · next kind =>
        rw [List.mem_singleton.mp own]
        exact here kind
      · cases own
    · exact ih t child range inner

/-- What is lexed as a comment is one, at its place in the text. -/
theorem comments_sound (source : List Char) (dialect : Dialect) :
    ∀ range ∈ comments source dialect, IsCommentAt source range.1 range.2 := by
  intro range member
  unfold comments at member
  split at member
  · next q read =>
    have last : q.Holds source (Commented source) := by
      have kept := Grammar.makesNoComment_preserves source
      refine kept.follow _ _ _ _ q ⟨4, rfl⟩ (kept.afterTrivia ?_) read
      exact ⟨⟨⟨Nat.le_refl _, Nat.le_refl _⟩, behindInterpreterLine_split source⟩, by simp, by simp⟩
    rw [List.mem_append, Tree.mem_commentsAll, List.mem_reverse] at member
    rcases member with ⟨t, among, inner⟩ | waits
    · exact t.comments_sound source (last.trees t (List.mem_reverse.mp among)) range inner
    · exact (Grammar.commentTree range).comments_sound source (last.waiting range waits) range
        (by simp [Grammar.commentTree, Tree.comments])
  · cases member

end ResultLint.Source
