import ResultLint.Source.Trivia
import ResultLint.Proofs.Text.Slice

/-!
What stands between tokens. Passing it loses nothing of the text and only adds comments, and the
first comment that it finds is the one that the white space in front of it leads up to.
-/
namespace ResultLint.Source

open Text

/-- A comment as the text that it takes, and what may follow it. A line comment runs up to a line
end, a block comment up to the first closing mark. -/
inductive IsComment : List Char → List Char → Prop
  | line (body rest : List Char) (within : ∀ c ∈ body, endsLineComment c = false)
      (ended : ∀ c, rest.head? = some c → endsLineComment c = true) :
      IsComment ('/' :: '/' :: body) rest
  | block (body rest : List Char) (within : Trivia.closes body = false) :
      IsComment ('/' :: '*' :: body ++ ['*', '/']) rest

/-- Text made of white space and comments, with what stands behind it. -/
inductive IsTrivia (behind : List Char) : List Char → Prop
  | nil : IsTrivia behind []
  | space (c : Char) (cs : List Char) (blank : isSpacing c = true) (more : IsTrivia behind cs) :
      IsTrivia behind (c :: cs)
  | comment (text rest : List Char) (opens : IsComment text (rest ++ behind))
      (more : IsTrivia behind rest) : IsTrivia behind (text ++ rest)

theorem isTrivia_of_spacing (gap behind : List Char) (blank : ∀ c ∈ gap, isSpacing c = true) :
    IsTrivia behind gap := by
  induction gap with
  | nil => exact .nil
  | cons c cs ih =>
    rw [List.forall_mem_cons] at blank
    exact .space c cs blank.1 (ih blank.2)

/-- The white space that a text begins with. -/
theorem spacing_split (s : List Char) :
    ∃ gap rest, s = gap ++ rest ∧ (∀ c ∈ gap, isSpacing c = true) ∧
      ∀ c, rest.head? = some c → isSpacing c = false := by
  refine ⟨s.takeWhile isSpacing, s.dropWhile isSpacing, List.takeWhile_append_dropWhile.symm,
    List.all_eq_true.mp List.all_takeWhile, ?_⟩
  intro c first
  have stopped := List.head?_dropWhile_not isSpacing s
  rw [first] at stopped
  simpa using stopped

namespace Trivia

/-- What holds between what was passed before some text and what is passed behind it. -/
structure Passes (t : Trivia) (s : List Char) (r : Trivia) : Prop where
  text : ∃ passed, s = passed ++ r.rest ∧ r.position = t.position + byteLength passed
  comments : t.comments <:+ r.comments
  lineStop : t.lineStop ≤ r.lineStop ∧ r.lineStop ≤ r.position

theorem passes_stay (t : Trivia) (s : List Char) (reached : t.lineStop ≤ t.position) :
    t.Passes s { t with rest := s } :=
  ⟨⟨[], rfl, rfl⟩, List.suffix_refl _, ⟨Nat.le_refl _, reached⟩⟩

/-- Going past a piece of the text first. -/
theorem passes_step (t u r : Trivia) (piece s : List Char) (deeper : u.Passes s r)
    (position : u.position = t.position + byteLength piece)
    (comments : t.comments <:+ u.comments) (lineStop : t.lineStop ≤ u.lineStop) :
    t.Passes (piece ++ s) r := by
  obtain ⟨⟨passed, whole, moved⟩, kept, behind⟩ := deeper
  refine ⟨⟨piece ++ passed, ?_, ?_⟩, comments.trans kept,
    Nat.le_trans lineStop behind.1, behind.2⟩
  · rw [whole, List.append_assoc]
  · rw [moved, position, byteLength_append]
    omega

theorem addComment_lineStop (t : Trivia) (start stop : Nat) (reached : t.lineStop ≤ stop) :
    t.lineStop ≤ (t.addComment start stop).lineStop ∧
      (t.addComment start stop).lineStop ≤ stop := by
  unfold addComment
  cases t.newline
  · exact ⟨reached, Nat.le_refl _⟩
  · exact ⟨Nat.le_refl _, reached⟩

theorem addComment_comments (t : Trivia) (start stop : Nat) :
    t.comments <:+ (t.addComment start stop).comments :=
  List.suffix_cons _ _

theorem pass_passes (mode : Mode) (t : Trivia) (s : List Char)
    (reached : t.lineStop ≤ t.position) : t.Passes s (pass mode t s) := by
  fun_induction pass mode t s with
  | case1 t start =>
    have line := addComment_lineStop t start t.position reached
    exact ⟨⟨[], rfl, rfl⟩, addComment_comments t start t.position, line⟩
  | case2 | case3 | case9 | case12 => exact passes_stay _ _ reached
  | case4 t cs start ih | case6 t cs plain ih | case8 t cs plain closed ih =>
    have deeper := ih (Nat.le_add_right_of_le reached)
    exact passes_step t _ _ [_, _] cs deeper rfl (List.suffix_refl _) (Nat.le_refl _)
  | case5 t cs start ih =>
    have line := addComment_lineStop { t with position := t.position + 2 } start (t.position + 2)
      (Nat.le_add_right_of_le reached)
    have deeper := ih line.2
    exact passes_step t _ _ ['*', '/'] cs deeper rfl (addComment_comments _ _ _) line.1
  | case7 t cs mode inside ih | case10 t cs mode inside ih =>
    have deeper := ih (Nat.le_add_right_of_le reached)
    exact passes_step t _ _ ['/'] _ deeper rfl (List.suffix_refl _) (Nat.le_refl _)
  | case13 t c cs _ _ _ start ended commented ih =>
    have line := addComment_lineStop t start t.position reached
    have deeper := ih (Nat.le_add_right_of_le line.2)
    exact passes_step t _ _ [c] cs deeper rfl (addComment_comments _ _ _) line.1
  | case11 t c cs _ _ _ onward plain blank plainly ih =>
    have deeper := ih (Nat.le_add_right_of_le reached)
    exact passes_step t _ _ [c] cs deeper rfl (List.suffix_refl _) (Nat.le_refl _)
  | case14 t c cs _ _ _ onward start within ih | case15 t c cs _ _ _ onward start ih =>
    have deeper := ih (Nat.le_add_right_of_le reached)
    exact passes_step t _ _ [c] cs deeper rfl (List.suffix_refl _) (Nat.le_refl _)

/-- The comments passed so far end before the position. -/
def Behind (t : Trivia) : Prop :=
  ∀ range ∈ t.comments, range.2 ≤ t.position

theorem behind_move (t : Trivia) (bytes : Nat) (newline : Bool) (behind : t.Behind) :
    Behind { t with position := t.position + bytes, newline := newline } :=
  fun range member => Nat.le_add_right_of_le (behind range member)

theorem behind_addComment (t : Trivia) (start : Nat) (behind : t.Behind) :
    (t.addComment start t.position).Behind :=
  List.forall_mem_cons.mpr ⟨Nat.le_refl _, behind⟩

theorem pass_behind (mode : Mode) (t : Trivia) (s : List Char) (behind : t.Behind) :
    (pass mode t s).Behind := by
  fun_induction pass mode t s with
  | case1 t start => exact behind_addComment t start behind
  | case2 | case3 | case9 | case12 => exact behind
  | case5 t cs start ih =>
    exact ih (behind_addComment _ start (behind_move t 2 t.newline behind))
  | case13 t c cs _ _ _ start ended commented ih =>
    exact ih (behind_move _ _ _ (behind_addComment t start behind))
  | case4 t | case6 t | case7 t | case8 t | case10 t | case11 t | case14 t | case15 t =>
    next ih => exact ih (behind_move t _ _ behind)

/-- A text that closes a block comment divides at the first closing mark. -/
theorem closes_split (s : List Char) (closed : closes s = true) :
    ∃ body rest, s = body ++ '*' :: '/' :: rest ∧ closes body = false := by
  fun_induction closes s with
  | case1 => cases closed
  | case2 cs => exact ⟨[], cs, rfl, rfl⟩
  | case3 c cs other ih =>
    obtain ⟨body, rest, whole, within⟩ := ih closed
    refine ⟨c :: body, rest, by rw [whole, List.cons_append], ?_⟩
    cases body with
    | nil => rw [closes, closes]; simp
    | cons d ds =>
      rw [closes, within]
      rintro tail rfl same
      cases same
      exact other _ rfl whole

theorem closes_append (body rest : List Char) :
    closes (body ++ '*' :: '/' :: rest) = true := by
  fun_induction closes body with
  | case1 => rfl
  | case2 cs => rfl
  | case3 c cs other ih =>
    rw [List.cons_append]
    unfold closes
    split
    · next h => cases h
    · rfl
    · next h => cases h; exact ih

/-- What is neither a mark nor part of one is passed as a character of its own. -/
theorem pass_spacing_cons (plain : Bool) (t : Trivia) (c : Char) (cs : List Char)
    (blank : isSpacing c = true) :
    ∃ plainly newline, pass (.spacing plain) t (c :: cs) =
      pass (.spacing plainly)
        { t with position := t.position + c.utf8Size, newline := newline } cs := by
  rw [pass.eq_def]
  split
  · next same => cases same
  · next same => cases same; exact absurd blank (by decide)
  · next same => cases same; exact absurd blank (by decide)
  · next same => cases same; exact absurd blank (by decide)
  · next same =>
    cases same
    dsimp only
    rw [if_pos blank]
    exact ⟨_, _, rfl⟩

theorem pass_line_slash (start : Nat) (t : Trivia) (cs : List Char) :
    pass (.line start) t ('/' :: cs) =
      pass (.line start) { t with position := t.position + 1 } cs := by
  rw [pass.eq_def]
  split
  · next same => cases same
  · next same => cases same
  · next same => cases same; rfl
  · next same => cases same; rfl
  · next same => cases same; rfl

theorem pass_line_cons (start : Nat) (t : Trivia) (c : Char) (cs : List Char)
    (within : endsLineComment c = false) :
    pass (.line start) t (c :: cs) =
      pass (.line start) { t with position := t.position + c.utf8Size } cs := by
  rw [pass.eq_def]
  split
  · next same => cases same
  · next same => cases same; rw [pass_line_slash]; rfl
  · next same => cases same; rfl
  · next same => cases same; rfl
  · next same =>
    cases same
    dsimp only
    rw [if_neg (by simp [within])]

theorem pass_block_cons (start : Nat) (t : Trivia) (c : Char) (cs : List Char)
    (open_ : ∀ tail, c = '*' → cs = '/' :: tail → False) :
    pass (.block start) t (c :: cs) =
      pass (.block start) { t with position := t.position + c.utf8Size } cs := by
  rw [pass.eq_def]
  split
  · next same => cases same
  · next same => cases same; exact (open_ _ rfl rfl).elim
  · next same => cases same; rfl
  · next same => cases same; rfl
  · next same => cases same; rfl

/-- White space only moves the position. -/
theorem pass_spacing (plain : Bool) (t : Trivia) (gap s : List Char)
    (blank : ∀ c ∈ gap, isSpacing c = true) :
    ∃ plainly newline, pass (.spacing plain) t (gap ++ s) =
      pass (.spacing plainly)
        { t with position := t.position + byteLength gap, newline := newline } s := by
  induction gap generalizing plain t with
  | nil => exact ⟨plain, t.newline, rfl⟩
  | cons c cs ih =>
    rw [List.forall_mem_cons] at blank
    obtain ⟨plainly, newline, first⟩ := pass_spacing_cons plain t c (cs ++ s) blank.1
    obtain ⟨plainly, newline, others⟩ :=
      ih plainly { t with position := t.position + c.utf8Size, newline := newline } blank.2
    refine ⟨plainly, newline, ?_⟩
    rw [List.cons_append, first, others, byteLength, Nat.add_assoc]

theorem pass_line (start : Nat) (t : Trivia) (body rest : List Char)
    (within : ∀ c ∈ body, endsLineComment c = false) :
    pass (.line start) t (body ++ rest) =
      pass (.line start) { t with position := t.position + byteLength body } rest := by
  induction body generalizing t with
  | nil => rfl
  | cons c cs ih =>
    rw [List.forall_mem_cons] at within
    rw [List.cons_append, pass_line_cons start t c _ within.1, ih _ within.2, byteLength,
      Nat.add_assoc]

theorem pass_block (start : Nat) (t : Trivia) (body rest : List Char)
    (within : closes body = false) :
    pass (.block start) t (body ++ '*' :: '/' :: rest) =
      pass (.block start) { t with position := t.position + byteLength body }
        ('*' :: '/' :: rest) := by
  fun_induction closes body generalizing t with
  | case1 => rfl
  | case2 cs => cases within
  | case3 c cs other ih =>
    rw [List.cons_append, pass_block_cons, ih _ within, byteLength, Nat.add_assoc]
    rintro tail rfl same
    cases cs with
    | nil => cases same
    | cons d ds =>
      cases same
      exact other ds rfl rfl

theorem pass_line_end (start : Nat) (t : Trivia) (rest : List Char)
    (ended : ∀ c, rest.head? = some c → endsLineComment c = true)
    (reached : t.lineStop ≤ t.position) :
    (t.addComment start t.position).Passes rest (pass (.line start) t rest) := by
  have line := addComment_lineStop t start t.position reached
  cases rest with
  | nil => exact passes_stay _ [] line.2
  | cons c cs =>
    have last := ended c rfl
    rw [pass.eq_def]
    split
    · next same => cases same
    · next same => cases same; exact absurd last (by decide)
    · next same => cases same; exact absurd last (by decide)
    · next same => cases same; exact absurd last (by decide)
    · next same =>
      cases same
      dsimp only
      rw [if_pos last]
      have deeper := pass_passes (.spacing (decide (c.toNat < 0x80)))
        { t.addComment start t.position with
          position := t.position + c.utf8Size, newline := t.newline || c == '\n' } cs
        (Nat.le_add_right_of_le line.2)
      exact passes_step _ _ _ [c] cs deeper rfl (List.suffix_refl _) (Nat.le_refl _)

theorem pass_lineComment (plain : Bool) (t : Trivia) (body rest : List Char)
    (within : ∀ c ∈ body, endsLineComment c = false) :
    pass (.spacing plain) t ('/' :: '/' :: body ++ rest) =
      pass (.line t.position)
        { t with position := t.position + byteLength ('/' :: '/' :: body) } rest := by
  have size : t.position + byteLength ('/' :: '/' :: body) = t.position + 2 + byteLength body := by
    have parts : byteLength ('/' :: '/' :: body) = 1 + (1 + byteLength body) := rfl
    omega
  rw [size]
  exact pass_line t.position { t with position := t.position + 2 } body rest within

theorem pass_blockComment (plain : Bool) (t : Trivia) (body rest : List Char)
    (within : closes body = false) :
    let stop := t.position + byteLength ('/' :: '*' :: body ++ ['*', '/'])
    pass (.spacing plain) t ('/' :: '*' :: body ++ ['*', '/'] ++ rest) =
      pass (.spacing true) ({ t with position := stop }.addComment t.position stop) rest := by
  intro stop
  have size : stop = t.position + 2 + byteLength body + 2 := by
    have parts := byteLength_append ('/' :: '*' :: body) ['*', '/']
    have front : byteLength ('/' :: '*' :: body) = 1 + (1 + byteLength body) := rfl
    have back : byteLength ['*', '/'] = 2 := rfl
    omega
  have whole : '/' :: '*' :: body ++ ['*', '/'] ++ rest =
      '/' :: '*' :: (body ++ '*' :: '/' :: rest) := by simp
  have closed := closes_append body rest
  have opening : pass (.spacing plain) t ('/' :: '*' :: (body ++ '*' :: '/' :: rest)) =
      pass (.block t.position) { t with position := t.position + 2 }
        (body ++ '*' :: '/' :: rest) := if_pos closed
  have closing (u : Trivia) : pass (.block t.position) u ('*' :: '/' :: rest) =
      pass (.spacing true)
        ({ u with position := u.position + 2 }.addComment t.position (u.position + 2)) rest :=
    rfl
  rw [whole, opening, pass_block t.position _ body rest within, closing, size]

/-- A comment that opens where white space may stand is passed as one. -/
theorem pass_comment (plain : Bool) (t : Trivia) (comment rest : List Char)
    (opens : IsComment comment rest) (reached : t.lineStop ≤ t.position) :
    let stop := t.position + byteLength comment
    ({ t with position := stop }.addComment t.position stop).Passes rest
      (pass (.spacing plain) t (comment ++ rest)) := by
  intro stop
  have opened : t.lineStop ≤ stop := Nat.le_add_right_of_le reached
  cases opens with
  | line body rest within ended =>
    rw [pass_lineComment plain t body rest within]
    exact pass_line_end t.position { t with position := stop } rest ended opened
  | block body rest within =>
    rw [pass_blockComment plain t body rest within]
    have line := addComment_lineStop { t with position := stop } t.position stop opened
    exact pass_passes _ _ rest line.2

/-- Text that neither white space nor a comment begins stays. -/
theorem pass_bare (plain : Bool) (t : Trivia) (s : List Char)
    (visible : ∀ c, s.head? = some c → isSpacing c = false)
    (uncommented : ∀ comment rest, IsComment comment rest → s ≠ comment ++ rest) :
    pass (.spacing plain) t s = { t with rest := s } := by
  rw [pass.eq_def]
  split
  · rfl
  · rfl
  · next cs =>
    have ended : ∀ c, (cs.dropWhile fun c => !endsLineComment c).head? = some c →
        endsLineComment c = true := by
      intro c first
      have stopped := List.head?_dropWhile_not (fun c => !endsLineComment c) cs
      rw [first] at stopped
      simpa using stopped
    have within : ∀ c ∈ cs.takeWhile fun c => !endsLineComment c, endsLineComment c = false := by
      intro c inside
      simpa using List.all_eq_true.mp List.all_takeWhile c inside
    refine absurd ?_ (uncommented _ _ (.line _ _ within ended))
    rw [List.cons_append, List.cons_append, List.takeWhile_append_dropWhile]
  · next cs =>
    dsimp only
    split
    · next closed =>
      obtain ⟨body, rest, whole, within⟩ := closes_split cs closed
      refine absurd ?_ (uncommented _ rest (.block body rest within))
      rw [whole]
      simp
    · rfl
  · next c cs _ _ _ =>
    dsimp only
    rw [if_neg (by simp [visible c rfl])]

/-- Without a comment behind the white space nothing but that is passed. -/
theorem skip_bare (position : Nat) (gap s : List Char) (blank : ∀ c ∈ gap, isSpacing c = true)
    (visible : ∀ c, s.head? = some c → isSpacing c = false)
    (uncommented : ∀ comment rest, IsComment comment rest → s ≠ comment ++ rest) :
    (skip position (gap ++ s)).rest = s ∧ (skip position (gap ++ s)).comments = [] ∧
      (skip position (gap ++ s)).position = position + byteLength gap := by
  obtain ⟨plain, newline, spaced⟩ :=
    pass_spacing true ⟨gap ++ s, position, [], false, position⟩ gap s blank
  unfold skip
  rw [spaced, pass_bare plain _ s visible uncommented]
  exact ⟨rfl, rfl, rfl⟩

/-- The first comment of what is passed starts behind the white space. -/
theorem skip_comment (position : Nat) (gap comment rest : List Char)
    (blank : ∀ c ∈ gap, isSpacing c = true) (opens : IsComment comment rest) :
    let start := position + byteLength gap
    (skip position (gap ++ (comment ++ rest))).comments.getLast? =
        some (start, start + byteLength comment) ∧
      start + byteLength comment ≤ (skip position (gap ++ (comment ++ rest))).position := by
  intro start
  obtain ⟨plain, newline, spaced⟩ := pass_spacing true
    ⟨gap ++ (comment ++ rest), position, [], false, position⟩ gap (comment ++ rest) blank
  have behind := pass_comment plain
    ⟨gap ++ (comment ++ rest), start, [], newline, position⟩ comment rest opens
    (Nat.le_add_right _ _)
  unfold skip
  rw [spaced]
  obtain ⟨⟨passed, _, moved⟩, ⟨later, kept⟩, _⟩ := behind
  constructor
  · rw [← kept]
    exact List.getLast?_concat
  · rw [moved]
    exact Nat.le_add_right _ _

/-- Skipping takes a piece off the text and stops no earlier than the line does. -/
theorem skip_passes (position : Nat) (s : List Char) :
    Passes ⟨s, position, [], false, position⟩ s (skip position s) :=
  pass_passes _ _ s (Nat.le_refl _)

theorem skip_behind (position : Nat) (s : List Char) : (skip position s).Behind :=
  pass_behind _ _ s (by simp [Behind])

end Trivia

end ResultLint.Source
