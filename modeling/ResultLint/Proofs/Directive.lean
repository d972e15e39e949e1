import Mathlib.Data.List.TakeWhile
import ResultLint.Directive
import ResultLint.Proofs.Source.Comments
import ResultLint.Proofs.Source.Position
import ResultLint.Proofs.Text.Occurrence

/-!
Directives and comments. The directive of a line is read behind the first two slashes of its bare
text. Where these open a comment that runs to the end of the line, it is the first line comment of
the line that is read; where they stand in a literal or a block comment, or the comment ends at a
line end that is none for the lines of a text, another text is.
-/
namespace ResultLint

open Source Text

/-- A line comment of a source, as it is lexed: its text, where it starts, and on which line. -/
structure LineComment (source : List Char) (dialect : Dialect) (number start : Nat)
    (text : List Char) : Prop where
  lexed : ∃ stop, (start, stop) ∈ comments source dialect ∧ slice? source start stop = some text
  slashes : ['/', '/'] <+: text
  line : (spanOf source start start).line = number

/-- What the text behind two slashes says about a rule. -/
def Tells (comment : List Char) (rule : String) (reason : Option String) : Prop :=
  ∃ d, Directive.ofComment? (trim (comment.dropWhile (· == '/'))) = some d ∧
    d.covers rule = true ∧ d.reason = reason

/-- What the first line comment on a line says about a rule. -/
def Declares (source : List Char) (dialect : Dialect) (number : Nat) (rule : String)
    (reason : Option String) : Prop :=
  ∃ start text, LineComment source dialect number start text ∧
    (∀ other behind, LineComment source dialect number other behind → start ≤ other) ∧
    Tells text rule reason

/-- What the directive of a line is about a rule. -/
def Carries (source : List Char) (number : Nat) (rule : String) (reason : Option String) : Prop :=
  ∃ d, (line? source number).bind Directive.ofLine? = some d ∧ d.covers rule = true ∧
    d.reason = reason

theorem check_allowed_iff (source : List Char) (number : Nat) (rule : String)
    (reason : Option String) :
    Allowance.check source number rule = .allowed reason ↔
      Carries source (number - 1) rule reason ∨
        (∀ other, ¬ Carries source (number - 1) rule other) ∧
          Carries source number rule reason := by
  unfold Allowance.check Carries
  simp only [List.findSome?]
  generalize (line? source (number - 1)).bind Directive.ofLine? = above
  generalize (line? source number).bind Directive.ofLine? = here
  have covered (found : Option Directive) (rule : String) :
      (found >>= fun d => if d.covers rule then some d else none) =
        found.filter fun d => d.covers rule := by
    cases found <;> rfl
  simp only [covered]
  cases first : above.filter fun d => d.covers rule with
  | some d =>
    obtain ⟨rfl, covers⟩ := Option.filter_eq_some_iff.mp first
    simp [covers]
  | none =>
    have unasked := Option.filter_eq_none_iff.mp first
    have silent (other : Option String) : ¬ ∃ d, above = some d ∧ d.covers rule = true ∧
        d.reason = other := by
      rintro ⟨d, rfl, covers, -⟩
      exact unasked d rfl covers
    simp only [silent, false_or, not_false_eq_true, implies_true, true_and]
    cases second : here.filter fun d => d.covers rule with
    | some d =>
      obtain ⟨rfl, covers⟩ := Option.filter_eq_some_iff.mp second
      simp [covers]
    | none =>
      have unasked := Option.filter_eq_none_iff.mp second
      refine iff_of_false (by simp) ?_
      rintro ⟨d, rfl, covers, -⟩
      exact unasked d rfl covers

theorem tells_slashes (comment : List Char) (rule : String) (reason : Option String) :
    Tells ('/' :: '/' :: comment) rule reason ↔ Tells comment rule reason := Iff.rfl

/-- What a line comment takes of the rest of its line. -/
def commentBody (behind : List Char) : List Char :=
  behind.takeWhile fun c => !endsLineComment c

/-- A line comment ends where its line does, or before. -/
theorem eq_commentBody (body rest more ending : List Char) (same : more ++ ending = body ++ rest)
    (within : ∀ c ∈ body, endsLineComment c = false)
    (ended : ∀ c, rest.head? = some c → endsLineComment c = true)
    (ends : ∀ c, ending.head? = some c → endsLineComment c = true) : body = commentBody more := by
  have all : body.takeWhile (fun c => !endsLineComment c) = body := by
    rw [List.takeWhile_eq_self_iff]
    simpa using within
  rcases List.append_eq_append_iff.mp same with
    ⟨between, longer, behind⟩ | ⟨between, longer, behind⟩
  · cases between with
    | nil => rw [longer, List.append_nil] at all ⊢; exact all.symm
    | cons c cs =>
      have stopped := ends c (by rw [behind]; rfl)
      rw [within c (by rw [longer]; simp)] at stopped
      cases stopped
  · rw [commentBody, longer, List.takeWhile_append_of_pos (by simpa using within)]
    cases between with
    | nil => simp
    | cons c cs =>
      have stopped := ended c (by rw [behind]; rfl)
      rw [List.takeWhile_cons_of_neg (by simp [stopped]), List.append_nil]

section Line

variable {source : List Char} {dialect : Dialect} {number : Nat} {rule : String}
  {reason : Option String}

/-- A line comment stands in its line at two slashes, and ends with the line or before. -/
theorem LineComment.place {start : Nat} {text : List Char}
    (comment : LineComment source dialect number start text) :
    ∃ lead line tail more, IsLine source lead line ∧ number = 1 + lead.count '\n' ∧
      line = tail ++ '/' :: '/' :: more ∧ start = byteLength lead + byteLength tail ∧
      text = '/' :: '/' :: commentBody more := by
  obtain ⟨⟨stop, member, slice⟩, slashes, counted⟩ := comment
  obtain ⟨before, taken, rest, whole, position, ends, opens⟩ :=
    comments_sound source dialect _ member
  dsimp only at position ends
  have same : text = taken := by
    have middle := slice_middle before taken rest
    rw [position, ← ends, List.append_assoc, ← whole, slice] at middle
    exact Option.some.inj middle
  subst same
  cases opens with
  | block body => simp at slashes
  | line body _ within ended =>
    have placed := spanOf_isPlace before ('/' :: '/' :: body ++ rest) start
    rw [← whole, position] at placed
    obtain ⟨lead, tail, behind, divided, closed, last, begins, isLine, -⟩ := placed.divided
    rw [counted] at isLine
    obtain ⟨rfl, rfl⟩ := append_unique before ('/' :: '/' :: body ++ rest) (lead ++ tail) behind
      (by rw [← whole, divided, List.append_assoc])
      (by rw [position, byteLength_append]; exact begins)
    obtain ⟨line, _, -, isFirst⟩ := lines_head (tail ++ ('/' :: '/' :: body ++ rest)) (by simp)
    obtain ⟨more, rfl⟩ := isFirst.reaches (tail ++ ['/']) '/' (body ++ rest) (by simp)
      (by simpa using last) (by decide) (by decide)
    refine ⟨lead, _, tail, more, ⟨closed, _, divided, by simp, isFirst⟩, isLine, by simp, begins,
      ?_⟩
    obtain ⟨ending, parts, ends⟩ := isFirst.ends
    have same : more ++ ending = body ++ rest := by simpa using parts.symm
    rw [← eq_commentBody body rest more ending same within ended]
    intro c first
    rcases ends with rfl | ⟨_, rfl, -⟩ | ⟨_, rfl⟩
    · cases first
    · cases first; rfl
    · cases first; rfl

/-- Two places of one line are in it behind the same whole lines. -/
theorem isLine_unique {lead line lead' line' : List Char} (isLine : IsLine source lead line)
    (counted : number = 1 + lead.count '\n') (isLine' : IsLine source lead' line')
    (counted' : number = 1 + lead'.count '\n') : lead = lead' ∧ line = line' := by
  have one := line_of_isLine isLine
  have other := line_of_isLine isLine'
  rw [← counted] at one
  rw [← counted', one] at other
  obtain ⟨rest, whole, -⟩ := isLine.first
  obtain ⟨rest', whole', -⟩ := isLine'.first
  exact ⟨wholeLines_unique lead lead' rest rest' (whole.symm.trans whole') isLine.whole
    isLine'.whole (by omega), Option.some.inj other⟩

section First

variable {lead line front after : List Char} (isLine : IsLine source lead line)
  (counted : number = 1 + lead.count '\n')

include isLine counted

theorem carries_iff_of_cut (cut : cut? ['/', '/'] line = some (front, after)) :
    Carries source number rule reason ↔ Tells after rule reason := by
  have found := line_of_isLine isLine
  unfold Carries Tells
  rw [counted, found, Option.bind_some, Directive.ofLine?, cut]
  rfl

/-- Without two slashes a line has neither a directive nor a line comment. -/
theorem carries_iff_declares_of_uncut (uncut : cut? ['/', '/'] line = none) :
    Carries source number rule reason ↔ Declares source dialect number rule reason := by
  have found := line_of_isLine isLine
  refine iff_of_false ?_ ?_
  · rintro ⟨d, read, -⟩
    rw [counted, found, Option.bind_some, Directive.ofLine?, uncut] at read
    cases read
  · rintro ⟨start, text, comment, -⟩
    obtain ⟨lead', line', tail, more, isLine', counted', rfl, -⟩ := comment.place
    obtain ⟨-, rfl⟩ := isLine_unique isLine counted isLine' counted'
    exact cut_none _ _ uncut ⟨tail, more, by simp⟩

/-- The first two slashes of a line are not behind any line comment on it. -/
theorem start_le (cut : cut? ['/', '/'] line = some (front, after)) {start : Nat}
    {text : List Char} (comment : LineComment source dialect number start text) :
    byteLength lead + byteLength front ≤ start := by
  obtain ⟨lead', line', tail, more, isLine', counted', rfl, rfl, -⟩ := comment.place
  obtain ⟨rfl, rfl⟩ := isLine_unique isLine counted isLine' counted'
  obtain ⟨between, rfl⟩ := cut_first _ _ front after tail more cut (by simp)
  rw [byteLength_append]
  omega

/-- The comment that the first two slashes of a line open takes the rest of the line, up to where a
line comment ends. -/
theorem text_of_opened (cut : cut? ['/', '/'] line = some (front, after)) {text : List Char}
    (opened : LineComment source dialect number (byteLength lead + byteLength front) text) :
    text = '/' :: '/' :: commentBody after := by
  obtain ⟨lead', line', tail, more, isLine', counted', whole, start, rfl⟩ := opened.place
  obtain ⟨rfl, rfl⟩ := isLine_unique isLine counted isLine' counted'
  have parts := cut_some _ _ front after cut
  rw [whole, List.append_assoc] at parts
  obtain ⟨rfl, behind⟩ := append_unique tail _ front _ parts (by omega)
  cases behind
  rfl

theorem declares_iff_of_opened (cut : cut? ['/', '/'] line = some (front, after)) {text : List Char}
    (opened : LineComment source dialect number (byteLength lead + byteLength front) text) :
    Declares source dialect number rule reason ↔ Tells (commentBody after) rule reason := by
  have same := text_of_opened isLine counted cut opened
  constructor
  · rintro ⟨start, first, comment, least, tells⟩
    have here : start = byteLength lead + byteLength front :=
      Nat.le_antisymm (least _ _ opened) (start_le isLine counted cut comment)
    subst here
    rw [text_of_opened isLine counted cut comment, tells_slashes] at tells
    exact tells
  · intro tells
    refine ⟨_, text, opened, fun _ _ comment => start_le isLine counted cut comment, ?_⟩
    rw [same, tells_slashes]
    exact tells

end First

end Line

/-- A line that is misread for a rule: its first two slashes open no line comment, and the text
behind them says otherwise than the first line comment on the line does; or they open one that ends
before the line does, and the rest of the line makes a difference. -/
inductive Misread (source : List Char) (dialect : Dialect) (number : Nat) (rule : String) : Prop
  | hidden (lead line front after : List Char) (reason : Option String)
      (isLine : IsLine source lead line) (counted : number = 1 + lead.count '\n')
      (cut : cut? ['/', '/'] line = some (front, after))
      (unopened : ∀ text,
        ¬ LineComment source dialect number (byteLength lead + byteLength front) text)
      (differ : ¬ (Tells after rule reason ↔ Declares source dialect number rule reason)) :
      Misread source dialect number rule
  | broken (lead line front after text : List Char) (reason : Option String)
      (isLine : IsLine source lead line) (counted : number = 1 + lead.count '\n')
      (cut : cut? ['/', '/'] line = some (front, after))
      (opened : LineComment source dialect number (byteLength lead + byteLength front) text)
      (differ : ¬ (Tells after rule reason ↔ Tells (commentBody after) rule reason)) :
      Misread source dialect number rule

/-- What a line's directive says is what its first line comment says, unless the line is misread. -/
theorem carries_iff_declares_iff (source : List Char) (dialect : Dialect) (number : Nat)
    (rule : String) :
    (∀ reason, Carries source number rule reason ↔ Declares source dialect number rule reason) ↔
      ¬ Misread source dialect number rule := by
  constructor
  · intro agree misread
    cases misread with
    | hidden lead line front after reason isLine counted cut unopened differ =>
      rw [← carries_iff_of_cut isLine counted cut] at differ
      exact differ (agree reason)
    | broken lead line front after text reason isLine counted cut opened differ =>
      rw [← carries_iff_of_cut isLine counted cut,
        ← declares_iff_of_opened isLine counted cut opened] at differ
      exact differ (agree reason)
  · intro right reason
    cases found : line? source number with
    | none =>
      refine iff_of_false ?_ ?_
      · rintro ⟨d, read, -⟩
        rw [found] at read
        cases read
      · rintro ⟨start, text, comment, -⟩
        obtain ⟨lead, line, -, -, isLine, counted, -⟩ := comment.place
        have there := line_of_isLine isLine
        rw [← counted, found] at there
        cases there
    | some line =>
      obtain ⟨lead, isLine, counted⟩ := isLine_of_line source line number found
      cases cut : cut? ['/', '/'] line with
      | none => exact carries_iff_declares_of_uncut isLine counted cut
      | some parts =>
        obtain ⟨front, after⟩ := parts
        rw [carries_iff_of_cut isLine counted cut]
        by_contra differ
        apply right
        by_cases opened : ∃ text,
            LineComment source dialect number (byteLength lead + byteLength front) text
        · obtain ⟨text, opened⟩ := opened
          rw [declares_iff_of_opened isLine counted cut opened] at differ
          exact .broken lead line front after text reason isLine counted cut opened differ
        · exact .hidden lead line front after reason isLine counted cut
            (fun text comment => opened ⟨text, comment⟩) differ

/-- A line whose first two slashes open a comment that takes the rest of it is not misread. -/
theorem not_misread_of_opened {source : List Char} {dialect : Dialect} {number : Nat}
    {lead line front after text : List Char} (rule : String) (isLine : IsLine source lead line)
    (counted : number = 1 + lead.count '\n') (cut : cut? ['/', '/'] line = some (front, after))
    (opened : LineComment source dialect number (byteLength lead + byteLength front) text)
    (onward : ∀ c ∈ after, endsLineComment c = false) : ¬ Misread source dialect number rule := by
  have all : commentBody after = after := by
    rw [commentBody, List.takeWhile_eq_self_iff]
    simpa using onward
  rw [← carries_iff_declares_iff]
  intro reason
  rw [carries_iff_of_cut isLine counted cut, declares_iff_of_opened isLine counted cut opened, all]

/-- What the two lines say that a directive is looked up on is what their first line comments say,
unless one of them is misread; a line is misread only where that makes a difference, and never where
its first two slashes open a comment that takes the rest of it. -/
theorem directives_are_comments_iff (source : List Char) (dialect : Dialect) (rule : String) :
    (∀ number, (∀ reason, Carries source number rule reason ↔
        Declares source dialect number rule reason) ↔ ¬ Misread source dialect number rule) ∧
    (∀ number lead line front after text, IsLine source lead line →
      number = 1 + lead.count '\n' → cut? ['/', '/'] line = some (front, after) →
      LineComment source dialect number (byteLength lead + byteLength front) text →
      (∀ c ∈ after, endsLineComment c = false) → ¬ Misread source dialect number rule) ∧
    (∀ number reason, Allowance.check source number rule = .allowed reason ↔
      Carries source (number - 1) rule reason ∨
        (∀ other, ¬ Carries source (number - 1) rule other) ∧ Carries source number rule reason) ∧
    ∀ number, ¬ Misread source dialect (number - 1) rule → ¬ Misread source dialect number rule →
      ∀ reason, Allowance.check source number rule = .allowed reason ↔
        Declares source dialect (number - 1) rule reason ∨
          (∀ other, ¬ Declares source dialect (number - 1) rule other) ∧
            Declares source dialect number rule reason := by
  have agree (number : Nat) := carries_iff_declares_iff source dialect number rule
  refine ⟨agree, ?_, fun number reason => check_allowed_iff source number rule reason, ?_⟩
  · intro number lead line front after text isLine counted cut opened onward
    exact not_misread_of_opened rule isLine counted cut opened onward
  · intro number above here reason
    simp only [check_allowed_iff, (agree (number - 1)).mpr above, (agree number).mpr here]

/-- Where a source has one comment, that is what its line says. -/
theorem declares_iff_of_only (source : List Char) (dialect : Dialect) (number start stop : Nat)
    (text : List Char) (only : comments source dialect = [(start, stop)])
    (slice : slice? source start stop = some text) (slashes : ['/', '/'] <+: text)
    (line : (spanOf source start start).line = number) (rule : String) (reason : Option String) :
    Declares source dialect number rule reason ↔ Tells text rule reason := by
  have one (other : Nat) (behind : List Char)
      (comment : LineComment source dialect number other behind) :
      other = start ∧ behind = text := by
    obtain ⟨stop', member, slice'⟩ := comment.lexed
    rw [only, List.mem_singleton] at member
    cases member
    rw [slice] at slice'
    exact ⟨rfl, (Option.some.inj slice').symm⟩
  constructor
  · rintro ⟨other, behind, comment, -, tells⟩
    rw [(one other behind comment).2] at tells
    exact tells
  · intro tells
    refine ⟨start, text, ⟨⟨stop, by simp [only], slice⟩, slashes, line⟩, ?_, tells⟩
    exact fun other behind comment => (one other behind comment).1.symm.le

/-- The statement at a function with a trailing comment and nothing else that has slashes. -/
theorem directives_are_comments_iff_trailing :
    let source := "function f() {} // railway-lint: allow(all) reason=\"legacy\"".toList
    ¬ Misread source .typescript 0 ReturnType.ruleName ∧
      ¬ Misread source .typescript 1 ReturnType.ruleName ∧
      Declares source .typescript 1 ReturnType.ruleName (some "legacy") ∧
      Allowance.check source 1 ReturnType.ruleName = .allowed (some "legacy") := by
  intro source
  obtain ⟨-, right, -, checked⟩ :=
    directives_are_comments_iff source .typescript ReturnType.ruleName
  have isLine : IsLine source [] source :=
    ⟨.inl rfl, source, rfl, by decide, by decide, [], by rw [List.append_nil], .inl rfl⟩
  have comment : LineComment source .typescript 1 16
      "// railway-lint: allow(all) reason=\"legacy\"".toList :=
    ⟨⟨59, by decide +kernel, by decide +kernel⟩, by decide +kernel, by decide +kernel⟩
  have cut : cut? ['/', '/'] source =
      some ("function f() {} ".toList, " railway-lint: allow(all) reason=\"legacy\"".toList) := by
    decide +kernel
  have above : ¬ Misread source .typescript 0 ReturnType.ruleName := by
    intro misread
    cases misread <;> omega
  have here : ¬ Misread source .typescript 1 ReturnType.ruleName :=
    right 1 [] source _ _ _ isLine rfl cut comment (by simp [endsLineComment])
  have declared : Declares source .typescript 1 ReturnType.ruleName (some "legacy") := by
    refine (declares_iff_of_opened isLine rfl cut comment).mpr ?_
    exact ⟨⟨["all"], some "legacy"⟩, by decide +kernel, by decide +kernel, rfl⟩
  have silent (other : Option String) :
      ¬ Declares source .typescript 0 ReturnType.ruleName other := by
    rintro ⟨start, text, comment, -⟩
    obtain ⟨_, _, _, _, -, counted, -⟩ := comment.place
    omega
  exact ⟨above, here, declared, (checked 1 above here _).mpr (.inr ⟨silent, declared⟩)⟩

/-- A URL in front of a directive hides it, and a directive in a string counts as one. -/
theorem directive_read_in_string :
    let missed :=
      "const f = (): string => \"http://x\"; // railway-lint: allow(all) reason=\"legacy\"".toList
    let invented := "const s = '// railway-lint: allow(all) reason=\"x\"'; function f() {}".toList
    let found (source : List Char) : List Violation :=
      (ReturnType.rule .default .error).check
        (.ofFile (.ofString "/p/a.ts") source (.ofString "/p")) (.parse source .typescript)
    ((SourceFile.parse missed .typescript).hasErrors = false ∧
      Declares missed .typescript 1 ReturnType.ruleName (some "legacy") ∧
      Allowance.check missed 1 ReturnType.ruleName = .denied ∧ (found missed).length = 1) ∧
    (SourceFile.parse invented .typescript).hasErrors = false ∧
      (∀ number reason, ¬ Declares invented .typescript number ReturnType.ruleName reason) ∧
      Allowance.check invented 1 ReturnType.ruleName = .allowed (some "x") ∧
      found invented = [] := by
  intro missed invented found
  refine ⟨⟨by decide +kernel, ?_, by decide +kernel, by decide +kernel⟩, by decide +kernel, ?_,
    by decide +kernel, by decide +kernel⟩
  · rw [declares_iff_of_only missed .typescript 1 36 79
      "// railway-lint: allow(all) reason=\"legacy\"".toList (by decide +kernel) (by decide +kernel)
      (by decide) (by decide +kernel)]
    exact ⟨⟨["all"], some "legacy"⟩, by decide +kernel, by decide +kernel, rfl⟩
  · have none : comments invented .typescript = [] := by decide +kernel
    rintro number reason ⟨start, text, ⟨⟨stop, member, -⟩, -, -⟩, -⟩
    rw [none] at member
    cases member

end ResultLint
