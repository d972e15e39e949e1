import ResultLint.Proofs.Source.Extent

/-!
The names of functions. A name is a word of the source, with a number sign before it at most, and so
stands on one line; the type of an annotation may run over several.
-/
namespace ResultLint.Source

open Text

namespace Terminal

/-- The terminals that read words. -/
def isWord : Terminal → Bool
  | .word _ | .wordExcept _ | .privateName => true
  | _ => false

theorem not_feed_of_hexDigit (c : Char) (digit : isHexDigit c = true) : c ≠ '\n' := by
  rintro rfl
  exact absurd digit (by decide)

theorem not_feed_of_wordChar (c : Char) (letter : isWordChar c = true) : c ≠ '\n' := by
  rintro rfl
  exact absurd letter (by decide)

theorem feedless_push (front : List Char) (m : Match) (here : ∀ c ∈ front, c ≠ '\n')
    (further : '\n' ∉ m.1) : '\n' ∉ (m.push front).1 := by
  rw [Match.push, List.mem_append, not_or]
  exact ⟨fun feed => here _ feed rfl, further⟩

theorem wordChars_feedless (braced : Bool) (s : List Char) : '\n' ∉ (wordChars braced s).1 := by
  -- Escapes stay in the word as they are written, so their digits count as well.
  fun_induction wordChars braced s with
  | case1 braced d cs escape ih =>
    rw [Bool.and_eq_true] at escape
    have last := not_feed_of_hexDigit d escape.2
    exact feedless_push _ _ (by simpa using last) ih
  | case3 braced a b c d cs _ escape ih =>
    rw [Bool.and_eq_true, List.all_eq_true] at escape
    have digits : ∀ e ∈ [a, b, c, d], e ≠ '\n' := fun e digit =>
      not_feed_of_hexDigit e (escape.2 e digit)
    exact feedless_push _ _ (by simpa using digits) ih
  | case6 c cs _ _ digit ih =>
    have last := not_feed_of_hexDigit c digit
    exact feedless_push _ _ (by simpa using last) ih
  | case7 cs _ _ _ ih => exact feedless_push _ _ (by simp) ih
  | case9 braced c cs _ _ _ letter ih =>
    have last := not_feed_of_wordChar c letter
    exact feedless_push _ _ (by simpa using last) ih
  | _ => exact List.not_mem_nil

theorem anyWord_feedless (s : List Char) (m : Match) (found : anyWord s = some m) :
    '\n' ∉ m.1 := by
  unfold anyWord at found
  dsimp only at found
  split at found
  · cases found
  · split at found
    · cases found
    · cases found
      exact wordChars_feedless false s

/-- No line ends inside a word. -/
theorem read_feedless (t : Terminal) (word : t.isWord = true) (s : List Char) (m : Match)
    (found : t.read s = some m) : '\n' ∉ m.1 := by
  cases t with
  | word text => exact anyWord_feedless s m (Option.filter_eq_some_iff.mp found).1
  | wordExcept reserved => exact anyWord_feedless s m (Option.filter_eq_some_iff.mp found).1
  | privateName =>
    unfold read at found
    dsimp only at found
    split at found
    · next cs =>
      obtain ⟨inner, word, rfl⟩ := Option.map_eq_some_iff.mp found
      exact feedless_push _ inner (by simp) (anyWord_feedless cs inner word)
    · cases found
  | _ => cases word

end Terminal

/-- The kinds of nodes that functions are named by. -/
def Kind.isName : Kind → Bool
  | .identifier | .propertyName | .privateName => true
  | _ => false

/-- A node that names something stands on one line. -/
def OnOneLine (source : List Char) (l : Label) (_ : List Tree) : Prop :=
  l.kind.isName = true → '\n' ∉ (slice? source l.start l.stop).getD []

namespace Grammar

/-- Whether the nodes of names that a grammar makes itself are words. -/
def namesByWords : Grammar → Bool
  | .token t (some (kind, _)) => !kind.isName || t.isWord
  | .node kind _ => !kind.isName
  | .chain _ steps => steps.all fun step => !step.1.isName
  | _ => true

theorem rules_nameByWords : ∀ r : Rule, throughout namesByWords 40 r.grammar = true := by
  intro r
  cases r <;> decide +kernel

theorem namesByWords_preserves (source : List Char) :
    Preserves Rule.grammar source (fun g => ∃ depth, throughout namesByWords depth g = true)
      (OnOneLine source) where
  named r := ⟨40, rules_nameByWords r⟩
  parts := throughout_parts _
  comment _ _ _ _ := nofun
  leaf t kind named ok p here m read := by
    intro name
    have word := throughout_condition _ _ ok
    rw [namesByWords, name, Bool.not_true, Bool.false_or] at word
    rw [here.slice_match m (t.read_splits p.rest m read), Option.getD_some]
    exact t.read_feedless word p.rest m read
  node kind g ok fuel setting p q here followed := by
    intro name
    have other := throughout_condition _ _ ok
    simp [namesByWords, name] at other
  role _ _ _ _ _ _ _ _ _ _ _ _ onOneLine := onOneLine
  step first steps ok step listed start children q here := by
    intro name
    have other := List.all_eq_true.mp (throughout_condition _ _ ok) step listed
    simp [name] at other
  stepRole _ _ _ _ _ _ _ _ _ onOneLine := onOneLine

end Grammar

section Naming

variable (source : List Char)

/-- The text of a node that names something. -/
theorem textOf_feedless (t : Tree) (here : OnOneLine source t.label t.children)
    (name : t.kind.isName = true) : '\n' ∉ (textOf source t).toList := by
  rw [textOf, String.toList_ofList]
  exact here name

theorem ownName?_feedless (node : Tree) (whole : node.Everywhere (OnOneLine source))
    (name : String) (own : ownName? source node = some name) : '\n' ∉ name.toList := by
  obtain ⟨t, field, rfl⟩ := Option.map_eq_some_iff.mp own
  obtain ⟨found, kind⟩ := Option.filter_eq_some_iff.mp field
  have child := node.everywhere_children whole t (List.mem_of_find?_eq_some found)
  exact textOf_feedless source t (t.everywhere_here child)
    (by simp [beq_iff_eq.mp kind, Kind.isName])

theorem methodKey?_feedless (node : Tree) (whole : node.Everywhere (OnOneLine source))
    (key : String) (own : methodKey? source node = some key) : '\n' ∉ key.toList := by
  obtain ⟨t, found, named⟩ := Option.bind_eq_some_iff.mp own
  have child := node.everywhere_children whole t (List.mem_of_find?_eq_some found)
  have onOneLine := textOf_feedless source t (t.everywhere_here child)
  split at named
  · next kind =>
    cases named
    exact onOneLine (by simp [kind, Kind.isName])
  · next kind =>
    cases named
    rw [String.toList_ofList]
    intro feed
    exact onOneLine (by simp [kind, Kind.isName]) ((List.dropWhile_sublist _).subset feed)
  · cases named

theorem text?_feedless (crumb : Crumb) (focus : Tree)
    (whole : (crumb.close focus).Everywhere (OnOneLine source)) (role : Role) (kinds : List Kind)
    (names : ∀ kind ∈ kinds, kind.isName = true) (name : String)
    (given : crumb.text? source focus role kinds = some name) : '\n' ∉ name.toList := by
  obtain ⟨t, field, rfl⟩ := Option.map_eq_some_iff.mp given
  obtain ⟨found, kind⟩ := Option.filter_eq_some_iff.mp field
  have child := (crumb.close focus).everywhere_children whole t (List.mem_of_find?_eq_some found)
  exact textOf_feedless source t (t.everywhere_here child) (names _ (by simpa using kind))

theorem binding_feedless (c : Cursor) (whole : c.whole.Everywhere (OnOneLine source))
    (name : String) (bound : FunctionNode.Binding.name? (c.binding source) = some name) :
    '\n' ∉ name.toList := by
  obtain ⟨focus, path⟩ := c
  rw [Cursor.binding] at bound
  induction path generalizing focus with
  | nil => cases bound
  | cons crumb up ih =>
    rw [Cursor.bindingFrom] at bound
    split at bound
    · exact ih (crumb.close focus) whole bound
    · -- The name is beside the node, so it is looked for in the node above.
      have here : (crumb.close focus).Everywhere (OnOneLine source) :=
        Cursor.holds_of_whole _ Tree.everywhere_children ⟨crumb.close focus, up⟩ whole
      unfold Crumb.binding at bound
      split at bound
      · split at bound
        · exact text?_feedless source crumb focus here _ _ (by decide) name bound
        · cases bound
      · split at bound
        · exact text?_feedless source crumb focus here _ _ (by decide) name bound
        · cases bound
      · split at bound
        · exact text?_feedless source crumb focus here _ _ (by decide) name bound
        · cases bound
      · split at bound
        · exact text?_feedless source crumb focus here _ _ (by decide) name bound
        · cases bound
      · cases bound

/-- A function's own name is its identifier or its key. -/
theorem own_of_functionAt? (c : Cursor) (f : FunctionNode) (made : functionAt? source c = some f) :
    (f.id? <|> f.key?) = ownName? source c.focus ∨
      (f.id? <|> f.key?) = methodKey? source c.focus := by
  have alone (id : Option String) : (id <|> none) = id := by cases id <;> rfl
  obtain ⟨form, found, rfl⟩ := Option.map_eq_some_iff.mp made
  unfold form? at found
  dsimp only at found
  split at found
  · cases found
  · split at found
    case h_7 =>
      cases found
      exact .inr rfl
    case h_8 =>
      obtain ⟨-, method⟩ := Option.ite_none_right_eq_some.mp found
      cases method
      exact .inr rfl
    case h_9 => cases found
    all_goals
      cases found
      exact .inl (alone _)

/-- In a source without syntax errors the name of a function stands on one line. -/
theorem name_feedless [Recovery] (dialect : Dialect)
    (intact : (SourceFile.parse source dialect).hasErrors = false) (f : FunctionNode)
    (lowered : f ∈ (SourceFile.parse source dialect).functions) : '\n' ∉ f.name.toList := by
  obtain ⟨t, read, same⟩ := SourceFile.exists_tree source dialect intact
  rw [same] at lowered
  obtain ⟨c, whole, made⟩ := functions_placed (Grammar.namesByWords_preserves source)
    ⟨4, rfl⟩ dialect t read f lowered
  have here := c.holds_of_whole _ Tree.everywhere_children whole
  have own (name : String) (given : (f.id? <|> f.key?) = some name) : '\n' ∉ name.toList := by
    rcases own_of_functionAt? source c f made with same | same
    · exact ownName?_feedless source c.focus here name (same ▸ given)
    · exact methodKey?_feedless source c.focus here name (same ▸ given)
  have context : f.binding = c.binding source := by
    obtain ⟨form, -, rfl⟩ := Option.map_eq_some_iff.mp made
    rfl
  rw [FunctionNode.name]
  cases given : f.id? <|> f.key? with
  | some name => exact own name given
  | none =>
    cases bound : FunctionNode.Binding.name? f.binding with
    | some name => exact binding_feedless source c whole name (context ▸ bound)
    | none => decide

end Naming

end ResultLint.Source
