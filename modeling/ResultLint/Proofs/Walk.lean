import ResultLint.Proofs.FileTree
import ResultLint.Proofs.Path.Ancestors
import ResultLint.Walk

/-!
What a walk finds. A file is found by its way, the names of the entries that lead to it from the
root. Names are no idle pieces and have no slash in them, so the path that a way makes behind the
root gives the way back once the root is taken off it.
-/
namespace ResultLint

open ResultLint.Path

namespace FileTree

/-- What an entry of a directory can be called. -/
structure IsName (name : List Char) : Prop where
  nonempty : name ≠ []
  noCurrent : name ≠ ['.']
  noParent : name ≠ ['.', '.']
  noSlash : '/' ∉ name

/-- A tree whose entries are called by names, here and deeper. -/
inductive WellNamed : FileTree → Prop
  | file (bytes : List UInt8) : WellNamed (.file bytes)
  | directory (entries : List (List Char × FileTree)) (names : ∀ entry ∈ entries, IsName entry.1)
      (deeper : ∀ entry ∈ entries, WellNamed entry.2) : WellNamed (.directory entries)

/-- Whatever a path leads to in a tree of names is one again. -/
theorem WellNamed.follow {node found : FileTree} (way : List (List Char)) (above : List FileTree)
    (named : node.WellNamed) (higher : ∀ t ∈ above, t.WellNamed)
    (leads : FileTree.follow way above node = .ok found) : found.WellNamed := by
  induction way generalizing above node with
  | nil =>
    cases leads
    exact named
  | cons piece more ih =>
    cases named with
    | file bytes => simp [FileTree.follow] at leads
    | directory entries names deeper =>
      have whole : (FileTree.directory entries).WellNamed := .directory entries names deeper
      rw [FileTree.follow.eq_def] at leads
      dsimp only at leads
      split at leads
      · exact ih above whole higher leads
      · split at leads
        · cases above with
          | nil => exact ih [] whole higher leads
          | cons up rest =>
            rw [List.forall_mem_cons] at higher
            exact ih rest higher.1 higher.2 leads
        · split at leads
          · cases leads
          · next child entered =>
            obtain ⟨before, behind, rfl, -⟩ := List.lookup_eq_some_iff.mp entered
            exact ih _ (deeper (piece, child) (by simp))
              (List.forall_mem_cons.mpr ⟨whole, higher⟩) leads

/-- A file ends every path: nothing can be followed from it. -/
theorem follow_beyond_file (way rest : List (List Char)) (above : List FileTree) (node : FileTree)
    (bytes : List UInt8) (leads : follow (way.filter isProper) above node = .ok (.file bytes))
    (onward : rest ≠ []) : follow (way ++ rest) above node = .error .notDirectory := by
  induction way generalizing above node with
  | nil =>
    cases leads
    obtain ⟨piece, more, rfl⟩ := List.exists_cons_of_ne_nil onward
    rfl
  | cons piece more ih =>
    cases node with
    | file _ => rfl
    | directory entries =>
      rw [List.cons_append]
      cases kind : isProper piece with
      | false =>
        rw [List.filter_cons_of_neg (by simp [kind])] at leads
        rw [follow_idle piece kind]
        exact ih above _ leads
      | true =>
        obtain ⟨next, step⟩ := follow_proper piece kind above entries
        rw [List.filter_cons_of_pos kind, step] at leads
        rw [step]
        obtain ⟨place, rfl, leads⟩ := (bind_ok_iff _ _ _).mp leads
        exact ih place.1 place.2 leads

end FileTree

namespace FileSystem

/-- No path leads on behind a file. -/
theorem locate_beyond_file (fs : FileSystem) (p q : Path) (absolute : p.isAbsolute = true)
    (relative : q.isAbsolute = false) (bytes : List UInt8)
    (file : fs.locate p = .ok (.file bytes)) : fs.locate (p.join q) = .error .notDirectory := by
  rw [locate_of_absolute fs p absolute] at file
  have short := FileTree.follow_filter_append _ [] [] fs.top _ file
  rw [List.append_nil, List.append_nil, file] at short
  obtain ⟨way, whole, proper⟩ := splitOn_join p q absolute relative
  have onward : Text.splitOn '/' q.chars ≠ [] := by
    rw [splitOn_eq_pieces]
    simpa using pieces_ne_nil q.chars
  rw [locate_of_absolute fs _ (by simp [isAbsolute_join, absolute]), whole]
  exact FileTree.follow_beyond_file way _ [] fs.top bytes (by rw [proper, ← short]) onward

end FileSystem

namespace Walk

open FileTree

/-- A file among some entries is found below one of them. -/
theorem mem_filesAmong (respect : Bool) (levels : List Level)
    (entries : List (List Char × FileTree)) (way : List (List Char))
    (found : way ∈ filesAmong respect levels entries) :
    ∃ entry ∈ entries, ∃ deeper, ∃ inner ∈ filesOf respect deeper entry.2,
      way = entry.1 :: inner := by
  induction entries with
  | nil => simp [filesAmong] at found
  | cons entry rest ih =>
    rw [filesAmong.eq_def] at found
    dsimp only at found
    rcases List.mem_append.mp found with here | there
    · obtain ⟨-, inside⟩ := List.mem_ite_nil_left.mp here
      obtain ⟨inner, member, rfl⟩ := List.mem_map.mp inside
      exact ⟨entry, List.mem_cons_self, _, inner, member, rfl⟩
    · obtain ⟨other, listed, further⟩ := ih there
      exact ⟨other, List.mem_cons_of_mem _ listed, further⟩

theorem filesAmong_ne_nil (respect : Bool) (levels : List Level)
    (entries : List (List Char × FileTree)) :
    ∀ way ∈ filesAmong respect levels entries, way ≠ [] := by
  rintro way found rfl
  obtain ⟨_, _, _, _, _, whole⟩ := mem_filesAmong respect levels entries [] found
  cases whole

/-- In a tree of names all ways are made of names. -/
theorem names_of_filesOf (respect : Bool) (levels : List Level) (node : FileTree)
    (named : node.WellNamed) :
    ∀ way ∈ filesOf respect levels node, ∀ name ∈ way, IsName name := by
  induction named generalizing levels with
  | file bytes => simp [filesOf]
  | directory entries names deeper ih =>
    intro way found
    rw [filesOf.eq_def] at found
    obtain ⟨entry, listed, inside, inner, member, rfl⟩ := mem_filesAmong _ _ _ _ found
    exact List.forall_mem_cons.mpr ⟨names entry listed, ih entry listed inside inner member⟩

/-- Names joined to a root one after another are one path joined to it. -/
theorem foldl_join (names : List (List Char)) (root w : Path) :
    names.foldl (fun path name => path.join ⟨name⟩) (root.join w) =
      root.join (names.foldl (fun path name => path.join ⟨name⟩) w) := by
  induction names generalizing w with
  | nil => rfl
  | cons name rest ih => rw [List.foldl_cons, List.foldl_cons, join_assoc, ih]

end Walk

namespace Path

open FileTree

/-- A way as it is spelled. -/
def ofWay (way : List (List Char)) : Path := ⟨['/'].intercalate way⟩

theorem ofWay_cons_cons (name next : List Char) (more : List (List Char)) :
    (ofWay (name :: next :: more)).chars = name ++ '/' :: (ofWay (next :: more)).chars := by
  simp [ofWay, List.intercalate_cons_cons]

theorem skipIdle_of_plain (s : List Char) (plain : Plain s) : skipIdle s = s := by
  fun_induction skipIdle s with
  | case1 => rfl
  | case2 cs => exact absurd rfl (plain.noSlash cs)
  | case3 => exact absurd rfl plain.noDot
  | case4 rest => exact absurd rfl (plain.noDotSlash rest)
  | case5 => rfl

/-- What stands behind a plain beginning does not count. -/
theorem Plain.append {s : List Char} (plain : Plain s) (nonempty : s ≠ []) (t : List Char) :
    Plain (s ++ t) := by
  obtain ⟨c, cs, rfl⟩ := List.exists_cons_of_ne_nil nonempty
  refine ⟨?_, ?_, ?_⟩
  · intro rest same
    rw [List.cons_append, List.cons.injEq] at same
    exact plain.noSlash cs (by rw [same.1])
  · intro same
    rw [List.cons_append, List.cons.injEq, List.append_eq_nil_iff] at same
    exact plain.noDot (by rw [same.1, same.2.1])
  · intro rest same
    rw [List.cons_append, List.cons.injEq] at same
    obtain ⟨rfl, behind⟩ := same
    cases cs with
    | nil => exact plain.noDot rfl
    | cons d ds =>
      rw [List.cons_append, List.cons.injEq] at behind
      exact plain.noDotSlash ds (by rw [behind.1])

theorem plain_name (name : List Char) (isName : IsName name) : Plain name where
  noSlash rest same := isName.noSlash (by simp [same])
  noDot := isName.noCurrent
  noDotSlash rest same := isName.noSlash (by simp [same])

theorem isName_reverse (name : List Char) (isName : IsName name) : IsName name.reverse where
  nonempty := by simpa using isName.nonempty
  noCurrent same := isName.noCurrent (by simpa using congrArg List.reverse same)
  noParent same := isName.noParent (by simpa using congrArg List.reverse same)
  noSlash := by simpa using isName.noSlash

section Ways

variable (way : List (List Char)) (moves : way ≠ []) (names : ∀ name ∈ way, IsName name)

include moves names

/-- A spelled way is plain at both ends. -/
theorem plain_ofWay : (ofWay way).chars ≠ [] ∧ Plain (ofWay way).chars ∧
    Plain (ofWay way).chars.reverse := by
  induction way with
  | nil => exact absurd rfl moves
  | cons name rest ih =>
    obtain ⟨here, behind⟩ := List.forall_mem_cons.mp names
    cases rest with
    | nil =>
      simp only [ofWay, List.intercalate_singleton]
      exact ⟨here.nonempty, plain_name name here, plain_name _ (isName_reverse name here)⟩
    | cons next more =>
      obtain ⟨nonempty, -, last⟩ := ih (by simp) behind
      rw [ofWay_cons_cons]
      refine ⟨by simp, (plain_name name here).append here.nonempty _, ?_⟩
      rw [List.reverse_append, List.reverse_cons, List.append_assoc]
      exact last.append (by simpa using nonempty) _

theorem isAbsolute_ofWay : (ofWay way).isAbsolute = false := by
  obtain ⟨-, plain, -⟩ := plain_ofWay way moves names
  generalize (ofWay way) = p at plain
  obtain ⟨chars⟩ := p
  cases chars with
  | nil => rfl
  | cons c cs =>
    have other : c ≠ '/' := fun slash => plain.noSlash cs (by rw [slash])
    simp [isAbsolute, other]

/-- Joining the names of a way one after another is joining the way as it is spelled. -/
theorem foldl_join_ofWay (root : Path) :
    way.foldl (fun path name => path.join ⟨name⟩) root = root.join (ofWay way) := by
  induction way generalizing root with
  | nil => exact absurd rfl moves
  | cons name rest ih =>
    cases rest with
    | nil => simp [ofWay]
    | cons next more =>
      obtain ⟨here, behind⟩ := List.forall_mem_cons.mp names
      have relative := isAbsolute_ofWay (next :: more) (by simp) behind
      have spelled : (⟨name⟩ : Path).join (ofWay (next :: more)) =
          ofWay (name :: next :: more) := by
        rw [join_of_relative _ _ relative]
        obtain ⟨front, last, rfl⟩ := List.eq_nil_or_concat name |>.resolve_left here.nonempty
        have inner : last ≠ '/' := fun slash => here.noSlash (by simp [slash])
        simp [closing, inner, ofWay, List.intercalate_cons_cons]
      rw [List.foldl_cons, ih (by simp) behind, join_assoc, spelled]

/-- Taking the root off a path below it gives the way. -/
theorem stripBase_ofWay (root : Path) (absolute : root.isAbsolute = true) :
    (root.join (ofWay way)).stripBase? root = some (ofWay way) := by
  obtain ⟨-, plain, last⟩ := plain_ofWay way moves names
  rw [stripBase_join root _ absolute (isAbsolute_ofWay way moves names), skipIdle_of_plain _ plain,
    skipIdleEnd, skipIdle_of_plain _ last, List.reverse_reverse]

end Ways

/-- The components of a spelled way are its names. -/
theorem names_ofWay (way : List (List Char)) (moves : way ≠ [])
    (names : ∀ name ∈ way, IsName name) :
    Path.names (ofWay way).chars = way.map .name := by
  have single (name : List Char) (isName : IsName name) :
      Component.ofPiece? name = some (.name name) := by
    simp [Component.ofPiece?, isName.nonempty, isName.noCurrent, isName.noParent]
  induction way with
  | nil => exact absurd rfl moves
  | cons name rest ih =>
    obtain ⟨here, behind⟩ := List.forall_mem_cons.mp names
    cases rest with
    | nil =>
      rw [ofWay, List.intercalate_singleton, names_of_piece name here.noSlash, single name here]
      rfl
    | cons next more =>
      rw [List.map_cons, ← ih (by simp) behind, ofWay_cons_cons]
      unfold Path.names
      rw [innerComponents_piece name _ here.noSlash, single name here]
      rfl

end Path

namespace FileSystem

/-- A walk spells each file in one way. -/
theorem filesBelow_apart (fs : FileSystem) (respect : Bool) (root : Path)
    (named : fs.top.WellNamed) (found : List Path)
    (walk : fs.filesBelow respect root = .ok found) :
    ∀ p ∈ found, ∀ q ∈ found, p.components = q.components → p = q := by
  unfold filesBelow at walk
  obtain ⟨node, located, listed⟩ := (bind_ok_iff _ _ _).mp walk
  cases listed
  unfold locate at located
  split at located
  · cases located
  · next spelled =>
    have inside : node.WellNamed := named.follow _ [] (by simp) located
    obtain ⟨front, joined⟩ := Path.exists_components_join root spelled
    intro p first q second same
    obtain ⟨left, onLeft, rfl⟩ := List.mem_map.mp first
    obtain ⟨right, onRight, rfl⟩ := List.mem_map.mp second
    have leftNames := Walk.names_of_filesOf _ _ _ inside left onLeft
    have rightNames := Walk.names_of_filesOf _ _ _ inside right onRight
    cases node with
    | file bytes =>
      rw [Walk.filesOf, List.mem_singleton] at onLeft onRight
      rw [onLeft, onRight]
    | directory entries =>
      rw [Walk.filesOf] at onLeft onRight
      have leftMoves : left ≠ [] := Walk.filesAmong_ne_nil _ _ _ left onLeft
      have rightMoves : right ≠ [] := Walk.filesAmong_ne_nil _ _ _ right onRight
      rw [Path.foldl_join_ofWay left leftMoves leftNames,
        Path.foldl_join_ofWay right rightMoves rightNames] at same ⊢
      rw [joined _ (Path.isAbsolute_ofWay left leftMoves leftNames),
        joined _ (Path.isAbsolute_ofWay right rightMoves rightNames), List.append_right_inj,
        Path.names_ofWay left leftMoves leftNames,
        Path.names_ofWay right rightMoves rightNames] at same
      rw [List.map_injective_iff.mpr (fun _ _ => Path.Component.name.inj) same]

end FileSystem

end ResultLint
