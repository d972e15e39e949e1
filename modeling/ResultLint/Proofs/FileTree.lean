import ResultLint.Proofs.Fallible
import ResultLint.Proofs.Path.Spelling
import ResultLint.Proofs.Text.Utf8
import ResultLint.FileTree

/-!
Following paths. Idle pieces lead from a directory to itself, so two spellings of a path to a
directory lead to the same one, and so do paths that are joined to them.
-/
namespace ResultLint

open ResultLint.Path

namespace FileTree

theorem follow_idle (piece : List Char) (idle : isProper piece = false) (more : List (List Char))
    (above : List FileTree) (entries : List (List Char × FileTree)) :
    follow (piece :: more) above (.directory entries) = follow more above (.directory entries) := by
  have blank : piece = [] ∨ piece = ['.'] := by
    simpa [isProper, Decidable.or_iff_not_imp_left] using idle
  rw [follow.eq_def]
  dsimp only
  rw [if_pos blank]

/-- A proper piece leads one step on, or nowhere, whatever comes behind it. -/
theorem follow_proper (piece : List Char) (proper : isProper piece = true)
    (above : List FileTree) (entries : List (List Char × FileTree)) :
    ∃ next : Except FileFault (List FileTree × FileTree), ∀ more,
      follow (piece :: more) above (.directory entries) =
        next >>= fun place => follow more place.1 place.2 := by
  have marked : ¬ (piece = [] ∨ piece = ['.']) := by
    simpa [isProper] using proper
  by_cases up : piece = ['.', '.']
  · cases above with
    | nil =>
      refine ⟨.ok ([], .directory entries), fun more => ?_⟩
      rw [follow.eq_def]
      dsimp only
      rw [if_neg marked, if_pos up]
      rfl
    | cons parent higher =>
      refine ⟨.ok (higher, parent), fun more => ?_⟩
      rw [follow.eq_def]
      dsimp only
      rw [if_neg marked, if_pos up]
      rfl
  · cases child : entries.lookup piece with
    | none =>
      refine ⟨.error .notFound, fun more => ?_⟩
      rw [follow.eq_def]
      dsimp only
      rw [if_neg marked, if_neg up, child]
      rfl
    | some node =>
      refine ⟨.ok (.directory entries :: above, node), fun more => ?_⟩
      rw [follow.eq_def]
      dsimp only
      rw [if_neg marked, if_neg up, child]
      rfl

/-- On a way that leads somewhere idle pieces can be left out, whatever comes behind. -/
theorem follow_filter_append (way rest : List (List Char)) (above : List FileTree)
    (node found : FileTree) (leads : follow way above node = .ok found) :
    follow (way ++ rest) above node = follow (way.filter isProper ++ rest) above node := by
  -- a file on the way would end it, so idle pieces are only met at directories
  induction way generalizing above node with
  | nil => rfl
  | cons piece more ih =>
    cases node with
    | file bytes => simp [follow] at leads
    | directory inside =>
      cases kind : isProper piece with
      | false =>
        rw [follow_idle piece kind] at leads
        rw [List.filter_cons_of_neg (by simp [kind]), List.cons_append, follow_idle piece kind]
        exact ih above _ leads
      | true =>
        obtain ⟨next, step⟩ := follow_proper piece kind above inside
        rw [step] at leads
        rw [List.filter_cons_of_pos kind, List.cons_append, List.cons_append, step, step]
        obtain ⟨place, rfl, leads⟩ := (bind_ok_iff _ _ _).mp leads
        exact ih place.1 place.2 leads

/-- A way with idle pieces leads to the directory that it leads to without them. -/
theorem follow_of_filter (way : List (List Char)) (above : List FileTree) (node : FileTree)
    (entries : List (List Char × FileTree))
    (leads : follow (way.filter isProper) above node = .ok (.directory entries)) :
    follow way above node = .ok (.directory entries) := by
  induction way generalizing above node with
  | nil => exact leads
  | cons piece more ih =>
    cases node with
    | file bytes =>
      -- without its idle pieces the way would end at the file or fail there
      cases whole : (piece :: more).filter isProper with
      | nil =>
        rw [whole] at leads
        cases leads
      | cons _ _ =>
        rw [whole, follow] at leads
        cases leads
    | directory inside =>
      cases kind : isProper piece with
      | false =>
        rw [List.filter_cons_of_neg (by simp [kind])] at leads
        rw [follow_idle piece kind]
        exact ih above _ leads
      | true =>
        obtain ⟨next, step⟩ := follow_proper piece kind above inside
        rw [List.filter_cons_of_pos kind, step] at leads
        rw [step]
        obtain ⟨place, rfl, leads⟩ := (bind_ok_iff _ _ _).mp leads
        exact ih place.1 place.2 leads

theorem follow_filter_iff (way : List (List Char)) (above : List FileTree) (node : FileTree)
    (entries : List (List Char × FileTree)) :
    follow (way.filter isProper) above node = .ok (.directory entries) ↔
      follow way above node = .ok (.directory entries) := by
  constructor
  · exact follow_of_filter way above node entries
  · intro leads
    have short := follow_filter_append way [] above node _ leads
    rw [List.append_nil, List.append_nil] at short
    exact short ▸ leads

end FileTree

namespace FileSystem

/-- The text of a file is the one whose encoding the file holds. -/
theorem readText_ok_iff (fs : FileSystem) (p : Path) (content : List Char) :
    fs.readText p = .ok content ↔ fs.readBytes p = .ok (Text.encode content) := by
  unfold readText
  rw [bind_ok_iff]
  constructor
  · rintro ⟨bytes, read, decoded⟩
    split at decoded
    · next found =>
      cases decoded
      rw [read, (Text.decode?_eq_some_iff bytes content).mp found]
    · cases decoded
  · intro read
    refine ⟨_, read, ?_⟩
    rw [(Text.decode?_eq_some_iff _ content).mpr rfl]
    rfl

/-- Two absolute spellings of the path to one directory. -/
structure SameDirectory (fs : FileSystem) (p q : Path) : Prop where
  left : p.isAbsolute = true
  right : q.isAbsolute = true
  components : p.components = q.components
  leads : ∃ entries, fs.locate p = .ok (.directory entries)

theorem locate_of_absolute (fs : FileSystem) (p : Path) (absolute : p.isAbsolute = true) :
    fs.locate p = FileTree.follow (Text.splitOn '/' p.chars) [] fs.top := by
  unfold locate
  rw [join_of_absolute _ p absolute, if_neg]
  intro empty
  simp [isAbsolute, empty] at absolute

variable {fs : FileSystem} {p q : Path}

theorem SameDirectory.locate_eq (same : fs.SameDirectory p q) : fs.locate q = fs.locate p := by
  obtain ⟨entries, leads⟩ := same.leads
  rw [leads]
  rw [locate_of_absolute fs p same.left, ← FileTree.follow_filter_iff,
    filter_isProper_congr same.left same.right same.components] at leads
  rw [locate_of_absolute fs q same.right, ← FileTree.follow_filter_iff]
  exact leads

theorem SameDirectory.symm (same : fs.SameDirectory p q) : fs.SameDirectory q p := by
  obtain ⟨entries, leads⟩ := same.leads
  exact ⟨same.right, same.left, same.components.symm, entries, same.locate_eq.trans leads⟩

/-- Below a directory its spelling does not count. -/
theorem SameDirectory.locate_join (same : fs.SameDirectory p q) (w : Path) :
    fs.locate (p.join w) = fs.locate (q.join w) := by
  cases absolute : w.isAbsolute with
  | true => rw [join_of_absolute p w absolute, join_of_absolute q w absolute]
  | false =>
    have along (r s : Path) (both : fs.SameDirectory r s) : fs.locate (r.join w) =
        FileTree.follow ((Text.splitOn '/' r.chars).filter isProper ++ Text.splitOn '/' w.chars)
          [] fs.top := by
      obtain ⟨entries, leads⟩ := both.leads
      rw [locate_of_absolute fs r both.left] at leads
      rw [locate_of_absolute fs _ (by simp [isAbsolute_join, both.left])]
      obtain ⟨way, whole, proper⟩ := splitOn_join r w both.left absolute
      rw [whole, ← proper]
      apply FileTree.follow_filter_append way _ [] fs.top (.directory entries)
      rwa [← FileTree.follow_filter_iff, proper, FileTree.follow_filter_iff]
    rw [along p q same, along q p same.symm,
      filter_isProper_congr same.left same.right same.components]

theorem SameDirectory.readText_join (same : fs.SameDirectory p q) (w : Path) :
    fs.readText (p.join w) = fs.readText (q.join w) := by
  unfold readText readBytes
  rw [same.locate_join w]

theorem SameDirectory.names_eq (same : fs.SameDirectory p q) : names p = names q := by
  unfold names
  rw [same.components]

end FileSystem

end ResultLint
