-- What a run reads. A run looks only at the files that its command line names, so they can be
-- taken in before it starts. In a tree of files a name is followed part by part, and `..` goes
-- back, but the name alone tells to which place it leads. The law: what is read is the file
-- at that place, and no name leads out of the tree.
import ImageTiers.FileTree
import ImageTiers.Proofs.ExitCodes

namespace ImageTiers

/-! ## The files of a run -/

theorem execute_congr {files files' : Files} {words : List String}
    (h : ∀ file ∈ (Invocation.parse words).1.files, files' file = files file) :
    execute files' words = execute files words := by
  rw [execute, execute, Invocation.run_accept]
  revert h
  rcases Invocation.parse words with ⟨inv, _ | e⟩
  · intro h
    simp only [Invocation.run_congr h]
  · intro _
    rfl

theorem Files.ofContents_map {names : List String} {file : String} (files : Files)
    (h : file ∈ names) :
    ofContents (names.map fun name => (name, files name)) file = files file := by
  induction names with
  | nil => cases h
  | cons name names ih =>
    rw [ofContents, List.map_cons, List.lookup_cons]
    by_cases heq : file = name
    · simp [heq]
    · have hrest := ih (List.mem_of_ne_of_mem heq h)
      rw [ofContents] at hrest
      simpa [beq_false_of_ne heq] using hrest

/-- It makes no difference if the files that a command line names are taken in first. -/
theorem execute_ofContents (files : Files) (words : List String) :
    execute (.ofContents ((Invocation.parse words).1.files.map fun name => (name, files name)))
      words = execute files words :=
  execute_congr fun _ hfile => Files.ofContents_map files hfile

/-! ## Places in a tree -/

namespace FileTree

/-- The tree has a file with this content at the place. -/
inductive HasFile : FileTree → List String → ByteArray → Prop
  | here {content : ByteArray} : HasFile (.file content) [] content
  | inside {entries : List (String × FileTree)} {part : String} {tree : FileTree}
    {rest : List String} {content : ByteArray} (hpart : entries.lookup part = some tree)
    (hrest : HasFile tree rest content) : HasFile (.directory entries) (part :: rest) content

/-- A part of a name that goes on to an entry of a directory. -/
def GoesOn (part : String) : Prop := part ≠ "" ∧ part ≠ "." ∧ part ≠ ".."

/-- The place that the parts of a name lead to from the place `back`, whose last part comes
first; `none` if they lead out of the tree. -/
def placeFrom (back : List String) : List String → Option (List String)
  | [] => some back.reverse
  | part :: rest =>
    if part = "" ∨ part = "." then placeFrom back rest
    else if part = ".." then
      if back = [] then none else placeFrom back.tail rest
    else placeFrom (part :: back) rest

/-- On the way `back` from the root one comes through the directories `up` to `tree`. -/
inductive ComesTo (root : FileTree) : List String → List FileTree → FileTree → Prop
  | start : ComesTo root [] [] root
  | enter {back : List String} {up : List FileTree} {entries : List (String × FileTree)}
    {part : String} {tree : FileTree} (hback : ComesTo root back up (.directory entries))
    (hpart : entries.lookup part = some tree) :
    ComesTo root (part :: back) (.directory entries :: up) tree

variable {root tree : FileTree} {back : List String} {up : List FileTree} {content : ByteArray}

theorem ComesTo.hasFile (h : ComesTo root back up tree) {rest : List String}
    (hfile : tree.HasFile rest content) : root.HasFile (back.reverse ++ rest) content := by
  induction h generalizing rest with
  | start => exact hfile
  | enter _ hpart ih =>
    have hinside := ih (.inside hpart hfile)
    simpa using hinside

/-- Above the root there is nothing to read. -/
theorem follow_above (parts : List String) : follow [] (directory []) parts ≠ .ok content := by
  induction parts with
  | nil => simp [follow]
  | cons part rest ih =>
    rw [follow]
    split
    · exact ih
    · split
      · exact ih
      · simp

/-- If the parts of a name are followed to a file, it is the file at their place. -/
theorem ComesTo.hasFile_of_follow {parts : List String} (h : ComesTo root back up tree)
    (hread : follow up tree parts = .ok content) :
    ∃ place, placeFrom back parts = some place ∧ root.HasFile place content := by
  induction parts generalizing back up tree with
  | nil =>
    cases tree with
    | directory entries => simp [follow] at hread
    | file bytes =>
      cases hread
      exact ⟨_, rfl, by simpa using h.hasFile .here⟩
  | cons part rest ih =>
    cases tree with
    | file bytes => simp [follow] at hread
    | directory entries =>
      rw [follow] at hread
      rw [placeFrom]
      split at hread
      case isTrue hstays =>
        rw [if_pos hstays]
        exact ih h hread
      case isFalse hmoves =>
        rw [if_neg hmoves]
        split at hread
        case isTrue hup =>
          rw [if_pos hup]
          -- Going back undoes the last step, and from the root there is none.
          cases h with
          | start => exact absurd hread (follow_above rest)
          | enter hback _ =>
            rw [if_neg (by simp), List.tail_cons]
            exact ih hback hread
        case isFalse hdown =>
          rw [if_neg hdown]
          split at hread
          · rename_i next hnext
            exact ih (.enter h hnext) hread
          · cases hread

theorem follow_of_hasFile {parts : List String} (hparts : ∀ part ∈ parts, GoesOn part)
    (h : tree.HasFile parts content) (up : List FileTree) :
    follow up tree parts = .ok content := by
  induction h generalizing up with
  | here => rfl
  | @inside entries part tree rest content hpart _ ih =>
    obtain ⟨⟨hblank, hdot, hup⟩, hrest⟩ := List.forall_mem_cons.mp hparts
    rw [follow, if_neg (by simp [hblank, hdot]), if_neg hup, hpart]
    exact ih hrest _

theorem placeFrom_of_goesOn {parts : List String} (h : ∀ part ∈ parts, GoesOn part)
    (back : List String) : placeFrom back parts = some (back.reverse ++ parts) := by
  induction parts generalizing back with
  | nil => simp [placeFrom]
  | cons part rest ih =>
    obtain ⟨⟨hblank, hdot, hup⟩, hrest⟩ := List.forall_mem_cons.mp h
    rw [placeFrom, if_neg (by simp [hblank, hdot]), if_neg hup, ih hrest]
    simp

/-! ## The law -/

theorem ok_of_read {name : String} (h : tree.read name = .ok content) :
    name.contains '\x00' = false ∧ name ≠ "" ∧ name.toList.head? ≠ some '/' ∧
      follow [] tree (parts name) = .ok content := by
  rw [read] at h
  split at h
  · cases h
  · rename_i hnull
    split at h
    · cases h
    · rename_i hempty
      split at h
      · exact absurd h (follow_above _)
      · rename_i hslash
        exact ⟨by simpa using hnull, hempty, hslash, h⟩

/-- A name reads the file at the place that it leads to, if it reads one. The names that are
read are those inside the tree: they do not start with a slash, and they lead to a place. A
name of entries alone is read if there is a file at just this place. -/
theorem a_name_reads_the_file_at_its_place (tree : FileTree) (name : String)
    (content : ByteArray) :
    (tree.read name = .ok content → name.toList.head? ≠ some '/' ∧
      ∃ place, placeFrom [] (parts name) = some place ∧ tree.HasFile place content) ∧
    (name.contains '\x00' = false → name ≠ "" → name.toList.head? ≠ some '/' →
      (∀ part ∈ parts name, GoesOn part) →
      (tree.read name = .ok content ↔ tree.HasFile (parts name) content)) := by
  have hplace : tree.read name = .ok content →
      ∃ place, placeFrom [] (parts name) = some place ∧ tree.HasFile place content :=
    fun h => ComesTo.start.hasFile_of_follow (ok_of_read h).2.2.2
  refine ⟨fun h => ⟨(ok_of_read h).2.2.1, hplace h⟩, ?_⟩
  intro hnull hempty hslash hparts
  constructor
  · intro h
    obtain ⟨place, hparts', hfile⟩ := hplace h
    rw [placeFrom_of_goesOn hparts] at hparts'
    cases hparts'
    exact hfile
  · intro hfile
    rw [read, if_neg (by simp [hnull]), if_neg hempty, if_neg hslash]
    exact follow_of_hasFile hparts hfile []

end FileTree

end ImageTiers
