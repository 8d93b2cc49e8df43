-- The text form of a report, read back. A report is cut into its lines, and the lines are
-- read one by one. Nothing is escaped in them, so what they tell hangs on where they start
-- and on the first tab.
import ImageTiers.Report
import Mathlib.Data.List.Basic

namespace ImageTiers

/-! ## Lines of a text -/

/-- The lines of a text, each of which has a line end after it. -/
def linesOf (text : String) : List String :=
  (text.toList.splitOn '\n').dropLast.map String.ofList

theorem linesOf_lines {ls : List String} (h : ∀ s ∈ ls, '\n' ∉ s.toList) :
    linesOf (Report.lines ls) = ls := by
  have hsplit : (Report.lines ls).toList.splitOn '\n' = ls.map String.toList ++ [[]] := by
    rw [Report.lines, String.toList_join, List.flatMap_map]
    induction ls with
    | nil => exact List.splitOn_nil _
    | cons s ls ih =>
      obtain ⟨hs, hls⟩ := List.forall_mem_cons.mp h
      have hline : (s ++ "\n").toList = s.toList ++ ['\n'] := by simp [String.toList_append]
      rw [List.flatMap_cons, hline, List.append_assoc, List.singleton_append,
        List.splitOn_append_cons_self_of_not_mem hs, ih hls, List.map_cons, List.cons_append]
  simp [linesOf, hsplit, Function.comp_def]

/-! ## Entries of the report on needed libraries -/

/-- What the report tells of one library in both of its forms. -/
structure Entry where
  path : String
  deps : List String
  unresolved : List String
  deriving DecidableEq

/-- The path starts at the root of the image. -/
def Rooted (path : String) : Prop := path.toList.head? = some '/'

instance (path : String) : Decidable (Rooted path) := inferInstanceAs (Decidable (_ = _))

/-- What a line of the text form says. -/
inductive EntryLine
  | library (path : String)
  | dep (path : String)
  | symbol (s : String)

namespace EntryLine

/-- A line that starts with a slash opens a library. After a tab, a text that starts with a
slash is a library that is needed, and one that starts as said is an unresolved symbol. -/
def ofText? (line : String) : Option EntryLine :=
  match line.toList with
  | '/' :: _ => some (.library line)
  | '\t' :: '/' :: cs => some (.dep (String.ofList ('/' :: cs)))
  | '\t' :: cs =>
    ("unresolved: ".toList.isPrefixOf? cs).map fun s => .symbol (String.ofList s)
  | _ => none

theorem ofText?_path {path : String} (h : Rooted path) :
    ofText? path = some (.library path) := by
  obtain ⟨cs, hcs⟩ := List.head?_eq_some_iff.mp h
  simp [ofText?, hcs]

theorem ofText?_dep {path : String} (h : Rooted path) :
    ofText? ("\t" ++ path) = some (.dep path) := by
  obtain ⟨cs, hcs⟩ := List.head?_eq_some_iff.mp h
  have hpath : String.ofList ('/' :: cs) = path := by rw [← hcs, String.ofList_toList]
  simp [ofText?, String.toList_append, hcs, hpath]

theorem ofText?_symbol (s : String) :
    ofText? ("\tunresolved: " ++ s) = some (.symbol s) := by
  simp [ofText?, String.toList_append, List.isPrefixOf?]

end EntryLine

/-- The lines of the entry tell it and nothing else. -/
structure Entry.Readable (e : Entry) : Prop where
  path : Rooted e.path
  deps : ∀ path ∈ e.deps, Rooted path
  ends : ∀ s ∈ e.path :: e.deps ++ e.unresolved, '\n' ∉ s.toList

namespace Entry

open EntryLine (ofText?_path ofText?_dep ofText?_symbol)

/-- The lines of an entry in the text form. -/
def lines (e : Entry) : List String :=
  e.path :: e.deps.map ("\t" ++ ·) ++ e.unresolved.map ("\tunresolved: " ++ ·)

/-- Takes in one more line. The entries so far are listed backwards. -/
def addLine (entries : List Entry) (line : String) : Option (List Entry) :=
  match EntryLine.ofText? line, entries with
  | some (.library path), entries => some (⟨path, [], []⟩ :: entries)
  | some (.dep path), e :: entries => some ({ e with deps := e.deps ++ [path] } :: entries)
  | some (.symbol s), e :: entries => some ({ e with unresolved := e.unresolved ++ [s] } :: entries)
  | _, _ => none

/-- The entries that a text tells, if it tells entries only. -/
def ofText? (text : String) : Option (List Entry) :=
  ((linesOf text).foldlM addLine []).map List.reverse

theorem foldlM_addLine_deps {deps : List String} (h : ∀ path ∈ deps, Rooted path) (e : Entry)
    (entries : List Entry) :
    (deps.map ("\t" ++ ·)).foldlM addLine (e :: entries) =
      some ({ e with deps := e.deps ++ deps } :: entries) := by
  induction deps generalizing e with
  | nil => simp
  | cons path deps ih =>
    obtain ⟨hpath, hdeps⟩ := List.forall_mem_cons.mp h
    simp [addLine, ofText?_dep hpath, ih hdeps]

theorem foldlM_addLine_symbols (symbols : List String) (e : Entry) (entries : List Entry) :
    (symbols.map ("\tunresolved: " ++ ·)).foldlM addLine (e :: entries) =
      some ({ e with unresolved := e.unresolved ++ symbols } :: entries) := by
  induction symbols generalizing e with
  | nil => simp
  | cons s symbols ih => simp [addLine, ofText?_symbol, ih]

theorem Readable.foldlM_addLine {e : Entry} (h : e.Readable) (entries : List Entry) :
    e.lines.foldlM addLine entries = some (e :: entries) := by
  simp [lines, addLine, ofText?_path h.path, foldlM_addLine_deps h.deps, foldlM_addLine_symbols]

theorem Readable.newline_not_mem {e : Entry} (h : e.Readable) :
    ∀ line ∈ e.lines, '\n' ∉ line.toList := by
  have hends := h.ends
  intro line hline
  simp only [lines, List.mem_cons, List.mem_append, List.mem_map] at hline hends
  rcases hline with (rfl | ⟨path, hpath, rfl⟩) | ⟨s, hs, rfl⟩
  · exact hends _ (Or.inl (Or.inl rfl))
  · simpa [String.toList_append] using hends path (Or.inl (Or.inr hpath))
  · simpa [String.toList_append] using hends s (Or.inr hs)

theorem foldlM_addLine_flatMap {es : List Entry} (h : ∀ e ∈ es, e.Readable)
    (entries : List Entry) :
    (es.flatMap lines).foldlM addLine entries = some (es.reverse ++ entries) := by
  induction es generalizing entries with
  | nil => simp
  | cons e es ih =>
    obtain ⟨he, hes⟩ := List.forall_mem_cons.mp h
    simp [he.foldlM_addLine, ih hes]

/-- Entries are read back from their lines. -/
theorem ofText?_lines {es : List Entry} (h : ∀ e ∈ es, e.Readable) :
    ofText? (Report.lines (es.flatMap lines)) = some es := by
  have hends : ∀ line ∈ es.flatMap lines, '\n' ∉ line.toList := by
    intro line hline
    obtain ⟨e, he, hline⟩ := List.mem_flatMap.mp hline
    exact (h e he).newline_not_mem line hline
  rw [ofText?, linesOf_lines hends, foldlM_addLine_flatMap h]
  simp

end Entry

/-! ## Lines with a name before a tab -/

/-- A line, parted at its first tab. -/
def atTab (line : String) : String × String :=
  (String.ofList (line.toList.takeWhile (· ≠ '\t')),
    String.ofList ((line.toList.dropWhile (· ≠ '\t')).drop 1))

theorem atTab_append {name : String} (h : '\t' ∉ name.toList) (rest : String) :
    atTab (name ++ "\t" ++ rest) = (name, rest) := by
  have hname : ∀ c ∈ name.toList, decide (c ≠ '\t') = true := by
    intro c hc
    exact decide_eq_true fun htab => h (htab ▸ hc)
  simp only [atTab, String.toList_append, List.append_assoc]
  rw [List.takeWhile_append_of_pos hname, List.dropWhile_append_of_pos hname]
  simp

/-- What stands after the tab in the lines that have `name` before it. -/
def group (lines : List String) (name : String) : List String :=
  (lines.map atTab).filterMap fun (before, rest) => if before = name then some rest else none

/-- Lines that tell arrays, one after the other. -/
def tabLines (arrays : List (String × List String)) : List String :=
  arrays.flatMap fun (name, ss) => ss.map (name ++ "\t" ++ ·)

theorem map_atTab_tabLines {arrays : List (String × List String)}
    (h : ∀ array ∈ arrays, '\t' ∉ array.1.toList) :
    (tabLines arrays).map atTab = arrays.flatMap fun (name, ss) => ss.map (name, ·) := by
  rw [tabLines, List.map_flatMap]
  apply List.flatMap_congr
  rintro ⟨name, ss⟩ harray
  rw [List.map_map]
  apply List.map_congr_left
  intro s _
  exact atTab_append (h _ harray) s

/-- The lines with one name before the tab are those of the array with this name. -/
theorem group_tabLines {arrays : List (String × List String)}
    (htab : ∀ array ∈ arrays, '\t' ∉ array.1.toList) (hnames : (arrays.map Prod.fst).Nodup)
    (name : String) : group (tabLines arrays) name = (arrays.lookup name).getD [] := by
  rw [group, map_atTab_tabLines htab]
  clear htab
  induction arrays with
  | nil => rfl
  | cons array arrays ih =>
    obtain ⟨first, ss⟩ := array
    simp only [List.map_cons, List.nodup_cons] at hnames
    obtain ⟨hnew, hnames⟩ := hnames
    rw [List.flatMap_cons, List.filterMap_append, ih hnames, List.filterMap_map,
      Function.comp_def, List.lookup_cons]
    by_cases hfirst : first = name
    -- The names differ, so no later array has lines with this one.
    · have hrest : arrays.lookup name = none := by
        rw [List.lookup_eq_none_iff]
        intro array harray
        have hne : name ≠ array.1 := by
          intro heq
          apply hnew
          rw [hfirst, heq]
          exact List.mem_map_of_mem harray
        simpa using hne
      simp [hfirst, hrest]
    · have hfirst' : (name == first) = false := by simpa using Ne.symm hfirst
      simp [hfirst, hfirst']

end ImageTiers
