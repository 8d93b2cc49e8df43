-- The two forms of a report. Whoever reads the lines of the text form comes to the same as
-- whoever decodes the JSON form. The text form escapes nothing, so this takes paths that
-- start with a slash, and paths and symbols without a line end.
import ImageTiers.Proofs.JsonTexts
import ImageTiers.Proofs.ReportLines
import ImageTiers.Proofs.Reports

namespace ImageTiers

/-! ## Members of a JSON object -/

namespace Json

/-- Decodes the member `name` of an object, whatever else is in the object. -/
def decodeMember {α : Type} (name : String) (decode : Decoder α) : Decoder α
  | .object members .closed => do decode (← required name (members.lookup (some name)))
  | _ => .error .malformed

theorem decodeMember_draft {α : Type} {name : String} {members : List (String × Json)} {v : Json}
    (h : members.lookup name = some v) (decode : Decoder α) :
    decodeMember name decode (object members).draft = decode v.draft := by
  have hlookup : (memberDrafts members).lookup (some name) = some v.draft := by
    induction members with
    | nil => cases h
    | cons m ms ih =>
      obtain ⟨k, w⟩ := m
      rw [List.lookup_cons] at h
      rw [memberDrafts, List.lookup_cons, Option.some_beq_some]
      split at h
      · cases h
        rfl
      · exact ih h
  rw [draft, decodeMember, hlookup]
  rfl

theorem decodeMember_strings {name : String} {members : List (String × Json)}
    {ss : List String} (h : members.lookup name = some (strings ss)) :
    decodeMember name (decodeList decodeString) (object members).draft = .ok ss := by
  rw [decodeMember_draft h, decodeList_strings]

/-- Decodes a member with its name. -/
def decodeNamed {α : Type} (decode : Decoder α) : Member → Except DecodeError (String × α)
  | (some name, d) => do return (name, ← decode d)
  | (none, _) => .error .malformed

/-- Decodes an object whose members are all of one kind, in order. -/
def decodeMembers {α : Type} (decode : Decoder α) : Decoder (List (String × α))
  | .object members .closed => members.mapM (decodeNamed decode)
  | _ => .error .malformed

theorem decodeMembers_draft {α β : Type} {decode : Decoder β} {f : α → Json} {g : α → β}
    (h : ∀ a, decode (f a).draft = .ok (g a)) (members : List (String × α)) :
    decodeMembers decode (object (members.map fun (name, a) => (name, f a))).draft =
      .ok (members.map fun (name, a) => (name, g a)) := by
  have hmember : ∀ m : String × α,
      decodeNamed decode (some m.1, (f m.2).draft) = .ok (m.1, g m.2) := by
    intro m
    rw [decodeNamed, h]
    rfl
  rw [draft, memberDrafts_eq, List.map_map, decodeMembers]
  exact mapM_map_ok hmember members

theorem decodeMembers_strings (arrays : List (String × List String)) :
    decodeMembers (decodeList decodeString)
      (object (arrays.map fun (name, ss) => (name, strings ss))).draft = .ok arrays := by
  have harrays := decodeMembers_draft (g := id) decodeList_strings arrays
  rw [show (fun (name, ss) => (name, id ss) : String × List String → _) = id from rfl,
    List.map_id] at harrays
  exact harrays

end Json

/-! ## The JSON form of an entry -/

/-- Decodes the members that the text form has as well. -/
def Entry.decoder : Json.Decoder Entry := fun d => do
  let path ← Json.decodeMember "path" Json.decodeString d
  let deps ← Json.decodeMember "deps" (Json.decodeList Json.decodeString) d
  let unresolved ← Json.decodeMember "unresolved_symbols" (Json.decodeList Json.decodeString) d
  return ⟨path, deps, unresolved⟩

/-- What the report tells of a node. -/
def Report.entry (img : Image) (node : Node) : Entry :=
  ⟨node.path, img.paths node.links.deps, node.links.unresolved⟩

theorem Report.decoder_depsJson (img : Image) (node : Node) :
    Entry.decoder (depsJson img node).draft = .ok (entry img node) := by
  have hpath : Json.decodeMember "path" Json.decodeString (depsJson img node).draft =
      .ok node.path := (Json.decodeMember_draft rfl _).trans rfl
  have hdeps : Json.decodeMember "deps" (Json.decodeList Json.decodeString)
      (depsJson img node).draft = .ok (img.paths node.links.deps) :=
    Json.decodeMember_strings rfl
  have hunresolved : Json.decodeMember "unresolved_symbols" (Json.decodeList Json.decodeString)
      (depsJson img node).draft = .ok node.links.unresolved :=
    Json.decodeMember_strings rfl
  simp only [Entry.decoder, hpath, hdeps, hunresolved, bind, Except.bind]
  rfl

/-! ## Paths and symbols of an image -/

/-- A library as the text form needs it: its path starts with a slash, and neither the path
nor a symbol that it imports has a line end. -/
structure Library.Plain (lib : Library) : Prop where
  rooted : Rooted lib.path
  path : '\n' ∉ lib.path.toList
  imported : ∀ s ∈ lib.elf.imported, '\n' ∉ s.toList

instance (lib : Library) : Decidable lib.Plain :=
  decidable_of_iff (Rooted lib.path ∧ '\n' ∉ lib.path.toList ∧
      ∀ s ∈ lib.elf.imported.toList, '\n' ∉ s.toList)
    ⟨fun ⟨hrooted, hpath, himported⟩ =>
      ⟨hrooted, hpath, fun s hs => himported s (Std.ExtTreeSet.mem_toList.mpr hs)⟩,
    fun h => ⟨h.rooted, h.path, fun s hs => h.imported s (Std.ExtTreeSet.mem_toList.mp hs)⟩⟩

namespace Image

theorem mem_paths (img : Image) (ids : List LibId) (path : String) :
    path ∈ img.paths ids ↔ ∃ id ∈ ids, img.path id = path := by
  rw [paths, List.mem_mergeSort, List.mem_map]

theorem plain_of_node? {img : Image} (h : ∀ lib ∈ img.libraries, lib.Plain) {id : LibId}
    {node : Node} (hnode : img.node? id = some node) : node.toLibrary.Plain := by
  apply h
  apply List.mem_of_getElem? (i := id)
  rw [getElem?_libraries, hnode, Option.map_some]

/-- An id that names no library has the empty path, which is also on one line. -/
theorem newline_not_mem_paths {img : Image} (h : ∀ lib ∈ img.libraries, lib.Plain)
    (ids : List LibId) : ∀ path ∈ img.paths ids, '\n' ∉ path.toList := by
  intro path hpath
  obtain ⟨id, _, rfl⟩ := (mem_paths img ids path).mp hpath
  cases hnode : img.node? id with
  | none => simp [Image.path, hnode]
  | some node =>
    rw [path_of_node? hnode]
    exact (plain_of_node? h hnode).path

theorem rooted_paths {img : Image} (h : ∀ lib ∈ img.libraries, lib.Plain) {ids : List LibId}
    (hlt : ∀ id ∈ ids, id < img.size) : ∀ path ∈ img.paths ids, Rooted path := by
  intro path hpath
  obtain ⟨id, hid, rfl⟩ := (mem_paths img ids path).mp hpath
  obtain ⟨node, hnode⟩ := exists_node? (hlt id hid)
  rw [path_of_node? hnode]
  exact (plain_of_node? h hnode).rooted

/-- A symbol can only be missing where it is imported. -/
def MissingImported (img : Image) : Prop :=
  ∀ id node, img.node? id = some node → ∀ s ∈ node.links.missing, s ∈ node.elf.imported

end Image

namespace Linker

theorem Reachable.missingImported {l : Linker} (h : Reachable l) : l.image.MissingImported := by
  have hboth : l.image.Indexed ∧ l.image.MissingImported := by
    apply h.image_invariant (P := fun img => img.Indexed ∧ img.MissingImported)
    · exact ⟨Image.indexed_empty, by simp [Image.MissingImported, Image.node?, Image.empty]⟩
    · intro img lib himg hnew
      refine ⟨Image.indexed_push himg.1 lib hnew, ?_⟩
      intro id node hnode s hs
      rw [Image.node?_push] at hnode
      split at hnode
      · cases hnode
        exact absurd hs Std.ExtTreeSet.not_mem_empty
      · exact himg.2 id node hnode s hs
    · intro img fallback himg
      refine ⟨Image.indexed_of_clearLinks himg.1 (Image.clearLinks_link img fallback), ?_⟩
      intro id node hnode s hs
      exact (((Image.node?_link himg.1 fallback hnode).2.2.missing s).mp hs).1
  exact hboth.2

/-! ## The reports -/

theorem Reachable.readable_entry {l : Linker} (h : Reachable l)
    (hplain : ∀ lib ∈ l.image.libraries, lib.Plain) {id : LibId} {node : Node}
    (hnode : l.image.node? id = some node) : (Report.entry l.image node).Readable := by
  have hlib := Image.plain_of_node? hplain hnode
  refine ⟨hlib.rooted, ?_, ?_⟩
  · apply Image.rooted_paths hplain
    intro dep hdep
    rw [← Image.deps_of_node? hnode] at hdep
    exact h.dep_lt_size hdep
  · intro s hs
    simp only [Report.entry, List.mem_append, List.mem_cons] at hs
    rcases hs with (rfl | hs) | hs
    · exact hlib.path
    · exact Image.newline_not_mem_paths hplain _ s hs
    · exact hlib.imported s (h.missingImported id node hnode s (Std.ExtTreeSet.mem_toList.mp hs))

/-- The entries are read back from the text form of the report on needed libraries. -/
theorem Reachable.ofText?_deps {l : Linker} (h : Reachable l)
    (hplain : ∀ lib ∈ l.image.libraries, lib.Plain) :
    Entry.ofText? (Report.deps l.image .text) =
      some ((Report.sortedNodes l.image).map (Report.entry l.image)) := by
  have hlines : (Report.sortedNodes l.image).flatMap (Report.depsLines l.image) =
      ((Report.sortedNodes l.image).map (Report.entry l.image)).flatMap Entry.lines := by
    rw [List.flatMap_map]
    rfl
  rw [Report.deps, hlines]
  apply Entry.ofText?_lines
  rw [List.forall_mem_map]
  intro node hnode
  obtain ⟨id, hid⟩ := (Report.mem_sortedNodes l.image node).mp hnode
  exact h.readable_entry hplain hid

end Linker

namespace Report

theorem decode_deps (img : Image) :
    Json.decode (Json.decodeList Entry.decoder) (deps img .json) =
      .ok ((sortedNodes img).map (entry img)) := by
  rw [deps, Json.decode_pretty]
  exact Json.decodeList_draft (decoder_depsJson img) _

theorem decode_paths (img : Image) (ids : List LibId) :
    Json.decode (Json.decodeList Json.decodeString) (paths img ids .json) =
      .ok (img.paths ids) := by
  rw [paths, Json.decode_pretty, Json.decodeList_strings]

/-- The paths of each tier, with its name. -/
def arrays (img : Image) (t : Tiers) : List (String × List String) :=
  t.named.map fun (name, ids) => (name, img.paths ids)

theorem tiers_text (img : Image) (t : Tiers) :
    tiers img t .text = lines (tabLines (arrays img t)) := by
  rw [tiers, tabLines, arrays, List.flatMap_map]

theorem decode_tiers (img : Image) (t : Tiers) :
    Json.decode (Json.decodeMembers (Json.decodeList Json.decodeString)) (tiers img t .json) =
      .ok (arrays img t) := by
  have hmembers : (t.named.map fun (name, ids) => (name, Json.strings (img.paths ids))) =
      (arrays img t).map fun (name, ss) => (name, Json.strings ss) := by
    rw [arrays, List.map_map]
    rfl
  rw [tiers, hmembers, Json.decode_pretty, Json.decodeMembers_strings]

theorem names_arrays (img : Image) (t : Tiers) :
    (arrays img t).map Prod.fst = Tier.all.map (·.name) := by
  rw [arrays, Tiers.named_eq, List.map_map, List.map_map]
  rfl

theorem nodup_names_arrays (img : Image) (t : Tiers) : ((arrays img t).map Prod.fst).Nodup := by
  rw [names_arrays]
  decide

/-- The name of a tier fits before the tab of a line. -/
theorem not_mem_name_arrays {img : Image} {t : Tiers} {array : String × List String}
    (h : array ∈ arrays img t) : '\t' ∉ array.1.toList ∧ '\n' ∉ array.1.toList := by
  have hall : ∀ name ∈ Tier.all.map (·.name), '\t' ∉ name.toList ∧ '\n' ∉ name.toList := by
    decide
  apply hall
  rw [← names_arrays img t]
  exact List.mem_map_of_mem h

theorem linesOf_tiers {img : Image} (h : ∀ lib ∈ img.libraries, lib.Plain) (t : Tiers) :
    linesOf (tiers img t .text) = tabLines (arrays img t) := by
  rw [tiers_text]
  apply linesOf_lines
  intro line hline
  obtain ⟨⟨name, paths⟩, harray, hline⟩ := List.mem_flatMap.mp hline
  obtain ⟨path, hpath, rfl⟩ := List.mem_map.mp hline
  obtain ⟨_, hname⟩ := not_mem_name_arrays harray
  obtain ⟨tier, _, hpair⟩ := List.mem_map.mp harray
  cases hpair
  have hends := Image.newline_not_mem_paths h _ path hpath
  simp only [String.toList_append, List.mem_append, not_or]
  exact ⟨⟨hname, by decide⟩, hends⟩

end Report

namespace Linker

/-! ## The law -/

/-- Text and JSON say the same. After any run, on an image of libraries with plain paths and
symbols: the lines of the report on needed libraries, read one by one, tell the same
entries as the JSON form, and these are the libraries in the order of their paths with what
they need and what they miss. The lines of a list of paths are its JSON array. And the
lines of the tiers, parted at the tab, are the six JSON arrays one after the other, so that
the lines of one name are the array with this name. -/
theorem text_and_json_say_the_same {l : Linker} (h : Reachable l)
    (hplain : ∀ lib ∈ l.image.libraries, lib.Plain) :
    (∃ entries, entries = (Report.sortedNodes l.image).map (fun node =>
        ⟨node.path, l.image.paths node.links.deps, node.links.unresolved⟩) ∧
      Entry.ofText? (Report.deps l.image .text) = some entries ∧
      Json.decode (Json.decodeList Entry.decoder) (Report.deps l.image .json) = .ok entries) ∧
    (∀ ids, Json.decode (Json.decodeList Json.decodeString) (Report.paths l.image ids .json) =
      .ok (linesOf (Report.paths l.image ids .text))) ∧
    ∀ t : Tiers, ∃ arrays, arrays =
        [("sp_hal", l.image.paths t.spHal), ("sp_hal_dep", l.image.paths t.spHalDep),
          ("vndk_sp_hal", l.image.paths t.vndkSpHal), ("sp_ndk", l.image.paths t.spNdk),
          ("sp_ndk_indirect", l.image.paths t.spNdkIndirect),
          ("vndk_sp_both", l.image.paths t.vndkSpBoth)] ∧
      Json.decode (Json.decodeMembers (Json.decodeList Json.decodeString))
        (Report.tiers l.image t .json) = .ok arrays ∧
      (linesOf (Report.tiers l.image t .text)).map atTab =
        arrays.flatMap (fun (name, paths) => paths.map (name, ·)) ∧
      ∀ name, group (linesOf (Report.tiers l.image t .text)) name =
        (arrays.lookup name).getD [] := by
  refine ⟨?_, ?_, ?_⟩
  · exact ⟨_, rfl, h.ofText?_deps hplain, Report.decode_deps l.image⟩
  · intro ids
    rw [Report.decode_paths, Report.paths, linesOf_lines (Image.newline_not_mem_paths hplain ids)]
  · intro t
    have htab : ∀ array ∈ Report.arrays l.image t, '\t' ∉ array.1.toList :=
      fun _ harray => (Report.not_mem_name_arrays harray).1
    refine ⟨Report.arrays l.image t, rfl, Report.decode_tiers l.image t, ?_, ?_⟩
    · rw [Report.linesOf_tiers hplain, map_atTab_tabLines htab]
    · intro name
      rw [Report.linesOf_tiers hplain, group_tabLines htab (Report.nodup_names_arrays l.image t)]

/-- A library with a quote in its path, and one that needs it. The other one has a tab in its
path and misses two symbols, of which one has no characters and one looks like a line. -/
def oddRun : List Call :=
  [.add ⟨.system, "/system/lib/lib\"q.so", ⟨.elf32, .lsb, [], ∅, ∅⟩⟩,
    .add ⟨.system, "/system/lib/libt\t.so",
      ⟨.elf32, .lsb, ["lib\"q.so"], ∅, .ofList ["\tunresolved: \\", ""]⟩⟩]

/-- What the report on this run tells in both forms. -/
def oddEntries : List Entry :=
  [⟨"/system/lib/lib\"q.so", [], []⟩,
    ⟨"/system/lib/libt\t.so", ["/system/lib/lib\"q.so"], ["", "\tunresolved: \\"]⟩]

theorem odd_names_are_read_back_from_both_forms :
    Entry.ofText? (Report.deps (default.after oddRun).resolve.linker.image .text) =
        some oddEntries ∧
      Json.decode (Json.decodeList Entry.decoder)
        (Report.deps (default.after oddRun).resolve.linker.image .json) = .ok oddEntries := by
  have h : Reachable (default.after oddRun).resolve.linker :=
    ((Reachable.fresh .default).after oddRun).resolve
  have hplain : ∀ lib ∈ (default.after oddRun).resolve.linker.image.libraries, lib.Plain := by
    decide +kernel
  obtain ⟨⟨entries, hentries, htext, hjson⟩, _⟩ := text_and_json_say_the_same h hplain
  have hvalue : entries = oddEntries := by
    generalize himg : (default.after oddRun).resolve.linker.image = img at hentries
    -- The sorting does not evaluate, but all that is sorted comes in order.
    have hnodes : Report.sortedNodes img = img.nodes.toList := by
      apply List.mergeSort_of_pairwise
      rw [← himg]
      decide +kernel
    have hpaths : ∀ node ∈ img.nodes.toList,
        img.paths node.links.deps = node.links.deps.map img.path := by
      have hordered : ∀ node ∈ img.nodes.toList,
          (node.links.deps.map img.path).Pairwise fun a b => decide (a ≤ b) = true := by
        rw [← himg]
        decide +kernel
      exact fun node hnode => List.mergeSort_of_pairwise (hordered node hnode)
    rw [hentries, hnodes, List.map_congr_left fun node hnode => by rw [hpaths node hnode], ← himg]
    decide +kernel
  rw [← hvalue]
  exact ⟨htext, hjson⟩

end Linker

end ImageTiers
