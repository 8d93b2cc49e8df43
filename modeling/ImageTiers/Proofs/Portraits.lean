-- Portraits. The JSON form of the report on needed libraries tells more than the text form,
-- and all of it is read back here. The laws: it is a picture of the manifest. It tells each
-- library once, in order, both ends of each edge, and a side for each imported symbol.
import ImageTiers.Proofs.ManifestTexts
import ImageTiers.Proofs.ReportForms

namespace ImageTiers

/-! ## Reading a portrait back -/

/-- What the JSON form of the report tells of one library. -/
structure Portrait where
  path : String
  partition : Partition
  elfClass : ElfClass
  deps : List String
  users : List String
  /-- The symbols that found a provider, with its path. -/
  linked : List (String × String)
  unresolved : List String
  deriving DecidableEq

def Portrait.decoder : Json.Decoder Portrait := fun d => do
  let path ← Json.decodeMember "path" Json.decodeString d
  let partition ← Json.decodeMember "partition" Library.decodePartition d
  let elfClass ← Json.decodeMember "class" (Elf.decodeClass .direct) d
  let deps ← Json.decodeMember "deps" (Json.decodeList Json.decodeString) d
  let users ← Json.decodeMember "users" (Json.decodeList Json.decodeString) d
  let linked ← Json.decodeMember "linked_symbols" (Json.decodeMembers Json.decodeString) d
  let unresolved ← Json.decodeMember "unresolved_symbols" (Json.decodeList Json.decodeString) d
  return ⟨path, partition, elfClass, deps, users, linked, unresolved⟩

namespace Report

/-- What the report tells of a node. -/
def portrait (img : Image) (node : Node) : Portrait where
  path := node.path
  partition := node.partition
  elfClass := node.elf.elfClass
  deps := img.paths node.links.deps
  users := img.paths node.links.users
  linked := node.links.linked.map fun (symbol, id) => (symbol, img.path id)
  unresolved := node.links.unresolved

/-- The portraits of all libraries, in the order of the report. -/
def portraits (img : Image) : List Portrait := (sortedNodes img).map (portrait img)

theorem decoder_portrait (img : Image) (node : Node) :
    Portrait.decoder (depsJson img node).draft = .ok (portrait img node) := by
  have hpath : Json.decodeMember "path" Json.decodeString (depsJson img node).draft =
      .ok node.path := (Json.decodeMember_draft rfl _).trans rfl
  have hpartition : Json.decodeMember "partition" Library.decodePartition
      (depsJson img node).draft = .ok node.partition :=
    (Json.decodeMember_draft rfl _).trans (Library.decodePartition_draft _)
  have hclass : Json.decodeMember "class" (Elf.decodeClass .direct)
      (depsJson img node).draft = .ok node.elf.elfClass :=
    (Json.decodeMember_draft rfl _).trans (Elf.decodeClass_draft .direct _)
  have hdeps : Json.decodeMember "deps" (Json.decodeList Json.decodeString)
      (depsJson img node).draft = .ok (img.paths node.links.deps) :=
    Json.decodeMember_strings rfl
  have husers : Json.decodeMember "users" (Json.decodeList Json.decodeString)
      (depsJson img node).draft = .ok (img.paths node.links.users) :=
    Json.decodeMember_strings rfl
  have htext : ∀ id, Json.decodeString (Json.string (img.path id)).draft = .ok (img.path id) :=
    fun _ => rfl
  have hlinked : Json.decodeMember "linked_symbols" (Json.decodeMembers Json.decodeString)
      (depsJson img node).draft =
        .ok (node.links.linked.map fun (symbol, id) => (symbol, img.path id)) :=
    (Json.decodeMember_draft rfl _).trans (Json.decodeMembers_draft htext _)
  have hunresolved : Json.decodeMember "unresolved_symbols" (Json.decodeList Json.decodeString)
      (depsJson img node).draft = .ok node.links.unresolved :=
    Json.decodeMember_strings rfl
  simp only [Portrait.decoder, hpath, hpartition, hclass, hdeps, husers, hlinked, hunresolved,
    bind, Except.bind]
  rfl

theorem decode_portraits (img : Image) :
    Json.decode (Json.decodeList Portrait.decoder) (deps img .json) = .ok (portraits img) := by
  rw [deps, Json.decode_pretty]
  exact Json.decodeList_draft (decoder_portrait img) _

theorem mem_portraits (img : Image) (p : Portrait) :
    p ∈ portraits img ↔ ∃ id node, img.node? id = some node ∧ portrait img node = p := by
  rw [portraits, List.mem_map]
  simp only [mem_sortedNodes]
  constructor
  · rintro ⟨node, ⟨id, hnode⟩, rfl⟩
    exact ⟨id, node, hnode, rfl⟩
  · rintro ⟨id, node, hnode, rfl⟩
    exact ⟨node, ⟨id, hnode⟩, rfl⟩

end Report

/-! ## Paths of an image -/

namespace Image

variable {img : Image}

/-- A path belongs to one library only. -/
theorem eq_of_path_eq (h : Indexed img) {a b : LibId} {x y : Node}
    (ha : img.node? a = some x) (hb : img.node? b = some y) (hpath : x.path = y.path) : a = b := by
  have hfind := find?_path h ha
  rw [hpath, find?_path h hb] at hfind
  exact (Option.some.inj hfind).symm

/-- A list of libraries has the path of a library just if it has the library. -/
theorem path_mem_paths (h : Indexed img) {id : LibId} {node : Node}
    (hnode : img.node? id = some node) {ids : List LibId} (hlt : ∀ other ∈ ids, other < img.size) :
    node.path ∈ img.paths ids ↔ id ∈ ids := by
  rw [mem_paths]
  constructor
  · rintro ⟨other, hother, hpath⟩
    obtain ⟨onode, honode⟩ := exists_node? (hlt other hother)
    rw [path_of_node? honode] at hpath
    exact eq_of_path_eq h honode hnode hpath ▸ hother
  · intro hid
    exact ⟨id, hid, path_of_node? hnode⟩

/-- The paths of different libraries stand in order, and no two are the same. -/
theorem pairwise_paths (h : Indexed img) {ids : List LibId} (hnodup : ids.Nodup)
    (hlt : ∀ id ∈ ids, id < img.size) :
    (img.paths ids).Pairwise (utf8Bytes · < utf8Bytes ·) := by
  have hmap : (ids.map img.path).Nodup := by
    apply hnodup.map_on
    intro a ha b hb hpath
    obtain ⟨x, hx⟩ := exists_node? (hlt a ha)
    obtain ⟨y, hy⟩ := exists_node? (hlt b hb)
    rw [path_of_node? hx, path_of_node? hy] at hpath
    exact eq_of_path_eq h hx hy hpath
  apply (pairwise_lt_mergeSort_key id (by rwa [List.map_id])).imp
  intro a b hlt
  exact utf8Bytes_lt hlt

end Image

/-! ## Symbols -/

namespace Report

theorem keys_portrait (img : Image) (node : Node) :
    (portrait img node).linked.map (·.1) = node.links.providers.keys := by
  rw [portrait, List.map_map]
  exact Std.ExtTreeMap.map_fst_toList_eq_keys

theorem pairwise_keys_portrait (img : Image) (node : Node) :
    ((portrait img node).linked.map (·.1)).Pairwise (utf8Bytes · < utf8Bytes ·) := by
  rw [keys_portrait]
  apply Std.ExtTreeMap.ordered_keys.imp
  intro s t hlt
  exact utf8Bytes_lt (compareOfLessAndEq_eq_lt.mp hlt)

theorem mem_linked_portrait {img : Image} {node : Node} {s path : String}
    (h : (s, path) ∈ (portrait img node).linked) :
    ∃ provider, node.links.providers[s]? = some provider ∧ img.path provider = path := by
  obtain ⟨⟨t, provider⟩, hmem, hpair⟩ := List.mem_map.mp h
  cases hpair
  exact ⟨provider, Std.ExtTreeMap.mem_toList_iff_getElem?_eq_some.mp hmem, rfl⟩

end Report

/-! ## The picture of a manifest -/

/-- Some portraits are a picture of the libraries of a manifest. -/
structure Pictures (libs : List Library) (ps : List Portrait) : Prop where
  /-- Each library is told once, with its partition and its word size. -/
  listed : (ps.map fun p => (p.path, p.partition, p.elfClass)).Perm
    (libs.map fun lib => (lib.path, lib.partition, lib.elf.elfClass))
  ordered : (ps.map (·.path)).Pairwise (utf8Bytes · < utf8Bytes ·)
  deps_ordered : ∀ p ∈ ps, p.deps.Pairwise (utf8Bytes · < utf8Bytes ·)
  users_ordered : ∀ p ∈ ps, p.users.Pairwise (utf8Bytes · < utf8Bytes ·)
  /-- The ends of an edge are told as well. -/
  closed : ∀ p ∈ ps, ∀ path, path ∈ p.deps ∨ path ∈ p.users → ∃ q ∈ ps, q.path = path
  mirror : ∀ p ∈ ps, ∀ q ∈ ps, q.path ∈ p.users ↔ p.path ∈ q.deps
  /-- Each imported symbol is on one side, and on one side only. -/
  sides : ∀ p ∈ ps, ∀ lib ∈ libs, lib.path = p.path → ∀ s,
    ¬ (s ∈ p.linked.map (·.1) ∧ s ∈ p.unresolved) ∧
      (s ∈ p.linked.map (·.1) ∨ s ∈ p.unresolved ↔ s ∈ lib.elf.imported)
  symbols_ordered : ∀ p ∈ ps, (p.linked.map (·.1)).Pairwise (utf8Bytes · < utf8Bytes ·) ∧
    p.unresolved.Pairwise (utf8Bytes · < utf8Bytes ·)
  providers : ∀ p ∈ ps, ∀ s path, (s, path) ∈ p.linked →
    (∃ q ∈ ps, q.path = path ∧ q.elfClass = p.elfClass) ∧
      ∃ lib ∈ libs, lib.path = path ∧ lib.elf.exports s = true

namespace Report

theorem listed_portraits (img : Image) :
    ((portraits img).map fun p => (p.path, p.partition, p.elfClass)).Perm
      (img.libraries.map fun lib => (lib.path, lib.partition, lib.elf.elfClass)) := by
  rw [portraits, Image.libraries, List.map_map, List.map_map]
  exact (List.mergeSort_perm img.nodes.toList _).map _

theorem ordered_portraits {img : Image} (h : img.Indexed) :
    ((portraits img).map (·.path)).Pairwise (utf8Bytes · < utf8Bytes ·) := by
  rw [portraits, List.map_map, List.pairwise_map]
  exact (pairwise_sortedNodes h).imp utf8Bytes_lt

theorem exists_portrait {img : Image} {id : LibId} (h : id < img.size) :
    ∃ node, img.node? id = some node ∧ portrait img node ∈ portraits img := by
  obtain ⟨node, hnode⟩ := Image.exists_node? h
  exact ⟨node, hnode, (mem_portraits img _).mpr ⟨id, node, hnode, rfl⟩⟩

/-- Where a path stands for a library of the image, that library has a portrait. -/
theorem exists_portrait_of_mem_paths {img : Image} {ids : List LibId}
    (hlt : ∀ id ∈ ids, id < img.size) {path : String} (h : path ∈ img.paths ids) :
    ∃ q ∈ portraits img, q.path = path := by
  obtain ⟨id, hid, rfl⟩ := (Image.mem_paths img ids path).mp h
  obtain ⟨node, hnode, hportrait⟩ := exists_portrait (hlt id hid)
  exact ⟨_, hportrait, (Image.path_of_node? hnode).symm⟩

end Report

namespace Linker

namespace Reachable

variable {l : Linker} (h : Reachable l) {id : LibId} {node : Node}
  (hnode : l.image.node? id = some node)

include h hnode

theorem lt_size_of_deps : ∀ dep ∈ node.links.deps, dep < l.image.size := by
  rw [← Image.deps_of_node? hnode]
  exact fun _ => h.dep_lt_size

theorem lt_size_of_users : ∀ user ∈ node.links.users, user < l.image.size := by
  rw [← Image.users_of_node? hnode]
  exact fun _ => h.user_lt_size

theorem pairwise_paths_deps :
    (l.image.paths node.links.deps).Pairwise (utf8Bytes · < utf8Bytes ·) := by
  apply Image.pairwise_paths h.indexed _ (h.lt_size_of_deps hnode)
  rw [← Image.deps_of_node? hnode]
  exact h.sound.nodup id

theorem pairwise_paths_users :
    (l.image.paths node.links.users).Pairwise (utf8Bytes · < utf8Bytes ·) := by
  apply Image.pairwise_paths h.indexed _ (h.lt_size_of_users hnode)
  rw [← Image.users_of_node? hnode]
  exact (h.sound.increasing id).imp Nat.ne_of_lt

/-- Both ends of an edge tell of it by their paths. -/
theorem path_mem_paths_users {other : LibId} {onode : Node}
    (honode : l.image.node? other = some onode) :
    onode.path ∈ l.image.paths node.links.users ↔ node.path ∈ l.image.paths onode.links.deps := by
  rw [Image.path_mem_paths h.indexed honode (h.lt_size_of_users hnode),
    Image.path_mem_paths h.indexed hnode (h.lt_size_of_deps honode),
    ← Image.users_of_node? hnode, ← Image.deps_of_node? honode]
  exact (h.sound.mirror other id).symm

end Reachable

/-- The symbols of a library of the image, told by the libraries alone. -/
theorem Fresh.bound_holding {start : Linker} (h : Fresh start) {libs : List Library}
    (hlibs : (libs.map (·.path)).Nodup) {id : LibId} {node : Node}
    (hnode : (start.holding libs).image.node? id = some node) :
    libs[id]? = some node.toLibrary ∧ (∀ dep ∈ node.links.deps, dep ∈ foundBy libs id) ∧
      node.links.Bound libs start.config.symbolFallback id node.toLibrary := by
  obtain ⟨img, himg, rfl, hlink⟩ := h.image_holding hlibs
  rw [hlink] at hnode
  exact Image.node?_link himg _ hnode

/-- The report on the image of a manifest is a picture of the manifest. -/
theorem Fresh.pictures {start : Linker} (h : Fresh start) {libs : List Library}
    (hlibs : (libs.map (·.path)).Nodup) :
    Pictures libs (Report.portraits (start.holding libs).image) := by
  have hreachable := h.reachable_holding libs
  have hlibraries := h.libraries_holding hlibs
  have hnode : ∀ p ∈ Report.portraits (start.holding libs).image, ∃ id node,
      (start.holding libs).image.node? id = some node ∧
        Report.portrait (start.holding libs).image node = p :=
    fun p => (Report.mem_portraits _ p).mp
  refine ⟨?_, Report.ordered_portraits hreachable.indexed, ?_, ?_, ?_, ?_, ?_, ?_, ?_⟩
  · have hlisted := Report.listed_portraits (start.holding libs).image
    rwa [hlibraries] at hlisted
  · intro p hp
    obtain ⟨id, node, hid, rfl⟩ := hnode p hp
    exact hreachable.pairwise_paths_deps hid
  · intro p hp
    obtain ⟨id, node, hid, rfl⟩ := hnode p hp
    exact hreachable.pairwise_paths_users hid
  · intro p hp path hpath
    obtain ⟨id, node, hid, rfl⟩ := hnode p hp
    rcases hpath with hpath | hpath
    · exact Report.exists_portrait_of_mem_paths (hreachable.lt_size_of_deps hid) hpath
    · exact Report.exists_portrait_of_mem_paths (hreachable.lt_size_of_users hid) hpath
  · intro p hp q hq
    obtain ⟨a, x, ha, rfl⟩ := hnode p hp
    obtain ⟨b, y, hb, rfl⟩ := hnode q hq
    exact hreachable.path_mem_paths_users ha hb
  · intro p hp lib hlib hpath s
    obtain ⟨id, node, hid, rfl⟩ := hnode p hp
    obtain ⟨hget, _, hbound⟩ := h.bound_holding hlibs hid
    have hsame : lib = node.toLibrary :=
      List.inj_on_of_nodup_map hlibs hlib (List.mem_of_getElem? hget) hpath
    rw [Report.keys_portrait, Std.ExtTreeMap.mem_keys, hsame]
    simpa only [Report.portrait, Links.unresolved, Std.ExtTreeSet.mem_toList] using hbound.sides s
  · intro p hp
    obtain ⟨id, node, hid, rfl⟩ := hnode p hp
    exact ⟨Report.pairwise_keys_portrait _ node, pairwise_utf8Bytes_toList _⟩
  · intro p hp s path hs
    obtain ⟨id, node, hid, rfl⟩ := hnode p hp
    obtain ⟨hget, hdeps, hbound⟩ := h.bound_holding hlibs hid
    obtain ⟨provider, hprovider, rfl⟩ := Report.mem_linked_portrait hs
    obtain ⟨_, other, hother, hexports, hclass⟩ := hbound.provider_cases hget hdeps hprovider
    have hplace := hother
    rw [← hlibraries] at hplace
    obtain ⟨onode, honode, rfl⟩ := Image.node?_of_libraries hplace
    rw [Image.path_of_node? honode]
    refine ⟨⟨_, (Report.mem_portraits _ _).mpr ⟨provider, onode, honode, rfl⟩, rfl, hclass⟩, ?_⟩
    exact ⟨_, List.mem_of_getElem? hother, rfl, hexports⟩

/-! ## The law -/

/-- Where nothing stands in the way of the linking, a manifest comes to a linked image. -/
theorem ofManifest_of_resolve {c : Config} {libs : List Library} {start : Linker}
    {stats : LinkStats} (hstart : ofConfig c = .ok start) (hpaths : (libs.map (·.path)).Nodup)
    (hresolve : (start.load libs).linker.resolve.outcome = .ok stats) :
    ofManifest c libs = .ok (start.holding libs) := by
  have hfresh : Fresh start := .ofConfig hstart
  rcases (Reachable.fresh hfresh).load_cases libs with
    ⟨path, hpath, _⟩ | ⟨_, houtcome, hlinker, _⟩
  · rw [hfresh.image_eq, Image.libraries_empty, List.map_nil,
      (repeated?_eq_none_iff List.nodup_nil _).mpr hpaths] at hpath
    cases hpath
  · rw [hlinker] at hresolve
    simp only [ofManifest, hstart, bind, Except.bind, houtcome, hlinker, hresolve]
    rfl

/-- The JSON report is a picture of the manifest. For every manifest whose paths are all
different, and under all settings under which its linking succeeds: the report can be read
back, and it tells each library of the manifest once, in the order of the bytes of their
paths, with its partition and its word size. What a library needs and what needs it stand
in this order, too, and both ends of an edge tell of it. Each imported symbol, and no other,
is linked or missing, and a linked one has the path of a library in the report, of the same
word size, that exports it. -/
theorem the_json_report_is_a_picture_of_the_manifest {c : Config} {libs : List Library}
    {start : Linker} {stats : LinkStats} (hpaths : (libs.map (·.path)).Nodup)
    (hstart : ofConfig c = .ok start)
    (hresolve : (start.load libs).linker.resolve.outcome = .ok stats) :
    ∃ l ps, ofManifest c libs = .ok l ∧
      Json.decode (Json.decodeList Portrait.decoder) (Report.deps l.image .json) = .ok ps ∧
      ps = Report.portraits l.image ∧ Pictures libs ps :=
  ⟨start.holding libs, _, ofManifest_of_resolve hstart hpaths hresolve,
    Report.decode_portraits _, rfl, (Fresh.ofConfig hstart).pictures hpaths⟩

/-- A manifest out of order, with a quote in a path, a symbol that is found and one that is
not. -/
def shownLibs : List Library :=
  [⟨.vendor, "/vendor/lib/lib\"b.so", ⟨.elf32, .lsb, ["liba.so"], ∅, .ofList ["open", "read"]⟩⟩,
    ⟨.system, "/system/lib/liba.so", ⟨.elf32, .lsb, [], .ofList ["open"], ∅⟩⟩]

theorem the_report_puts_the_shown_libraries_in_order :
    (shownLibs.map (·.path)).Nodup ∧ ofConfig .default = .ok .default ∧
      ∃ l ps, ofManifest .default shownLibs = .ok l ∧
        Json.decode (Json.decodeList Portrait.decoder) (Report.deps l.image .json) = .ok ps ∧
        ps.map (fun p => (p.path, p.partition, p.elfClass)) =
          [("/system/lib/liba.so", .system, .elf32),
            ("/vendor/lib/lib\"b.so", .vendor, .elf32)] := by
  have hpaths : (shownLibs.map (·.path)).Nodup := by decide
  have hstart : ofConfig .default = .ok .default := by
    simp [ofConfig, SpHalRules.withExtra, SpHalRules.extraRules, Except.map,
      Config.default, Linker.default, NdkLists.withExtra, NdkLists.builtIn]
  have hresolve : ((default.load shownLibs).linker.resolve).outcome =
      .ok (default.load shownLibs).linker.linked.stats := by
    rw [outcome_resolve, if_pos]
    exact .inl rfl
  obtain ⟨l, ps, hl, hdecode, _, hpictures⟩ :=
    the_json_report_is_a_picture_of_the_manifest hpaths hstart hresolve
  refine ⟨hpaths, hstart, l, ps, hl, hdecode, ?_⟩
  have hordered : (ps.map fun p => (p.path, p.partition, p.elfClass)).Pairwise
      fun a b => utf8Bytes a.1 < utf8Bytes b.1 := by
    simpa only [List.pairwise_map] using hpictures.ordered
  -- The order of the paths leaves one list of these two libraries.
  refine List.Perm.eq_of_pairwise ?_ hordered ?_ (hpictures.listed.trans (.swap _ _ _))
  · intro a b _ _ hab hba
    exact absurd hba (List.lt_asymm hab)
  · decide +kernel

end Linker

end ImageTiers
