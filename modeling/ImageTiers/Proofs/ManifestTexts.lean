-- Texts of manifests. An object tells a library by its members: in any order, with the symbols
-- listed in any way, without the fields that have their defaults, and with any other members
-- between them. The law: a list of such objects is read back as the libraries that they tell.
import Mathlib.Data.List.Forall2
import Mathlib.Data.List.Nodup
import ImageTiers.Proofs.Slots

namespace ImageTiers

open Json (Draft Member Stage)

/-! ## Members that tell an ELF view -/

namespace Elf

/-- The names of the fields, in the order they are written. -/
def fieldNames : List String :=
  ["class", "data", "dt_needed", "exported_symbols", "imported_symbols"]

/-- The value tells the field with the given name. The symbols of a set may be listed in any
order, and more than once. -/
inductive Tells (elf : Elf) : String → Draft → Prop
  | elfClass : elf.Tells "class" (Json.string elf.elfClass.name).draft
  | byteOrder : elf.Tells "data" (Json.string elf.byteOrder.name).draft
  | needed : elf.Tells "dt_needed" (Json.strings elf.needed).draft
  | exported {ss : List String} : (∀ s, s ∈ ss ↔ s ∈ elf.exported) →
      elf.Tells "exported_symbols" (Json.strings ss).draft
  | imported {ss : List String} : (∀ s, s ∈ ss ↔ s ∈ elf.imported) →
      elf.Tells "imported_symbols" (Json.strings ss).draft

/-- The fields that are not among the given names have their defaults. The word size has none. -/
structure DefaultBut (elf : Elf) (names : List String) : Prop where
  elfClass : "class" ∈ names
  byteOrder : "data" ∉ names → elf.byteOrder = .lsb
  needed : "dt_needed" ∉ names → elf.needed = []
  exported : "exported_symbols" ∉ names → elf.exported = ∅
  imported : "imported_symbols" ∉ names → elf.imported = ∅

/-- The fields of `elf` with the given names, and no others. -/
def Slots.of (elf : Elf) (names : List String) : Slots where
  elfClass := if "class" ∈ names then some elf.elfClass else none
  byteOrder := if "data" ∈ names then some elf.byteOrder else none
  needed := if "dt_needed" ∈ names then some elf.needed else none
  exported := if "exported_symbols" ∈ names then some elf.exported else none
  imported := if "imported_symbols" ∈ names then some elf.imported else none

theorem Tells.mem_fieldNames {elf : Elf} {name : String} {d : Draft} (h : elf.Tells name d) :
    name ∈ fieldNames := by
  cases h <;> decide

theorem Tells.isKeepable {elf : Elf} {name : String} {d : Draft} (h : elf.Tells name d)
    {room : Nat} (hroom : 0 < room) : d.isKeepable room = true := by
  cases h with
  | elfClass | byteOrder => rfl
  | needed | exported | imported => exact Draft.isKeepable_strings _ hroom

theorem decodeClass_draft (stage : Stage) (c : ElfClass) :
    decodeClass stage (Json.string c.name).draft = .ok c := by
  cases c <;> rfl

theorem decodeByteOrder_draft (stage : Stage) (b : ByteOrder) :
    decodeByteOrder stage (Json.string b.name).draft = .ok b := by
  cases b <;> rfl

theorem decodeSymbols_draft {symbols : SymbolSet} {ss : List String}
    (h : ∀ s, s ∈ ss ↔ s ∈ symbols) : decodeSymbols (Json.strings ss).draft = .ok symbols := by
  have hset : Std.ExtTreeSet.ofList ss = symbols := by
    ext s
    simp [Std.ExtTreeSet.mem_ofList, h]
  have hnames : decodeNames (Json.strings ss).draft = .ok ss := Json.decodeList_strings ss
  simp only [decodeSymbols, hnames, bind, Except.bind, hset]
  rfl

/-- The value of a field is decoded to it. -/
structure DecodedTo (stage : Stage) (elf : Elf) (name : String) (d : Draft) : Prop where
  elfClass : name = "class" → decodeClass stage d = .ok elf.elfClass
  byteOrder : name = "data" → decodeByteOrder stage d = .ok elf.byteOrder
  needed : name = "dt_needed" → decodeNames d = .ok elf.needed
  exported : name = "exported_symbols" → decodeSymbols d = .ok elf.exported
  imported : name = "imported_symbols" → decodeSymbols d = .ok elf.imported

theorem Tells.decodedTo {elf : Elf} {name : String} {d : Draft} (h : elf.Tells name d)
    (stage : Stage) : DecodedTo stage elf name d := by
  cases h with
  | elfClass => constructor <;> simp [decodeClass_draft]
  | byteOrder => constructor <;> simp [decodeByteOrder_draft]
  | needed =>
    have hnames : decodeNames (Json.strings elf.needed).draft = .ok elf.needed :=
      Json.decodeList_strings elf.needed
    constructor <;> simp [hnames]
  | exported hss => constructor <;> simp [decodeSymbols_draft hss]
  | imported hss => constructor <;> simp [decodeSymbols_draft hss]

theorem DefaultBut.elf_of {elf : Elf} {names : List String} (h : elf.DefaultBut names) :
    (Slots.of elf names).elf = .ok elf := by
  have hbyteOrder := Json.getD_seen h.byteOrder
  have hneeded := Json.getD_seen h.needed
  have hexported := Json.getD_seen h.exported
  have himported := Json.getD_seen h.imported
  simp [Slots.elf, Slots.of, Json.required, h.elfClass, hbyteOrder, hneeded, hexported, himported]

end Elf

/-! ## Members that tell a library -/

/-- An object with the given members, read to its end. -/
def Json.Draft.ofMembers (ms : List (String × Draft)) : Draft :=
  .object (ms.map fun m => (some m.1, m.2)) .closed

namespace Library

/-- The names of the fields, in the order they are written. -/
def fieldNames : List String := ["partition", "path"] ++ Elf.fieldNames

inductive Tells (lib : Library) : String → Draft → Prop
  | partition : lib.Tells "partition" (Json.string lib.partition.root).draft
  | path : lib.Tells "path" (Json.string lib.path).draft
  | elf {name : String} {d : Draft} : lib.elf.Tells name d → lib.Tells name d

/-- The members of an object tell the library: each field at most once, and a field that is left
out has its default. A member that is no field has any value that can be kept. -/
structure ToldBy (lib : Library) (ms : List (String × Draft)) : Prop where
  each : ∀ m ∈ ms, m.1 ∈ fieldNames → lib.Tells m.1 m.2
  once : ((ms.map (·.1)).filter (· ∈ fieldNames)).Nodup
  partition : "partition" ∈ ms.map (·.1)
  path : "path" ∈ ms.map (·.1)
  rest : lib.elf.DefaultBut (ms.map (·.1))
  others : ∀ m ∈ ms, m.1 ∉ fieldNames → m.2.Readable entryRoom

theorem decodePartition_draft (p : Partition) :
    decodePartition (Json.string p.root).draft = .ok p := by
  cases p <;> rfl

theorem Tells.decodePartition {lib : Library} {d : Draft} (h : lib.Tells "partition" d) :
    decodePartition d = .ok lib.partition := by
  generalize hname : "partition" = name at h
  cases h with
  | partition => exact decodePartition_draft lib.partition
  | path => simp at hname
  | elf htells => exact absurd htells.mem_fieldNames (by rw [← hname]; decide)

theorem Tells.decodeString {lib : Library} {d : Draft} (h : lib.Tells "path" d) :
    Json.decodeString d = .ok lib.path := by
  generalize hname : "path" = name at h
  cases h with
  | partition => simp at hname
  | path => rfl
  | elf htells => exact absurd htells.mem_fieldNames (by rw [← hname]; decide)

theorem Tells.elfTells {lib : Library} {name : String} {d : Draft} (h : lib.Tells name d)
    (hname : name ∈ Elf.fieldNames) : lib.elf.Tells name d := by
  cases h with
  | partition | path => exact absurd hname (by decide)
  | elf htells => exact htells

theorem Tells.isKeepable {lib : Library} {name : String} {d : Draft} (h : lib.Tells name d) :
    d.isKeepable entryRoom = true := by
  cases h with
  | partition | path => rfl
  | elf htells => exact htells.isKeepable (by decide)

section Told

variable {lib : Library} {ms : List (String × Draft)}

theorem ToldBy.isKeepable (h : lib.ToldBy ms) {m : String × Draft} (hm : m ∈ ms) :
    m.2.isKeepable entryRoom = true := by
  by_cases hknown : m.1 ∈ fieldNames
  · exact (h.each m hm hknown).isKeepable
  · exact (Draft.isKeepable_iff _ _).mpr (h.others m hm hknown)

/-- The slot of a field is filled if a member has its name. -/
theorem ToldBy.fills (h : lib.ToldBy ms) {α : Type} {decoder : Json.Decoder α} {key : String}
    {a : α} (hkey : key ∈ fieldNames) (hdecode : ∀ d, lib.Tells key d → decoder d = .ok a) :
    Json.Fills decoder (Json.valuesOf key (ms.map fun m => (some m.1, m.2)))
      (if key ∈ ms.map (·.1) then some a else none) := by
  split
  · rename_i hmem
    obtain ⟨m, hm, rfl⟩ := List.mem_map.mp hmem
    obtain ⟨before, after, rfl⟩ := List.append_of_mem hm
    have honce := h.once
    rw [List.map_append, List.map_cons, List.filter_append,
      List.filter_cons_of_pos (by simpa using hkey), List.nodup_middle, List.nodup_cons] at honce
    have hnew : ∀ other ∈ before ++ after, other.1 ≠ m.1 := by
      intro other hother hname
      refine honce.1 ?_
      rw [← List.filter_append, ← List.map_append, ← hname]
      exact List.mem_filter.mpr ⟨List.mem_map_of_mem hother, by simpa [hname] using hkey⟩
    rw [List.map_append, List.map_cons, Json.valuesOf_middle]
    · exact .only (hdecode _ (h.each m hm hkey))
    · refine List.forall_mem_map.mpr fun other hother hsome => ?_
      exact hnew other (List.mem_append_left _ hother) (Option.some.inj hsome)
    · refine List.forall_mem_map.mpr fun other hother hsome => ?_
      exact hnew other (List.mem_append_right _ hother) (Option.some.inj hsome)
  · rename_i hnot
    rw [Json.valuesOf_eq_nil]
    · exact .nothing
    · refine List.forall_mem_map.mpr fun m hm hsome => hnot ?_
      exact List.mem_map.mpr ⟨m, hm, Option.some.inj hsome⟩

theorem ToldBy.namedBy (h : lib.ToldBy ms) :
    lib.NamedBy (ms.map fun m => (some m.1, m.2)) := by
  have hpartition : Json.Fills decodePartition
      (Json.valuesOf "partition" (ms.map fun m => (some m.1, m.2))) (some lib.partition) := by
    have hfills := h.fills (by decide) fun _ hd => hd.decodePartition
    rwa [if_pos h.partition] at hfills
  have hpath : Json.Fills Json.decodeString
      (Json.valuesOf "path" (ms.map fun m => (some m.1, m.2))) (some lib.path) := by
    have hfills := h.fills (by decide) fun _ hd => hd.decodeString
    rwa [if_pos h.path] at hfills
  obtain ⟨d, hvalues, hd⟩ := Json.fills_some_iff.mp hpath
  obtain rfl := Json.decodeString_eq_ok_iff.mp hd
  exact ⟨Json.fills_some_iff.mp hpartition, hvalues⟩

theorem ToldBy.filledBy (h : lib.ToldBy ms) (stage : Stage) :
    Elf.FilledBy stage (ms.map fun m => (some m.1, m.2)) (.of lib.elf (ms.map (·.1))) where
  elfClass := h.fills (by decide) fun _ hd => ((hd.elfTells (by decide)).decodedTo _).elfClass rfl
  byteOrder := h.fills (by decide) fun _ hd => ((hd.elfTells (by decide)).decodedTo _).byteOrder rfl
  needed := h.fills (by decide) fun _ hd => ((hd.elfTells (by decide)).decodedTo stage).needed rfl
  exported :=
    h.fills (by decide) fun _ hd => ((hd.elfTells (by decide)).decodedTo stage).exported rfl
  imported :=
    h.fills (by decide) fun _ hd => ((hd.elfTells (by decide)).decodedTo stage).imported rfl

theorem ToldBy.decoder (h : lib.ToldBy ms) : decoder (Draft.ofMembers ms) = .ok lib := by
  refine (decoder_eq_ok_iff ?_).mpr ⟨h.namedBy, _, h.filledBy .kept, h.rest.elf_of⟩
  exact List.forall_mem_map.mpr fun m hm => ⟨rfl, h.isKeepable hm⟩

end Told

/-! ## Members as they are written -/

def members (lib : Library) : List (String × Draft) :=
  [("partition", (Json.string lib.partition.root).draft), ("path", (Json.string lib.path).draft)] ++
    lib.elf.jsonMembers.map fun m => (m.1, m.2.draft)

theorem draft_toJson (lib : Library) : lib.toJson.draft = .ofMembers lib.members := by
  rw [toJson, Json.draft, Json.memberDrafts_eq]
  rfl

theorem names_members (lib : Library) : lib.members.map (·.1) = fieldNames := rfl

theorem toldBy_members (lib : Library) : lib.ToldBy lib.members := by
  have hexported : ∀ s, s ∈ lib.elf.exported.toList ↔ s ∈ lib.elf.exported := fun s => by simp
  have himported : ∀ s, s ∈ lib.elf.imported.toList ↔ s ∈ lib.elf.imported := fun s => by simp
  constructor
  case each =>
    intro m hm _
    simp only [members, Elf.jsonMembers, List.cons_append, List.nil_append, List.map_cons,
      List.map_nil, List.mem_cons, List.not_mem_nil, or_false] at hm
    rcases hm with rfl | rfl | rfl | rfl | rfl | rfl | rfl
    · exact .partition
    · exact .path
    · exact .elf .elfClass
    · exact .elf .byteOrder
    · exact .elf .needed
    · exact .elf (.exported hexported)
    · exact .elf (.imported himported)
  case others =>
    intro m hm hother
    rw [← names_members lib] at hother
    exact absurd (List.mem_map_of_mem hm) hother
  case rest =>
    rw [names_members]
    constructor <;> simp [fieldNames, Elf.fieldNames]
  all_goals
    rw [names_members]
    decide

end Library

/-! ## Manifests and their texts -/

namespace Manifest

theorem decodeList_ofMembers {libs : List Library} {entries : List (List (String × Draft))}
    (h : List.Forall₂ Library.ToldBy libs entries) :
    Json.decodeList Library.decoder (.array (entries.map Draft.ofMembers) .closed) = .ok libs := by
  have hitems : (entries.map Draft.ofMembers).mapM Library.decoder = .ok libs := by
    induction h with
    | nil => rfl
    | cons htold _ ih =>
      rw [List.map_cons, List.mapM_cons, htold.decoder, ih]
      rfl
  rw [Json.decodeList, hitems]
  rfl

/-- A manifest is read back as the libraries that it was written from, and so is every text of
objects that tell these libraries, one after the other. -/
theorem a_manifest_is_read_from_entries_that_tell_its_libraries (libs : List Library) :
    ofText (toJson libs).compact = .ok libs ∧ ofText (toJson libs).pretty = .ok libs ∧
    ∀ entries text, List.Forall₂ Library.ToldBy libs entries →
      Json.Says text (.array (entries.map Draft.ofMembers) .closed) → ofText text = .ok libs := by
  have hentries : ∀ entries text, List.Forall₂ Library.ToldBy libs entries →
      Json.Says text (.array (entries.map Draft.ofMembers) .closed) → ofText text = .ok libs := by
    intro entries text h hsays
    rw [ofText, hsays.decode, decodeList_ofMembers h]
  have htold : List.Forall₂ Library.ToldBy libs (libs.map (·.members)) := by
    rw [List.forall₂_map_right_iff, List.forall₂_same]
    exact fun lib _ => lib.toldBy_members
  have hdraft : (toJson libs).draft =
      .array ((libs.map (·.members)).map Draft.ofMembers) .closed := by
    simp [toJson, Json.draft, Json.itemDrafts_eq, Library.draft_toJson]
  refine ⟨hentries _ _ htold ?_, hentries _ _ htold ?_, hentries⟩
  · rw [← hdraft]
    exact Json.says_compact _
  · rw [← hdraft]
    exact Json.says_pretty _

/-- A library that needs one name twice. -/
def queueLibrary : Library :=
  ⟨.vendor, "/vendor/lib64/libq.so",
    ⟨.elf64, .lsb, ["liba.so", "liba.so"], .ofList ["open", "read"], ∅⟩⟩

/-- An entry for it, with a note in front. A symbol is listed twice, and the byte order and the
imported symbols are left out. -/
def queueEntry : List (String × Json) :=
  [("note", .array [.object [("path", .bool true)]]),
    ("exported_symbols", .strings ["read", "open", "read"]), ("class", .string "64"),
    ("path", .string "/vendor/lib64/libq.so"), ("dt_needed", .strings ["liba.so", "liba.so"]),
    ("partition", .string "vendor")]

def queueMembers : List (String × Draft) := queueEntry.map fun m => (m.1, m.2.draft)

theorem toldBy_queueMembers : queueLibrary.ToldBy queueMembers := by
  have hsymbols : ∀ s, s ∈ ["read", "open", "read"] ↔ s ∈ queueLibrary.elf.exported := by
    intro s
    simp [queueLibrary, Std.ExtTreeSet.mem_ofList]
    tauto
  constructor
  case each =>
    intro m hm hknown
    simp only [queueMembers, queueEntry, List.map_cons, List.map_nil, List.mem_cons,
      List.not_mem_nil, or_false] at hm
    rcases hm with rfl | rfl | rfl | rfl | rfl | rfl
    · exact absurd hknown (by decide)
    · exact .elf (.exported hsymbols)
    · exact .elf .elfClass
    · exact .path
    · exact .elf .needed
    · exact .partition
  case others =>
    intro m hm hother
    simp only [queueMembers, queueEntry, List.map_cons, List.map_nil, List.mem_cons,
      List.not_mem_nil, or_false] at hm
    rcases hm with rfl | rfl | rfl | rfl | rfl | rfl
    · exact (Draft.isKeepable_iff _ _).mp (by decide)
    all_goals exact absurd (by decide) hother
  case rest =>
    constructor <;> simp [queueMembers, queueEntry, queueLibrary]
  all_goals decide

theorem the_queue_library_is_read_from_an_entry_in_another_order :
    queueLibrary.ToldBy queueMembers ∧
    ofText ("[\x7b\"note\":[\x7b\"path\":true\x7d]," ++
      "\"exported_symbols\":[\"read\",\"open\",\"read\"],\"class\":\"64\"," ++
      "\"path\":\"/vendor/lib64/libq.so\"," ++
      "\"dt_needed\":[\"liba.so\",\"liba.so\"],\"partition\":\"vendor\"\x7d]") =
      .ok [queueLibrary] := by
  obtain ⟨_, _, hread⟩ := a_manifest_is_read_from_entries_that_tell_its_libraries [queueLibrary]
  refine ⟨toldBy_queueMembers, hread [queueMembers] _ (.cons toldBy_queueMembers .nil) ?_⟩
  have htext : (Json.array [.object queueEntry]).compact =
    "[\x7b\"note\":[\x7b\"path\":true\x7d]," ++
      "\"exported_symbols\":[\"read\",\"open\",\"read\"],\"class\":\"64\"," ++
      "\"path\":\"/vendor/lib64/libq.so\"," ++
      "\"dt_needed\":[\"liba.so\",\"liba.so\"],\"partition\":\"vendor\"\x7d]" := by
    decide +kernel
  rw [← htext]
  exact Json.says_compact (.array [.object queueEntry])

end Manifest

end ImageTiers
