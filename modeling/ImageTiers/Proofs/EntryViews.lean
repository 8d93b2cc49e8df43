-- The ELF view inside an entry. An entry keeps the members that are not its own until it ends, and
-- a kept choice may be wrapped: it may stand beside an empty object. The law: an entry is read if
-- it names its partition and its path, each once, and its record is read alone without wrappings.
import ImageTiers.Proofs.Slots

namespace ImageTiers

open Json (Draft Member Stage)

/-! ## Choices that were kept -/

namespace Json

/-- A choice that was written as its name beside an empty object, written as its name alone. -/
def unwrapped : Draft → Draft
  | .object [(some name, .object [] .closed)] .closed => .string (some name)
  | d => d

theorem unwrapped_of_ne {d : Draft}
    (h : ∀ name, d ≠ .object [(some name, .object [] .closed)] .closed) : unwrapped d = d := by
  unfold unwrapped
  split
  · exact absurd rfl (h _)
  · rfl

theorem isBare_iff {stage : Stage} {d : Draft} :
    isBare stage d = true ↔ d = .null ∨ stage = .kept ∧ d = .object [] .closed := by
  unfold isBare
  split <;> simp_all

variable {α : Type} {options : List (String × α)} {a : α}

theorem decodeChoice_object_eq_ok_iff {stage : Stage} {name : String} {value : Draft}
    {rest : List Member} {ending : Ending} :
    decodeChoice stage options (.object ((some name, value) :: rest) ending) = .ok a ↔
      pick options name = .ok a ∧ isBare stage value = true ∧ rest = [] ∧ ending = .closed := by
  simp only [decodeChoice, bind_eq_ok, ensure_eq_ok_iff, Bool.and_eq_true, List.isEmpty_iff,
    decide_eq_true_eq]
  constructor
  · rintro ⟨_, _, _, hpick, _, ⟨⟨hbare, hrest⟩, hending⟩, ⟨⟩⟩
    exact ⟨hpick, hbare, hrest, hending⟩
  · rintro ⟨hpick, hbare, rfl, rfl⟩
    exact ⟨(), by simp, a, hpick, (), ⟨⟨hbare, rfl⟩, rfl⟩, rfl⟩

/-- A choice that was kept is read as one that is read at once, without the empty object. -/
theorem decodeChoice_unwrapped (d : Draft) : decodeChoice .direct options (unwrapped d) = .ok a ↔
    decodeChoice .kept options d = .ok a := by
  unfold unwrapped
  split
  · rw [decodeChoice_object_eq_ok_iff, decodeChoice]
    simp [isBare]
  · rename_i hnot
    cases d with
    | object members ending =>
      rcases members with _ | ⟨⟨_ | name, value⟩, rest⟩
      · rfl
      · rfl
      · rw [decodeChoice_object_eq_ok_iff, decodeChoice_object_eq_ok_iff]
        -- An empty object is the only value for which it matters when the choice is read.
        refine and_congr_right fun _ => and_congr_left fun ⟨hrest, hending⟩ => ?_
        subst hrest hending
        have hvalue : value ≠ .object [] .closed := fun h => hnot name (by rw [h])
        simp [isBare_iff, hvalue]
    | string s => cases s <;> rfl
    | _ => rfl

/-- A choice that is read at once does not stand beside an empty object. -/
theorem ne_of_decodeChoice_direct {d : Draft} (h : decodeChoice .direct options d = .ok a)
    (name : String) : d ≠ .object [(some name, .object [] .closed)] .closed := by
  rintro rfl
  rw [decodeChoice_object_eq_ok_iff] at h
  simp [isBare] at h

end Json

namespace Elf

/-- The keys of the fields that are choices. -/
def choiceKeys : List String := ["class", "data"]

/-- The value of a record's key, unwrapped if it is a choice. -/
def unwrapChoice (key : Json.Text) (d : Draft) : Draft :=
  if key ∈ choiceKeys.map some then Json.unwrapped d else d

theorem isComplete_unwrapChoice (key : Json.Text) {d : Draft} (hd : d.isComplete = true) :
    (unwrapChoice key d).isComplete = true := by
  unfold unwrapChoice Json.unwrapped
  split
  · split
    · rfl
    · exact hd
  · exact hd

/-- The members of a record with each choice unwrapped. -/
def unwrapChoices (ms : List Member) : List Member := ms.map fun m => (m.1, unwrapChoice m.1 m.2)

/-- No choice of the record is written as its name beside an empty object. -/
def NoneWrapped (ms : List Member) : Prop :=
  ∀ key ∈ choiceKeys, ∀ d ∈ Json.valuesOf key ms, ∀ name,
    d ≠ .object [(some name, .object [] .closed)] .closed

theorem valuesOf_unwrapChoices (key : String) (ms : List Member) :
    Json.valuesOf key (unwrapChoices ms) =
      (Json.valuesOf key ms).map (unwrapChoice (some key)) := by
  induction ms with
  | nil => rfl
  | cons m ms ih =>
    by_cases hkey : m.1 = some key
    · simp_all [Json.valuesOf, unwrapChoices]
    · simp_all [Json.valuesOf, unwrapChoices]

theorem NoneWrapped.unwrapChoices_eq {ms : List Member} (h : NoneWrapped ms) :
    unwrapChoices ms = ms := by
  refine (List.map_congr_left fun m hm => ?_).trans ms.map_id
  obtain ⟨key, d⟩ := m
  by_cases hkey : key ∈ choiceKeys.map some
  · obtain ⟨name, hname, rfl⟩ := List.mem_map.mp hkey
    have hd : d ∈ Json.valuesOf name ms := by
      simpa [Json.valuesOf] using hm
    simp [unwrapChoice, Json.unwrapped_of_ne (h name hname d hd)]
  · simp [unwrapChoice, hkey]

theorem filledBy_unwrapChoices {ms : List Member} {s : Slots} :
    FilledBy .direct (unwrapChoices ms) s ↔ FilledBy .kept ms s := by
  have hother : ∀ key, key ∉ choiceKeys →
      Json.valuesOf key (unwrapChoices ms) = Json.valuesOf key ms := by
    intro key hkey
    have hid : unwrapChoice (some key) = id := funext fun d => by simp [unwrapChoice, hkey]
    rw [valuesOf_unwrapChoices, hid, List.map_id]
  have hclass : Json.Fills (decodeClass .direct) (Json.valuesOf "class" (unwrapChoices ms))
      s.elfClass ↔ Json.Fills (decodeClass .kept) (Json.valuesOf "class" ms) s.elfClass := by
    rw [valuesOf_unwrapChoices]
    exact Json.fills_map_iff fun d _ _ => Json.decodeChoice_unwrapped d
  have hdata : Json.Fills (decodeByteOrder .direct) (Json.valuesOf "data" (unwrapChoices ms))
      s.byteOrder ↔ Json.Fills (decodeByteOrder .kept) (Json.valuesOf "data" ms) s.byteOrder := by
    rw [valuesOf_unwrapChoices]
    exact Json.fills_map_iff fun d _ _ => Json.decodeChoice_unwrapped d
  rw [filledBy_iff, filledBy_iff, hclass, hdata, hother _ (by decide), hother _ (by decide),
    hother _ (by decide)]

/-- A record that is read alone has no wrapped choice. -/
theorem FilledBy.noneWrapped {ms : List Member} {s : Slots} (h : FilledBy .direct ms s) :
    NoneWrapped ms := by
  intro key hkey d hd
  simp only [choiceKeys, List.mem_cons, List.not_mem_nil, or_false] at hkey
  rcases hkey with rfl | rfl
  · obtain ⟨c, hc⟩ := h.elfClass.exists_ok hd
    exact Json.ne_of_decodeChoice_direct hc
  · obtain ⟨b, hb⟩ := h.byteOrder.exists_ok hd
    exact Json.ne_of_decodeChoice_direct hb

end Elf

/-! ## Records in entries and alone -/

namespace Library

theorem keepable_of_readable {ms : List Member}
    (h : (Draft.object ms .closed).Readable (entryRoom + 1)) :
    ∀ m ∈ ms, m.1.isSome = true ∧ m.2.isKeepable entryRoom = true := by
  have hall : ∀ ms : List Member, Draft.membersKeepable entryRoom ms = true →
      ∀ m ∈ ms, m.1.isSome = true ∧ m.2.isKeepable entryRoom = true := by
    intro ms
    induction ms with
    | nil => nofun
    | cons m ms ih =>
      intro hms
      simp only [Draft.membersKeepable, Bool.and_eq_true] at hms
      exact List.forall_mem_cons.mpr ⟨hms.1, ih hms.2⟩
  have hkeepable := (Draft.isKeepable_iff _ _).mpr h
  rw [Draft.isKeepable, Bool.and_eq_true] at hkeepable
  exact hall ms hkeepable.2

theorem complete_of_readable {ms : List Member}
    (h : (Draft.object ms .closed).Readable (entryRoom + 1)) :
    ∀ m ∈ ms, m.1.isSome = true ∧ m.2.isComplete = true := by
  intro m hm
  obtain ⟨hkey, hvalue⟩ := keepable_of_readable h m hm
  exact ⟨hkey, ((Draft.isKeepable_iff _ _).mp hvalue).complete⟩

/-- An entry is read as the record that it holds, with its choices unwrapped. -/
theorem decoder_eq_ok_iff_unwrapped {ms : List Member}
    (h : (Draft.object ms .closed).Readable (entryRoom + 1)) {lib : Library} :
    decoder (.object ms .closed) = .ok lib ↔ lib.NamedBy ms ∧
      Elf.decoder (.object (Elf.unwrapChoices ms) .closed) = .ok lib.elf := by
  have hcomplete : ∀ m ∈ Elf.unwrapChoices ms, m.1.isSome = true ∧ m.2.isComplete = true := by
    intro m hm
    obtain ⟨m, hmem, rfl⟩ := List.mem_map.mp hm
    obtain ⟨hkey, hvalue⟩ := complete_of_readable h m hmem
    exact ⟨hkey, Elf.isComplete_unwrapChoice m.1 hvalue⟩
  rw [decoder_eq_ok_iff (keepable_of_readable h), Elf.decoder_eq_ok_iff hcomplete]
  simp only [Elf.filledBy_unwrapChoices]

end Library

namespace Manifest

open Library (entryRoom)

theorem ofText_singleton_eq_ok_iff {text : String} {d : Draft}
    (h : Json.Says text (.array [d] .closed)) {lib : Library} :
    ofText text = .ok [lib] ↔ Library.decoder d = .ok lib := by
  rw [ofText, h.decode]
  cases hd : Library.decoder d <;>
    simp [Json.decodeList, Json.ensure, hd, bind, Except.bind, pure, Except.pure]

/-- An entry is read if it names its partition and its path, each once, and the record that it
holds is read alone, once its choices are unwrapped. So an entry that has no wrapped choice is
read as its record alone, and a record that is read alone is read in an entry as well. -/
theorem an_entry_is_read_as_its_record_alone {ms : List Member}
    (h : (Draft.object ms .closed).Readable (entryRoom + 1)) {entry : String}
    (hentry : Json.Says entry (.array [.object ms .closed] .closed)) (lib : Library) :
    (∀ record, Json.Says record (.object (Elf.unwrapChoices ms) .closed) →
      (ofText entry = .ok [lib] ↔ lib.NamedBy ms ∧ Elf.ofText record = .ok lib.elf)) ∧
    ∀ record, Json.Says record (.object ms .closed) →
      (Elf.NoneWrapped ms →
        (ofText entry = .ok [lib] ↔ lib.NamedBy ms ∧ Elf.ofText record = .ok lib.elf)) ∧
      (lib.NamedBy ms ∧ Elf.ofText record = .ok lib.elf → ofText entry = .ok [lib]) := by
  have hiff : ofText entry = .ok [lib] ↔ lib.NamedBy ms ∧
      Elf.decoder (.object (Elf.unwrapChoices ms) .closed) = .ok lib.elf :=
    (ofText_singleton_eq_ok_iff hentry).trans (Library.decoder_eq_ok_iff_unwrapped h)
  refine ⟨fun record hrecord => ?_, fun record hrecord => ⟨fun hnone => ?_, ?_⟩⟩
  · rw [hiff, Elf.ofText, hrecord.decode]
  · rw [hiff, hnone.unwrapChoices_eq, Elf.ofText, hrecord.decode]
  · rintro ⟨hnamed, helf⟩
    rw [Elf.ofText, hrecord.decode] at helf
    obtain ⟨s, hs, _⟩ := (Elf.decoder_eq_ok_iff (Library.complete_of_readable h)).mp helf
    rw [hiff, hs.noneWrapped.unwrapChoices_eq]
    exact ⟨hnamed, helf⟩

/-- A library of which nothing but the word size is told. -/
def sizedLibrary : Library := ⟨.vendor, "/vendor/lib64/libq.so", ⟨.elf64, .lsb, [], ∅, ∅⟩⟩

/-- An object for it, with the word size written in one way or another. -/
def sizedObject (size : Json) : List (String × Json) :=
  [("partition", .string "vendor"), ("class", size), ("path", .string "/vendor/lib64/libq.so")]

def sizedMembers (size : Json) : List Member := Json.memberDrafts (sizedObject size)

/-- The word size beside an empty object. -/
def wrappedSize : Json := .object [("64", .object [])]

def plainSize : Json := .string "64"

def wrappedText : String :=
  "\x7b\"partition\":\"vendor\",\"class\":\x7b\"64\":\x7b\x7d\x7d," ++
    "\"path\":\"/vendor/lib64/libq.so\"\x7d"

theorem says_wrappedText : Json.Says wrappedText (.object (sizedMembers wrappedSize) .closed) := by
  have htext : (Json.object (sizedObject wrappedSize)).compact = wrappedText := by
    decide +kernel
  rw [← htext]
  exact Json.says_compact _

theorem says_wrappedEntry : Json.Says ("[" ++ wrappedText ++ "]")
    (.array [.object (sizedMembers wrappedSize) .closed] .closed) := by
  have htext : (Json.array [.object (sizedObject wrappedSize)]).compact =
    "[" ++ wrappedText ++ "]" := by decide +kernel
  rw [← htext]
  exact Json.says_compact _

theorem readable_wrappedSize :
    (Draft.object (sizedMembers wrappedSize) .closed).Readable (entryRoom + 1) :=
  (Draft.isKeepable_iff _ _).mp (by decide)

/-- A record that is refused alone is read in an entry, where its word size was kept. -/
theorem a_wrapped_word_size_is_read_in_an_entry_only :
    (Draft.object (sizedMembers wrappedSize) .closed).Readable (entryRoom + 1) ∧
    Json.Says wrappedText (.object (sizedMembers wrappedSize) .closed) ∧
    Json.Says ("[" ++ wrappedText ++ "]")
      (.array [.object (sizedMembers wrappedSize) .closed] .closed) ∧
    ofText ("[" ++ wrappedText ++ "]") = .ok [sizedLibrary] ∧
    Elf.ofText wrappedText = .error .malformed := by
  refine ⟨readable_wrappedSize, says_wrappedText, says_wrappedEntry, ?_, ?_⟩
  · rw [ofText, says_wrappedEntry.decode]
    rfl
  · rw [Elf.ofText, says_wrappedText.decode]
    rfl

theorem namedBy_sizedMembers (size : Json) : sizedLibrary.NamedBy (sizedMembers size) := by
  refine ⟨⟨.string (some "vendor"), ?_, rfl⟩, ?_⟩
  · simp [sizedMembers, sizedObject, Json.memberDrafts, Json.valuesOf, Json.draft]
  · simp [sizedMembers, sizedObject, Json.memberDrafts, Json.valuesOf, Json.draft, sizedLibrary]

theorem noneWrapped_plainSize : Elf.NoneWrapped (sizedMembers plainSize) := by
  have hvalues : ∀ key ∈ Elf.choiceKeys, ∀ d ∈ Json.valuesOf key (sizedMembers plainSize),
      d = .string (some "64") := by
    simp [Elf.choiceKeys, plainSize, sizedMembers, sizedObject, Json.memberDrafts, Json.valuesOf,
      Json.draft]
  intro key hkey d hd name
  simp [hvalues key hkey d hd]

theorem the_word_size_is_read_in_an_entry_in_both_spellings :
    (Draft.object (sizedMembers wrappedSize) .closed).Readable (entryRoom + 1) ∧
    (Draft.object (sizedMembers plainSize) .closed).Readable (entryRoom + 1) ∧
    Elf.NoneWrapped (sizedMembers plainSize) ∧
    ofText ("[" ++ wrappedText ++ "]") = .ok [sizedLibrary] ∧
    ofText (Json.array [.object (sizedObject plainSize)]).compact = .ok [sizedLibrary] := by
  have hentry : Json.Says (Json.array [.object (sizedObject plainSize)]).compact
      (.array [.object (sizedMembers plainSize) .closed] .closed) := Json.says_compact _
  have hrecord : Json.Says (Json.object (sizedObject plainSize)).compact
      (.object (sizedMembers plainSize) .closed) := Json.says_compact _
  have helf : Elf.ofText (Json.object (sizedObject plainSize)).compact = .ok sizedLibrary.elf := by
    rw [Elf.ofText, hrecord.decode]
    rfl
  have hreadable : (Draft.object (sizedMembers plainSize) .closed).Readable (entryRoom + 1) :=
    (Draft.isKeepable_iff _ _).mp (by decide)
  obtain ⟨hunwrapped, _⟩ :=
    an_entry_is_read_as_its_record_alone readable_wrappedSize says_wrappedEntry sizedLibrary
  obtain ⟨_, halone⟩ := an_entry_is_read_as_its_record_alone hreadable hentry sizedLibrary
  refine ⟨readable_wrappedSize, hreadable, noneWrapped_plainSize, ?_, ?_⟩
  · exact (hunwrapped _ hrecord).mpr ⟨namedBy_sizedMembers _, helf⟩
  · exact ((halone _ hrecord).1 noneWrapped_plainSize).mpr ⟨namedBy_sizedMembers _, helf⟩

end Manifest

end ImageTiers
