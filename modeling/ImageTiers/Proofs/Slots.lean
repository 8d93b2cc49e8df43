-- Slots of a record. A decoder has a slot for each field and takes in the members of an object
-- one by one. The laws: in the end each slot holds what the values of its own key leave in it,
-- whatever stands between them, and so a record and an entry are read from these values.
import Mathlib.Data.List.Induction
import ImageTiers.Manifest
import ImageTiers.Proofs.JsonLimits

namespace ImageTiers

open Json (Draft Member Stage Decoder DecodeError)

/-! ## Slots and the values of their keys -/

namespace Json

theorem map_eq_ok {α β : Type} {x : Except DecodeError α} {f : α → β} {b : β} :
    f <$> x = .ok b ↔ ∃ a, x = .ok a ∧ f a = b := by
  cases x <;> simp [Functor.map, Except.map]

theorem required_eq_ok_iff {α : Type} {name : String} {slot : Option α} {a : α} :
    required name slot = .ok a ↔ slot = some a := by
  cases slot <;> simp [required]

theorem ensure_eq_ok_iff {b : Bool} {u : Unit} : ensure b = .ok u ↔ b = true := by
  cases b <;> simp [ensure]

theorem decodeString_eq_ok_iff {d : Draft} {s : String} :
    decodeString d = .ok s ↔ d = .string (some s) := by
  unfold decodeString
  split <;> simp_all

/-- The values that some members give to a key, in order. -/
def valuesOf (key : String) (ms : List Member) : List Draft :=
  (ms.filter (·.1 = some key)).map (·.2)

theorem valuesOf_eq_nil {key : String} {ms : List Member} (h : ∀ m ∈ ms, m.1 ≠ some key) :
    valuesOf key ms = [] := by
  rw [valuesOf, List.map_eq_nil_iff, List.filter_eq_nil_iff]
  simpa using h

/-- A key that one member has gets its value. -/
theorem valuesOf_middle {key : String} {before after : List Member} {d : Draft}
    (hbefore : ∀ m ∈ before, m.1 ≠ some key) (hafter : ∀ m ∈ after, m.1 ≠ some key) :
    valuesOf key (before ++ (some key, d) :: after) = [d] := by
  have hmiddle : valuesOf key (before ++ (some key, d) :: after) =
    valuesOf key before ++ d :: valuesOf key after := by simp [valuesOf]
  rw [hmiddle, valuesOf_eq_nil hbefore, valuesOf_eq_nil hafter, List.nil_append]

/-- What a member does to the slot of a key: only its own key does anything. -/
def takeIn {α : Type} (key : String) (decoder : Decoder α) (slot : Option α) (m : Member) :
    Except DecodeError (Option α) :=
  if m.1 = some key then fill key slot decoder m.2 else .ok slot

/-- What the values of a key leave in its slot: nothing, or what the only one is decoded to. -/
inductive Fills {α : Type} (decoder : Decoder α) : List Draft → Option α → Prop
  | nothing : Fills decoder [] none
  | only {d : Draft} {a : α} : decoder d = .ok a → Fills decoder [d] (some a)

variable {α : Type} {decoder : Decoder α} {vs : List Draft} {slot : Option α}

theorem fills_none_iff : Fills decoder vs none ↔ vs = [] := by
  constructor
  · rintro ⟨⟩
    rfl
  · rintro rfl
    exact .nothing

theorem fills_some_iff {a : α} : Fills decoder vs (some a) ↔ ∃ d, vs = [d] ∧ decoder d = .ok a := by
  constructor
  · rintro (_ | hd)
    exact ⟨_, rfl, hd⟩
  · rintro ⟨d, rfl, hd⟩
    exact .only hd

theorem Fills.exists_ok (h : Fills decoder vs slot) {d : Draft} (hd : d ∈ vs) :
    ∃ a, decoder d = .ok a := by
  cases h with
  | nothing => cases hd
  | only ha =>
    obtain rfl := List.mem_singleton.mp hd
    exact ⟨_, ha⟩

/-- One more value goes to a slot that is still free. -/
theorem fills_concat_iff (key : String) {d : Draft} : Fills decoder (vs ++ [d]) slot ↔
    ∃ before, Fills decoder vs before ∧ fill key before decoder d = .ok slot := by
  simp only [fill_eq_ok]
  constructor
  · intro h
    cases slot with
    | none => simp [fills_none_iff] at h
    | some a =>
      obtain ⟨d', hvs, ha⟩ := fills_some_iff.mp h
      obtain ⟨rfl, rfl⟩ : vs = [] ∧ d = d' := by simpa [List.append_eq_singleton_iff] using hvs
      exact ⟨none, .nothing, rfl, a, ha, rfl⟩
  · rintro ⟨_, hvs, rfl, a, ha, rfl⟩
    obtain rfl := fills_none_iff.mp hvs
    exact .only ha

/-- A slot that was free is filled from the values of its key. -/
theorem foldlM_takeIn_eq_ok_iff (key : String) (ms : List Member) :
    ms.foldlM (takeIn key decoder) none = .ok slot ↔ Fills decoder (valuesOf key ms) slot := by
  induction ms using List.reverseRecOn generalizing slot with
  | nil =>
    rw [List.foldlM_nil]
    constructor
    · rintro ⟨⟩
      exact .nothing
    · rintro ⟨⟩
      rfl
  | append_singleton ms m ih =>
    simp only [List.foldlM_append, List.foldlM_cons, List.foldlM_nil, bind_pure, bind_eq_ok, ih]
    by_cases hkey : m.1 = some key
    · have hvalues : valuesOf key (ms ++ [m]) = valuesOf key ms ++ [m.2] := by
        simp [valuesOf, hkey]
      rw [hvalues, fills_concat_iff key]
      simp only [takeIn, hkey, if_true]
    · have hvalues : valuesOf key (ms ++ [m]) = valuesOf key ms := by simp [valuesOf, hkey]
      rw [hvalues]
      simp [takeIn, hkey]

theorem fills_map_iff {decoder' : Decoder α} {f : Draft → Draft}
    (h : ∀ d ∈ vs, ∀ a, decoder' (f d) = .ok a ↔ decoder d = .ok a) :
    Fills decoder' (vs.map f) slot ↔ Fills decoder vs slot := by
  cases slot with
  | none => simp [fills_none_iff]
  | some a =>
    rw [fills_some_iff, fills_some_iff]
    constructor
    · rintro ⟨d', hvs, hd'⟩
      obtain ⟨d, rfl, rfl⟩ := List.map_eq_singleton_iff.mp hvs
      exact ⟨d, rfl, (h d List.mem_cons_self a).mp hd'⟩
    · rintro ⟨d, rfl, hd⟩
      exact ⟨f d, rfl, (h d List.mem_cons_self a).mpr hd⟩

/-- What a fold over members comes to, by what each of them does. -/
theorem foldlM_eq_ok_iff {σ : Type} {put : σ → Member → Except DecodeError σ}
    {TakesIn : List Member → σ → σ → Prop} (hnil : ∀ s s', TakesIn [] s s' ↔ s = s')
    (hcons : ∀ m ms s s', TakesIn (m :: ms) s s' ↔ ∃ mid, TakesIn [m] s mid ∧ TakesIn ms mid s')
    {ms : List Member} (hput : ∀ m ∈ ms, ∀ s s', put s m = .ok s' ↔ TakesIn [m] s s') (s s' : σ) :
    ms.foldlM put s = .ok s' ↔ TakesIn ms s s' := by
  induction ms generalizing s with
  | nil => simp [hnil, pure, Except.pure]
  | cons m ms ih =>
    rw [List.foldlM_cons, bind_eq_ok, hcons]
    refine exists_congr fun mid => and_congr (hput m List.mem_cons_self s mid) ?_
    exact ih (fun m' hm' => hput m' (List.mem_cons_of_mem _ hm')) mid

end Json

/-! ## What a record is read from -/

namespace Elf

/-- Each slot takes in the members on its own. -/
@[mk_iff takesIn_iff]
structure TakesIn (stage : Stage) (ms : List Member) (s s' : Slots) : Prop where
  elfClass : ms.foldlM (Json.takeIn "class" (decodeClass stage)) s.elfClass = .ok s'.elfClass
  byteOrder : ms.foldlM (Json.takeIn "data" (decodeByteOrder stage)) s.byteOrder = .ok s'.byteOrder
  needed : ms.foldlM (Json.takeIn "dt_needed" decodeNames) s.needed = .ok s'.needed
  exported : ms.foldlM (Json.takeIn "exported_symbols" decodeSymbols) s.exported = .ok s'.exported
  imported : ms.foldlM (Json.takeIn "imported_symbols" decodeSymbols) s.imported = .ok s'.imported

/-- Each slot holds what the values of its key leave in it. -/
@[mk_iff filledBy_iff]
structure FilledBy (stage : Stage) (ms : List Member) (s : Slots) : Prop where
  elfClass : Json.Fills (decodeClass stage) (Json.valuesOf "class" ms) s.elfClass
  byteOrder : Json.Fills (decodeByteOrder stage) (Json.valuesOf "data" ms) s.byteOrder
  needed : Json.Fills decodeNames (Json.valuesOf "dt_needed" ms) s.needed
  exported : Json.Fills decodeSymbols (Json.valuesOf "exported_symbols" ms) s.exported
  imported : Json.Fills decodeSymbols (Json.valuesOf "imported_symbols" ms) s.imported

variable {stage : Stage} {ms : List Member} {m : Member} {s s' : Slots}

theorem takesIn_nil_iff : TakesIn stage [] s s' ↔ s = s' := by
  obtain ⟨_, _, _, _, _⟩ := s
  obtain ⟨_, _, _, _, _⟩ := s'
  simp [takesIn_iff, pure, Except.pure]

theorem takesIn_cons_iff : TakesIn stage (m :: ms) s s' ↔
    ∃ mid, TakesIn stage [m] s mid ∧ TakesIn stage ms mid s' := by
  simp only [takesIn_iff, List.foldlM_cons, List.foldlM_nil, bind_pure, Json.bind_eq_ok]
  constructor
  · rintro ⟨⟨_, h₁, h₁'⟩, ⟨_, h₂, h₂'⟩, ⟨_, h₃, h₃'⟩, ⟨_, h₄, h₄'⟩, ⟨_, h₅, h₅'⟩⟩
    exact ⟨⟨_, _, _, _, _⟩, ⟨h₁, h₂, h₃, h₄, h₅⟩, h₁', h₂', h₃', h₄', h₅'⟩
  · rintro ⟨mid, ⟨h₁, h₂, h₃, h₄, h₅⟩, h₁', h₂', h₃', h₄', h₅'⟩
    exact ⟨⟨_, h₁, h₁'⟩, ⟨_, h₂, h₂'⟩, ⟨_, h₃, h₃'⟩, ⟨_, h₄, h₄'⟩, ⟨_, h₅, h₅'⟩⟩

theorem put_eq_ok_iff (hkey : m.1.isSome = true) (hvalue : m.2.isComplete = true) :
    put stage s m = .ok s' ↔ TakesIn stage [m] s s' := by
  obtain ⟨elfClass, byteOrder, needed, exported, imported⟩ := s
  obtain ⟨elfClass', byteOrder', needed', exported', imported'⟩ := s'
  simp only [takesIn_iff, List.foldlM_cons, List.foldlM_nil, bind_pure]
  unfold put
  split
  case h_1 => cases hkey
  case h_7 => simp_all [Json.takeIn, Json.ensure]
  -- A known key changes its own slot, and the others must be as they were.
  all_goals simp [Json.takeIn, Json.map_eq_ok, and_assoc, and_left_comm, and_comm]

theorem foldlM_put_eq_ok_iff (h : ∀ m ∈ ms, m.1.isSome = true ∧ m.2.isComplete = true) :
    ms.foldlM (put stage) s = .ok s' ↔ TakesIn stage ms s s' :=
  Json.foldlM_eq_ok_iff (fun _ _ => takesIn_nil_iff) (fun _ _ _ _ => takesIn_cons_iff)
    (fun m hm _ _ => put_eq_ok_iff (h m hm).1 (h m hm).2) s s'

theorem takesIn_empty_iff : TakesIn stage ms .empty s ↔ FilledBy stage ms s := by
  simp only [takesIn_iff, filledBy_iff, Slots.empty, Json.foldlM_takeIn_eq_ok_iff]

/-- A record that stands alone is read from the values of its keys. -/
theorem decoder_eq_ok_iff (h : ∀ m ∈ ms, m.1.isSome = true ∧ m.2.isComplete = true) {elf : Elf} :
    decoder (.object ms .closed) = .ok elf ↔ ∃ s, FilledBy .direct ms s ∧ s.elf = .ok elf := by
  simp [decoder, Json.bind_eq_ok, foldlM_put_eq_ok_iff h, takesIn_empty_iff, Json.ensure]

end Elf

/-! ## What an entry is read from -/

namespace Library

/-- The members give the partition and the path of the library, each once. -/
@[mk_iff namedBy_iff]
structure NamedBy (lib : Library) (ms : List Member) : Prop where
  partition : ∃ d, Json.valuesOf "partition" ms = [d] ∧ decodePartition d = .ok lib.partition
  path : Json.valuesOf "path" ms = [.string (some lib.path)]

/-- The members that are kept for the ELF view. -/
def keptMembers (ms : List Member) : List Member :=
  ms.filter fun m => m.1 ≠ some "partition" ∧ m.1 ≠ some "path"

/-- Each slot takes in the members on its own, and the others are kept in their order. -/
@[mk_iff takesIn_iff]
structure TakesIn (ms : List Member) (s s' : Slots) : Prop where
  partition : ms.foldlM (Json.takeIn "partition" decodePartition) s.partition = .ok s'.partition
  path : ms.foldlM (Json.takeIn "path" Json.decodeString) s.path = .ok s'.path
  kept : s.kept ++ keptMembers ms = s'.kept

variable {ms : List Member} {m : Member} {s s' : Slots}

theorem valuesOf_keptMembers {key : String} (hpartition : key ≠ "partition")
    (hpath : key ≠ "path") : Json.valuesOf key (keptMembers ms) = Json.valuesOf key ms := by
  rw [Json.valuesOf, Json.valuesOf, keptMembers, List.filter_filter]
  congr 1
  refine List.filter_congr fun m _ => ?_
  by_cases hkey : m.1 = some key
  · simp [hkey, hpartition, hpath]
  · simp [hkey]

/-- The ELF view has no field with the name of another field of the library. -/
theorem filledBy_keptMembers {stage : Stage} {view : Elf.Slots} :
    Elf.FilledBy stage (keptMembers ms) view ↔ Elf.FilledBy stage ms view := by
  simp [Elf.filledBy_iff, valuesOf_keptMembers]

theorem takesIn_nil_iff : TakesIn [] s s' ↔ s = s' := by
  obtain ⟨_, _, _⟩ := s
  obtain ⟨_, _, _⟩ := s'
  simp [takesIn_iff, keptMembers, pure, Except.pure]

theorem takesIn_cons_iff :
    TakesIn (m :: ms) s s' ↔ ∃ mid, TakesIn [m] s mid ∧ TakesIn ms mid s' := by
  have hkept : keptMembers (m :: ms) = keptMembers [m] ++ keptMembers ms :=
    List.filter_append [m] ms
  simp only [takesIn_iff, List.foldlM_cons, List.foldlM_nil, bind_pure, Json.bind_eq_ok, hkept]
  constructor
  · rintro ⟨⟨_, h₁, h₁'⟩, ⟨_, h₂, h₂'⟩, h₃⟩
    exact ⟨⟨_, _, _⟩, ⟨h₁, h₂, rfl⟩, h₁', h₂', by rw [List.append_assoc, h₃]⟩
  · rintro ⟨mid, ⟨h₁, h₂, h₃⟩, h₁', h₂', h₃'⟩
    exact ⟨⟨_, h₁, h₁'⟩, ⟨_, h₂, h₂'⟩, by rw [← List.append_assoc, h₃, h₃']⟩

theorem put_eq_ok_iff (hkey : m.1.isSome = true) (hvalue : m.2.isKeepable entryRoom = true) :
    put s m = .ok s' ↔ TakesIn [m] s s' := by
  obtain ⟨partition, path, kept⟩ := s
  obtain ⟨partition', path', kept'⟩ := s'
  simp only [takesIn_iff, List.foldlM_cons, List.foldlM_nil, bind_pure]
  unfold put
  split
  case h_1 => cases hkey
  case h_4 => simp_all [Json.takeIn, keptMembers, Json.ensure]
  all_goals simp [Json.takeIn, keptMembers, Json.map_eq_ok, and_assoc, and_left_comm, and_comm]

theorem foldlM_put_eq_ok_iff
    (h : ∀ m ∈ ms, m.1.isSome = true ∧ m.2.isKeepable entryRoom = true) :
    ms.foldlM put s = .ok s' ↔ TakesIn ms s s' :=
  Json.foldlM_eq_ok_iff (fun _ _ => takesIn_nil_iff) (fun _ _ _ _ => takesIn_cons_iff)
    (fun m hm _ _ => put_eq_ok_iff (h m hm).1 (h m hm).2) s s'

/-- What an entry knows of its own fields once its members were taken in. -/
theorem takesIn_start_iff {lib : Library} : TakesIn ms ⟨none, none, []⟩
    ⟨some lib.partition, some lib.path, keptMembers ms⟩ ↔ lib.NamedBy ms := by
  simp only [takesIn_iff, Json.foldlM_takeIn_eq_ok_iff, Json.fills_some_iff,
    Json.decodeString_eq_ok_iff, namedBy_iff, List.nil_append]
  simp

/-- An entry is read from the values of its keys as well. Its ELF view is read as what was kept. -/
theorem decoder_eq_ok_iff (h : ∀ m ∈ ms, m.1.isSome = true ∧ m.2.isKeepable entryRoom = true)
    {lib : Library} : decoder (.object ms .closed) = .ok lib ↔
      lib.NamedBy ms ∧ ∃ view, Elf.FilledBy .kept ms view ∧ view.elf = .ok lib.elf := by
  have hkept : ∀ m ∈ keptMembers ms, m.1.isSome = true ∧ m.2.isComplete = true := by
    intro m hm
    obtain ⟨hkey, hvalue⟩ := h m (List.mem_of_mem_filter hm)
    exact ⟨hkey, ((Draft.isKeepable_iff _ _).mp hvalue).complete⟩
  have hview : ∀ view, (keptMembers ms).foldlM (Elf.put .kept) .empty = .ok view ↔
      Elf.FilledBy .kept ms view := by
    intro view
    rw [Elf.foldlM_put_eq_ok_iff hkept, Elf.takesIn_empty_iff, filledBy_keptMembers]
  constructor
  · intro hdecoder
    obtain ⟨⟨_, _, _⟩, hslots, hdecoder⟩ := Json.bind_eq_ok.mp hdecoder
    obtain ⟨_, _, hdecoder⟩ := Json.bind_eq_ok.mp hdecoder
    obtain ⟨partition, hpartition, hdecoder⟩ := Json.bind_eq_ok.mp hdecoder
    obtain ⟨path, hpath, hdecoder⟩ := Json.bind_eq_ok.mp hdecoder
    obtain ⟨view, hfold, hdecoder⟩ := Json.bind_eq_ok.mp hdecoder
    obtain ⟨elf, helf, hlib⟩ := Json.bind_eq_ok.mp hdecoder
    cases hlib
    obtain rfl := Json.required_eq_ok_iff.mp hpartition
    obtain rfl := Json.required_eq_ok_iff.mp hpath
    rw [foldlM_put_eq_ok_iff h] at hslots
    obtain rfl : keptMembers ms = _ := hslots.kept
    exact ⟨takesIn_start_iff.mp hslots, view, (hview view).mp hfold, helf⟩
  · rintro ⟨hnamed, view, hfilled, helf⟩
    have hslots := (foldlM_put_eq_ok_iff h).mpr (takesIn_start_iff.mpr hnamed)
    have hfold := (hview view).mpr hfilled
    simp [decoder, hslots, hfold, helf, Json.required, Json.ensure, bind, Except.bind, pure,
      Except.pure]

end Library

end ImageTiers
