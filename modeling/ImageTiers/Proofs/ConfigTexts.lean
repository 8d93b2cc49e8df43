-- Texts of configurations. An object tells a configuration by some of its settings, in any
-- order, if the ones that it leaves out have their defaults. The law: it is read back from
-- any text of such an object, and one more member makes the text an error.
import Mathlib.Data.List.Nodup
import ImageTiers.Config
import ImageTiers.Proofs.JsonTexts

namespace ImageTiers.Config

open Json (Draft Member DecodeError)

/-! ## Objects that tell a configuration -/

/-- The members of an object tell the configuration `c`: each is a setting of `c`, none comes
twice, and a setting that is left out has its default. -/
structure ToldBy (c : Config) (told : List (String × Json)) : Prop where
  each : ∀ m ∈ told, m ∈ c.members
  once : (told.map (·.1)).Nodup
  rest : ∀ m ∈ c.members, m.1 ∉ told.map (·.1) → m ∈ default.members

theorem toldBy_members (c : Config) : c.ToldBy c.members := by
  refine ⟨fun _ hm => hm, ?_, ?_⟩
  · exact (by decide : fieldNames.Nodup)
  · intro m hm hnot
    exact absurd (List.mem_map_of_mem hm) hnot

/-! ## Taking in the members -/

/-- The settings of `c` with the given names, and no others. -/
def Slots.of (c : Config) (names : List String) : Slots where
  policy := if "policy" ∈ names then some c.policy else none
  symbolFallback := if "symbol_fallback" ∈ names then some c.symbolFallback else none
  extraLlNdk := if "extra_ll_ndk" ∈ names then some c.extraLlNdk else none
  extraSpNdk := if "extra_sp_ndk" ∈ names then some c.extraSpNdk else none
  extraSpHalPatterns :=
    if "extra_sp_hal_patterns" ∈ names then some c.extraSpHalPatterns else none

theorem decodePolicy_draft (p : LinkPolicy) :
    decodePolicy (Json.string p.name).draft = .ok p := by
  cases p <;> rfl

/-- A setting that is new goes to its slot. -/
theorem put_of {c : Config} {m : String × Json} (hm : m ∈ c.members) {names : List String}
    (hnew : m.1 ∉ names) :
    put (.of c names) (some m.1, m.2.draft) = .ok (.of c (names ++ [m.1])) := by
  have hstrings : ∀ ss, decodeStrings (Json.strings ss).draft = .ok ss := Json.decodeList_strings
  simp only [members, List.mem_cons, List.not_mem_nil, or_false] at hm
  rcases hm with rfl | rfl | rfl | rfl | rfl
  · simp [put, Json.fill, Slots.of, hnew, decodePolicy_draft]
  · simp [put, Json.fill, Slots.of, hnew, Json.draft, Json.decodeBool]
  all_goals simp [put, Json.fill, Slots.of, hnew, hstrings]

theorem foldlM_put_of {c : Config} {told : List (String × Json)} (hmem : ∀ m ∈ told, m ∈ c.members)
    (honce : (told.map (·.1)).Nodup) :
    (Json.memberDrafts told).foldlM put .empty = .ok (.of c (told.map (·.1))) := by
  rw [Json.memberDrafts_eq]
  refine Json.foldlM_put_ok (fun seen : List (String × Json) => Slots.of c (seen.map (·.1))) ?_
  rintro before m after rfl
  rw [List.map_append, List.map_cons, List.nodup_middle, List.nodup_cons] at honce
  have hnew : m.1 ∉ before.map (·.1) := fun hold => honce.1 (List.mem_append_left _ hold)
  have hput := put_of (hmem m (List.mem_append_right _ List.mem_cons_self)) hnew
  simpa using hput

theorem strings_eq_nil {ss : List String} (h : Json.strings ss = Json.strings []) : ss = [] := by
  simpa [Json.strings] using h

/-- The slots that are still free have their defaults. -/
theorem ToldBy.config_of {c : Config} {told : List (String × Json)} (h : c.ToldBy told) :
    (Slots.of c (told.map (·.1))).config = c := by
  have hrest := h.rest
  generalize told.map (·.1) = names at hrest
  obtain ⟨policy, symbolFallback, extraLlNdk, extraSpNdk, extraSpHalPatterns⟩ := c
  simp only [members, List.forall_mem_cons] at hrest
  obtain ⟨hpolicy, hfallback, hll, hsp, hpatterns, _⟩ := hrest
  simp only [Slots.config, Slots.of, mk.injEq]
  refine ⟨Json.getD_seen fun hnot => ?_, Json.getD_seen fun hnot => ?_,
    Json.getD_seen fun hnot => ?_, Json.getD_seen fun hnot => ?_, Json.getD_seen fun hnot => ?_⟩
  · have hm := hpolicy hnot
    cases policy with
    | lenient => rfl
    | strict => simp [LinkPolicy.name, default] at hm
  · have hm := hfallback hnot
    simpa [default] using hm
  · have hm := hll hnot
    exact strings_eq_nil (by simpa [default] using hm)
  · have hm := hsp hnot
    exact strings_eq_nil (by simpa [default] using hm)
  · have hm := hpatterns hnot
    exact strings_eq_nil (by simpa [default] using hm)

theorem ToldBy.decoder {c : Config} {told : List (String × Json)} (h : c.ToldBy told) :
    decoder (Json.object told).draft = .ok c := by
  rw [Json.draft, Config.decoder, foldlM_put_of h.each h.once]
  simp only [bind, Except.bind, h.config_of]
  rfl

/-! ## Refused members -/

/-- The names of the settings seen so far. -/
def Slots.names (s : Slots) : List String :=
  (if s.policy.isSome then ["policy"] else []) ++
    (if s.symbolFallback.isSome then ["symbol_fallback"] else []) ++
    (if s.extraLlNdk.isSome then ["extra_ll_ndk"] else []) ++
    (if s.extraSpNdk.isSome then ["extra_sp_ndk"] else []) ++
    (if s.extraSpHalPatterns.isSome then ["extra_sp_hal_patterns"] else [])

/-- A member that is taken in has a known name that was not seen before. -/
theorem put_ok {s s' : Slots} {m : Member} (h : put s m = .ok s') :
    ∃ name ∈ fieldNames, m.1 = some name ∧ name ∉ s.names ∧
      ∀ other, other ∈ s'.names ↔ other = name ∨ other ∈ s.names := by
  unfold put at h
  split at h
  case h_1 => cases h
  case h_7 => cases h
  all_goals
    rename_i d
    obtain ⟨slot, hfill, hs⟩ := Json.bind_eq_ok.mp h
    cases hs
    obtain ⟨hfree, a, _, rfl⟩ := Json.fill_eq_ok.mp hfill
    refine ⟨_, by decide, rfl, ?_, ?_⟩
    · simp [Slots.names, hfree]
    · intro other
      simp only [Slots.names, List.mem_append, hfree]
      grind

theorem keys_of_foldlM_put {ms : List Member} {s s' : Slots} (h : ms.foldlM put s = .ok s') :
    ∃ names : List String, ms.map (·.1) = names.map some ∧ names.Nodup ∧
      ∀ name ∈ names, name ∈ fieldNames ∧ name ∉ s.names := by
  induction ms generalizing s with
  | nil => exact ⟨[], rfl, .nil, nofun⟩
  | cons m ms ih =>
    rw [List.foldlM_cons] at h
    obtain ⟨seen, hput, hrest⟩ := Json.bind_eq_ok.mp h
    obtain ⟨name, hknown, hkey, hnew, hseen⟩ := put_ok hput
    obtain ⟨names, hkeys, hnodup, hall⟩ := ih hrest
    refine ⟨name :: names, by simp [hkey, hkeys], ?_, ?_⟩
    · refine List.nodup_cons.mpr ⟨fun hmem => ?_, hnodup⟩
      exact (hall name hmem).2 ((hseen name).mpr (.inl rfl))
    · refine List.forall_mem_cons.mpr ⟨⟨hknown, hnew⟩, fun other hother => ?_⟩
      obtain ⟨hotherKnown, hotherNew⟩ := hall other hother
      exact ⟨hotherKnown, fun hold => hotherNew ((hseen other).mpr (.inr hold))⟩

theorem decoder_object_ok {ms : List Member} {ending : Json.Ending} {c : Config}
    (h : decoder (.object ms ending) = .ok c) :
    ∃ names : List String, ms.map (·.1) = names.map some ∧ names.Nodup ∧ names ⊆ fieldNames := by
  rw [decoder] at h
  obtain ⟨slots, hfold, _⟩ := Json.bind_eq_ok.mp h
  obtain ⟨names, hkeys, hnodup, hall⟩ := keys_of_foldlM_put hfold
  exact ⟨names, hkeys, hnodup, fun name hname => (hall name hname).1⟩

/-- One more member must not have a key that is unknown or that another member has. -/
theorem decoder_one_more {before after : List Member} {key : Json.Text} {value : Draft}
    {ending : Json.Ending} (hkey : key ∉ fieldNames.map some ∨ key ∈ (before ++ after).map (·.1)) :
    ∃ e, decoder (.object (before ++ (key, value) :: after) ending) = .error e := by
  cases hd : decoder (.object (before ++ (key, value) :: after) ending) with
  | error e => exact ⟨e, rfl⟩
  | ok c =>
    obtain ⟨names, hkeys, hnodup, hknown⟩ := decoder_object_ok hd
    have hmiddle : (before ++ (key, value) :: after).map (·.1) =
      before.map (·.1) ++ key :: after.map (·.1) := by simp
    have honce : (names.map some).Nodup := hnodup.map fun _ _ => Option.some.inj
    rw [← hkeys, hmiddle, List.nodup_middle, List.nodup_cons] at honce
    rcases hkey with hunknown | hsecond
    · have hmem : key ∈ names.map some := by
        rw [← hkeys, hmiddle]
        simp
      exact absurd (List.map_subset some hknown hmem) hunknown
    · rw [List.map_append] at hsecond
      exact absurd hsecond honce.1

theorem put_unknown (s : Slots) {name : String} (h : name ∉ fieldNames) (d : Draft) :
    put s (some name, d) = .error (.unknownField name fieldNames) := by
  simp only [fieldNames, List.mem_cons, not_or] at h
  obtain ⟨hpolicy, hfallback, hll, hsp, hpatterns, _⟩ := h
  unfold put
  split <;> simp_all

/-- A key that is unknown is refused where it stands, whatever comes after it. -/
theorem ToldBy.decoder_unknown {c : Config} {before after : List (String × Json)}
    (h : c.ToldBy (before ++ after)) {name : String} (hname : name ∉ fieldNames) (value : Draft)
    (rest : List Member) (ending : Json.Ending) :
    Config.decoder (.object (Json.memberDrafts before ++ (some name, value) :: rest) ending) =
      .error (.unknownField name fieldNames) := by
  have honce : (before.map (·.1)).Nodup := by
    have honce := h.once
    rw [List.map_append] at honce
    exact (List.nodup_append.mp honce).1
  have hfold := foldlM_put_of (fun m hm => h.each m (List.mem_append_left _ hm)) honce
  rw [Config.decoder, List.foldlM_append, hfold]
  simp only [bind, Except.bind, List.foldlM_cons, put_unknown _ hname]

/-! ## Configurations and their texts -/

/-- A configuration is read back from every text of an object that tells it: in any order of the
members, without those that have their defaults, in any layout. With one more member, wherever it
stands, there is an error if its key is unknown or comes a second time. -/
theorem a_configuration_is_read_from_each_object_that_tells_it (c : Config) :
    ofText c.toJson.compact = .ok c ∧ ofText c.toJson.pretty = .ok c ∧
    ∀ told, c.ToldBy told →
      (∀ text, Json.Says text (Json.object told).draft → ofText text = .ok c) ∧
      ∀ before after, told = before ++ after → ∀ key value text,
        Json.Says text
          (.object (Json.memberDrafts before ++ (key, value) :: Json.memberDrafts after) .closed) →
        (∀ name, key = some name → name ∉ fieldNames →
          ofText text = .error (.unknownField name fieldNames)) ∧
        (key ∉ fieldNames.map some ∨ key ∈ told.map (fun m => some m.1) →
          ∃ e, ofText text = .error e) := by
  have hwhole : Config.decoder c.toJson.draft = .ok c := (toldBy_members c).decoder
  refine ⟨?_, ?_, fun told h => ⟨?_, ?_⟩⟩
  · rw [ofText, (Json.says_compact c.toJson).decode, hwhole]
  · rw [ofText, (Json.says_pretty c.toJson).decode, hwhole]
  · intro text hsays
    rw [ofText, hsays.decode, h.decoder]
  · rintro before after rfl key value text hsays
    rw [ofText, hsays.decode]
    refine ⟨?_, fun hkey => decoder_one_more ?_⟩
    · rintro name rfl hname
      exact h.decoder_unknown hname value _ _
    · simpa [Json.memberDrafts_eq, Function.comp_def] using hkey

/-- A strict configuration with a stem that is listed twice. -/
def withStems : Config := { strict with extraLlNdk := ["libz", "lib\"q\"", "libz"] }

def stemsMember : String × Json := ("extra_ll_ndk", .strings ["libz", "lib\"q\"", "libz"])

def strictMember : String × Json := ("policy", .string "strict")

/-- The stems come first, and what is as by default is left out. -/
theorem toldBy_stems_and_policy : withStems.ToldBy [stemsMember, strictMember] := by
  refine ⟨?_, by decide, ?_⟩
  · simp [withStems, stemsMember, strictMember, members, strict, LinkPolicy.name]
  · simp [withStems, stemsMember, strictMember, members, strict, default]

theorem stems_and_policy_are_read_but_no_third_member :
    withStems.ToldBy [stemsMember, strictMember] ∧
    ofText ("\x7b\"extra_ll_ndk\":[\"libz\",\"lib\\\"q\\\"\",\"libz\"]," ++
      "\"policy\":\"strict\"\x7d") = .ok withStems ∧
    ofText (Json.object [stemsMember, ("polcy", .bool true), strictMember]).compact =
      .error (.unknownField "polcy" fieldNames) ∧
    ∃ e, ofText (Json.object [stemsMember, strictMember, strictMember]).compact = .error e := by
  obtain ⟨_, _, htold⟩ := a_configuration_is_read_from_each_object_that_tells_it withStems
  obtain ⟨hread, hmore⟩ := htold _ toldBy_stems_and_policy
  have hpolcy := hmore [stemsMember] [strictMember] rfl (some "polcy") (.bool true) _
    (Json.says_compact (.object [stemsMember, ("polcy", .bool true), strictMember]))
  have htwice := hmore [stemsMember] [strictMember] rfl (some "policy") (.string (some "strict")) _
    (Json.says_compact (.object [stemsMember, strictMember, strictMember]))
  have htext : (Json.object [stemsMember, strictMember]).compact =
    "\x7b\"extra_ll_ndk\":[\"libz\",\"lib\\\"q\\\"\",\"libz\"]," ++
      "\"policy\":\"strict\"\x7d" := by decide +kernel
  refine ⟨toldBy_stems_and_policy, ?_, hpolcy.1 "polcy" rfl (by decide), htwice.2 (.inr ?_)⟩
  · rw [← htext]
    exact hread _ (Json.says_compact _)
  · exact List.mem_cons_of_mem _ List.mem_cons_self

end ImageTiers.Config
