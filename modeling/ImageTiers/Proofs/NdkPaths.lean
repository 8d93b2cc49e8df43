-- The paths of the NDK. A path has a stem if it lies directly in one of the two library
-- directories of the system partition. The law: the stem and the three lists tell the part of
-- the NDK that a library belongs to, and nothing else does.
import Mathlib.Data.List.Basic
import ImageTiers.Ndk

namespace ImageTiers.NdkLists

/-! ## Stems of paths -/

/-- The path lies directly in a library directory of the system partition, and `stem` is its
file name without the ending. -/
structure HasStem (path stem : String) : Prop where
  direct : '/' ∉ stem.toList
  place : path = "/system/lib/" ++ stem ++ ".so" ∨ path = "/system/lib64/" ++ stem ++ ".so"

/-- What is left of a path after one of the library directories. The name of the one does not
start with the name of the other and a slash, so it does not matter which is tried first. -/
theorem directory_eq_some_iff {rest file : List Char} :
    ("lib64/".toList.isPrefixOf? rest).or ("lib/".toList.isPrefixOf? rest) = some file ↔
      rest = "lib/".toList ++ file ∨ rest = "lib64/".toList ++ file := by
  rw [Option.or_eq_some_iff, ← Option.not_isSome_iff_eq_none,
    List.isSome_isPrefixOf?_eq_isPrefixOf,
    List.isPrefixOf?_eq_some_iff_append_eq, List.isPrefixOf?_eq_some_iff_append_eq]
  constructor
  · rintro (rfl | ⟨_, rfl⟩)
    · exact .inr rfl
    · exact .inl rfl
  · rintro (rfl | rfl)
    · exact .inr ⟨by simp, rfl⟩
    · exact .inl rfl

theorem stem?_eq_some_iff {path stem : String} : stem? path = some stem ↔ HasStem path stem := by
  constructor
  · intro h
    obtain ⟨rest, hsystem, h⟩ := Option.bind_eq_some_iff.mp h
    obtain ⟨file, hfile, h⟩ := Option.bind_eq_some_iff.mp h
    rw [List.isPrefixOf?_eq_some_iff_append_eq] at hsystem
    rw [directory_eq_some_iff] at hfile
    split at h
    · cases h
    · rename_i hslash
      obtain ⟨front, hending, hstem⟩ := Option.bind_eq_some_iff.mp h
      rw [List.isSuffixOf?_eq_some_iff_append_eq] at hending
      cases hstem
      subst hending
      refine ⟨by simp_all, ?_⟩
      rw [← String.toList_inj, ← String.toList_inj, ← hsystem]
      rcases hfile with rfl | rfl
      · exact .inl (by simp)
      · exact .inr (by simp)
  · rintro ⟨hslash, hplace⟩
    obtain ⟨rest, hsystem, hfile⟩ : ∃ rest, "/system/".toList ++ rest = path.toList ∧
        (rest = "lib/".toList ++ (stem ++ ".so").toList ∨
          rest = "lib64/".toList ++ (stem ++ ".so").toList) := by
      rcases hplace with rfl | rfl
      · exact ⟨_, by simp, .inl rfl⟩
      · exact ⟨_, by simp, .inr rfl⟩
    have hdirect : (stem ++ ".so").toList.contains '/' = false := by simpa using hslash
    have hending : ".so".toList.isSuffixOf? (stem ++ ".so").toList = some stem.toList := by
      rw [List.isSuffixOf?_eq_some_iff_append_eq, String.toList_append]
    rw [← List.isPrefixOf?_eq_some_iff_append_eq] at hsystem
    rw [← directory_eq_some_iff] at hfile
    simp only [stem?, hsystem, hfile, hdirect, hending, Option.bind_eq_bind, Option.bind_some,
      Bool.false_eq_true, if_false, Option.pure_def, String.ofList_toList]

/-- With a slash after the library directory, the path leads on into another directory. -/
theorem not_hasStem_of_slash {path file : String} (hslash : '/' ∈ file.toList)
    (hplace : path = "/system/lib/" ++ file ∨ path = "/system/lib64/" ++ file) (stem : String) :
    ¬ HasStem path stem := by
  rintro ⟨hdirect, hstem⟩
  have hfile : file.toList = stem.toList ++ ".so".toList := by
    rcases hplace with rfl | rfl <;> rcases hstem with hstem | hstem
    all_goals simp_all [← String.toList_inj]
  rw [hfile] at hslash
  simp [hdirect] at hslash

/-! ## Parts of the NDK -/

/-- What puts a stem into a part of the NDK, where some low-level and some same-process stems
were added to the built-in lists. A stem on two lists belongs to the first of them. -/
def InPart (lowLevel sameProcess : List String) (stem : String) : NdkKind → Prop
  | .lowLevel => stem ∈ builtIn.lowLevel ++ lowLevel
  | .sameProcess =>
    stem ∉ builtIn.lowLevel ++ lowLevel ∧ stem ∈ builtIn.sameProcess ++ sameProcess
  | .highLevel => stem ∉ builtIn.lowLevel ++ lowLevel ∧
    stem ∉ builtIn.sameProcess ++ sameProcess ∧ stem ∈ builtIn.highLevel

variable {lowLevel sameProcess : List String} {path : String}

theorem exists_inPart_iff {stem : String} : (∃ kind, InPart lowLevel sameProcess stem kind) ↔
    stem ∈ builtIn.lowLevel ++ lowLevel ∨ stem ∈ builtIn.sameProcess ++ sameProcess ∨
      stem ∈ builtIn.highLevel := by
  constructor
  · rintro ⟨kind, hpart⟩
    cases kind with
    | lowLevel => exact .inl hpart
    | sameProcess => exact .inr (.inl hpart.2)
    | highLevel => exact .inr (.inr hpart.2.2)
  · intro hlists
    by_cases hlow : stem ∈ builtIn.lowLevel ++ lowLevel
    · exact ⟨.lowLevel, hlow⟩
    by_cases hsame : stem ∈ builtIn.sameProcess ++ sameProcess
    · exact ⟨.sameProcess, hlow, hsame⟩
    · exact ⟨.highLevel, hlow, hsame, (hlists.resolve_left hlow).resolve_left hsame⟩

theorem classify_eq_none (lists : NdkLists) (h : ∀ stem, ¬ HasStem path stem) :
    lists.classify path = none := by
  have hstem : stem? path = none :=
    Option.eq_none_iff_forall_ne_some.mpr fun stem hstem => h stem (stem?_eq_some_iff.mp hstem)
  rw [classify, hstem]
  rfl

/-- Two paths of one stem are in one part. -/
theorem HasStem.classify_eq {path' stem : String} (h : HasStem path stem) (h' : HasStem path' stem)
    (lists : NdkLists) : lists.classify path = lists.classify path' := by
  rw [classify, classify, stem?_eq_some_iff.mpr h, stem?_eq_some_iff.mpr h']

theorem classify_withExtra_eq_some_iff {kind : NdkKind} :
    (withExtra lowLevel sameProcess).classify path = some kind ↔
      ∃ stem, HasStem path stem ∧ InPart lowLevel sameProcess stem kind := by
  simp only [classify, Option.bind_eq_bind, Option.bind_eq_some_iff, stem?_eq_some_iff,
    List.contains_eq_mem, decide_eq_true_eq]
  refine exists_congr fun stem => and_congr_right fun _ => ?_
  by_cases hlow : stem ∈ builtIn.lowLevel ++ lowLevel
  · cases kind <;> simp [-List.mem_append, withExtra, InPart, hlow]
  by_cases hsame : stem ∈ builtIn.sameProcess ++ sameProcess
  · cases kind <;> simp [-List.mem_append, withExtra, InPart, hlow, hsame]
  by_cases hhigh : stem ∈ builtIn.highLevel
  · cases kind <;> simp [-List.mem_append, withExtra, InPart, hlow, hsame, hhigh]
  · cases kind <;> simp [-List.mem_append, withExtra, InPart, hlow, hsame, hhigh]

/-- Only stems without a slash count, and only whether they are on a list. -/
theorem classify_withExtra_congr {lowLevel' sameProcess' : List String}
    (hlow : ∀ stem, '/' ∉ stem.toList → (stem ∈ lowLevel' ↔ stem ∈ lowLevel))
    (hsame : ∀ stem, '/' ∉ stem.toList → (stem ∈ sameProcess' ↔ stem ∈ sameProcess)) :
    (withExtra lowLevel' sameProcess').classify path =
      (withExtra lowLevel sameProcess).classify path := by
  refine Option.ext fun kind => ?_
  rw [classify_withExtra_eq_some_iff, classify_withExtra_eq_some_iff]
  refine exists_congr fun stem => and_congr_right fun hstem => ?_
  cases kind <;> simp only [InPart, List.mem_append, hlow stem hstem.direct,
    hsame stem hstem.direct]

/-! ## The law -/

/-- A library is in a part of the NDK if it lies directly in `/system/lib` or `/system/lib64` and
its stem is on a list of that part, the first list before the others. So both copies of a stem
are in one part, nothing in another directory or with another ending is in any, and of the added
stems neither the order nor the repeats nor those with a slash count. -/
theorem an_ndk_library_has_a_stem_of_the_lists (lowLevel sameProcess : List String) :
    (∀ path kind, (withExtra lowLevel sameProcess).classify path = some kind ↔
      ∃ stem, HasStem path stem ∧ InPart lowLevel sameProcess stem kind) ∧
    (∀ path, ((withExtra lowLevel sameProcess).classify path).isSome = true ↔
      ∃ stem, HasStem path stem ∧ (stem ∈ builtIn.lowLevel ++ lowLevel ∨
        stem ∈ builtIn.sameProcess ++ sameProcess ∨ stem ∈ builtIn.highLevel)) ∧
    (∀ stem, (withExtra lowLevel sameProcess).classify ("/system/lib/" ++ stem ++ ".so") =
      (withExtra lowLevel sameProcess).classify ("/system/lib64/" ++ stem ++ ".so")) ∧
    (∀ path, (∃ dir file, path = "/system/lib/" ++ dir ++ "/" ++ file ∨
        path = "/system/lib64/" ++ dir ++ "/" ++ file) ∨
        (∀ rest, path ≠ "/system/lib" ++ rest) ∨ (∀ front, path ≠ front ++ ".so") →
      (withExtra lowLevel sameProcess).classify path = none) ∧
    (∀ lowLevel' sameProcess', (∀ stem, stem ∈ lowLevel' ↔ stem ∈ lowLevel) →
      (∀ stem, stem ∈ sameProcess' ↔ stem ∈ sameProcess) → ∀ path,
      (withExtra lowLevel' sameProcess').classify path =
        (withExtra lowLevel sameProcess).classify path) ∧
    (∀ stem ∈ lowLevel, ∀ path, HasStem path stem →
      (withExtra lowLevel sameProcess).classify path = some .lowLevel) ∧
    ∀ path, (withExtra (lowLevel.filter fun stem => '/' ∉ stem.toList)
        (sameProcess.filter fun stem => '/' ∉ stem.toList)).classify path =
      (withExtra lowLevel sameProcess).classify path := by
  refine ⟨fun path kind => classify_withExtra_eq_some_iff, fun path => ?_, fun stem => ?_,
    fun path hpath => ?_, fun _ _ hlow hsame path => ?_, fun stem hstem path hpath => ?_,
    fun path => ?_⟩
  · simp only [Option.isSome_iff_exists, classify_withExtra_eq_some_iff, ← exists_inPart_iff]
    rw [exists_comm]
    simp only [exists_and_left]
  · by_cases hslash : '/' ∈ stem.toList
    · have hfile : '/' ∈ (stem ++ ".so").toList := by simpa using hslash
      rw [classify_eq_none, classify_eq_none]
      · exact not_hasStem_of_slash hfile (.inr String.append_assoc)
      · exact not_hasStem_of_slash hfile (.inl String.append_assoc)
    · exact HasStem.classify_eq ⟨hslash, .inl rfl⟩ ⟨hslash, .inr rfl⟩ _
  · refine classify_eq_none _ fun stem hstem => ?_
    rcases hpath with ⟨dir, file, hdir⟩ | hstart | hending
    · have hslash : '/' ∈ (dir ++ "/" ++ file).toList := by simp
      refine not_hasStem_of_slash hslash ?_ stem hstem
      simpa [String.append_assoc] using hdir
    · rcases hstem.place with rfl | rfl
      · exact hstart ("/" ++ stem ++ ".so") (by simp [← String.toList_inj])
      · exact hstart ("64/" ++ stem ++ ".so") (by simp [← String.toList_inj])
    · rcases hstem.place with rfl | rfl
      · exact hending _ rfl
      · exact hending _ rfl
  · exact classify_withExtra_congr (fun stem _ => hlow stem) fun stem _ => hsame stem
  · exact classify_withExtra_eq_some_iff.mpr ⟨stem, hpath, List.mem_append_right _ hstem⟩
  · refine classify_withExtra_congr (fun stem hslash => ?_) fun stem hslash => ?_
    all_goals simp [hslash]

/-- The stem `libsync` is built in as a same-process one. The order of the added stems, and that
one of them comes twice, does not count for `libft2`. -/
theorem a_built_in_same_process_stem_is_low_level_once_added :
    "libsync" ∈ ["hw/libc", "libsync"] ∧ HasStem "/system/lib64/libsync.so" "libsync" ∧
    (withExtra ["hw/libc", "libsync"] ["libft2"]).classify "/system/lib64/libsync.so" =
      some .lowLevel ∧
    (withExtra ["libsync", "hw/libc", "libsync"] ["libft2"]).classify "/system/lib/libft2.so" =
      some .sameProcess ∧
    (withExtra ["hw/libc", "libsync"] ["libft2"]).classify "/system/lib/hw/libc.so" = none := by
  obtain ⟨hpart, _, _, hnone, hsame, hlow, _⟩ :=
    an_ndk_library_has_a_stem_of_the_lists ["hw/libc", "libsync"] ["libft2"]
  have hsync : HasStem "/system/lib64/libsync.so" "libsync" := ⟨by decide, .inr rfl⟩
  have hft2 : HasStem "/system/lib/libft2.so" "libft2" := ⟨by decide, .inl rfl⟩
  refine ⟨by decide, hsync, hlow _ (by decide) _ hsync, ?_,
    hnone _ (.inl ⟨"hw", "libc.so", .inl rfl⟩)⟩
  rw [hsame ["libsync", "hw/libc", "libsync"] ["libft2"] (by simp) (fun _ => Iff.rfl)]
  exact (hpart _ _).mpr ⟨"libft2", hft2, by decide, by decide⟩

end ImageTiers.NdkLists
