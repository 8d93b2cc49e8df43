-- The two policies. A strict linker links the whole image before it fails, so the policy
-- decides nothing but the answer. The laws: the lenient answer never fails, and the strict
-- one fails if a name or a symbol was not found, and tells all of them in order.
import ImageTiers.Proofs.ByteOrder
import ImageTiers.Proofs.Symbols

namespace ImageTiers

/-! ## The libraries that a run takes in -/

/-- The libraries that the calls ask to add. -/
def asked : List Call → List Library
  | [] => []
  | .add lib :: calls => lib :: asked calls
  | .resolve :: calls => asked calls

/-- The libraries whose path is neither taken nor that of an earlier one. -/
def untaken (taken : List String) : List Library → List Library
  | [] => []
  | lib :: libs =>
    if lib.path ∈ taken then untaken taken libs
    else lib :: untaken (taken ++ [lib.path]) libs

namespace Linker

/-- A library is refused just if its path is taken. -/
theorem Reachable.add_cases {l : Linker} (h : Reachable l) (lib : Library) :
    (lib.path ∈ l.image.libraries.map (·.path) ∧
      l.add lib = ⟨l, [], .error (.duplicatePath lib.path)⟩) ∨
    (lib.path ∉ l.image.libraries.map (·.path) ∧
      l.add lib = ⟨{ l with image := l.image.push lib }, [.added lib.group lib.path],
        .ok l.image.size⟩) := by
  have hpath := Image.mem_byPath_iff h.indexed lib.path
  rcases l.add_cases lib with ⟨hold, ha⟩ | ⟨hnew, ha⟩
  · exact .inl ⟨hpath.mp hold, ha⟩
  · exact .inr ⟨fun hmem => hnew (hpath.mpr hmem), ha⟩

theorem Reachable.accepted_eq {l : Linker} (h : Reachable l) (calls : List Call) :
    l.accepted calls = untaken (l.image.libraries.map (·.path)) (asked calls) := by
  induction calls generalizing l with
  | nil => rfl
  | cons call calls ih =>
    cases call with
    | add lib =>
      have hnext := ih (h.add lib)
      rcases h.add_cases lib with ⟨hold, ha⟩ | ⟨hnew, ha⟩
      · rw [ha] at hnext
        simp only [accepted, asked, untaken, ha, if_pos hold, hnext]
      · rw [ha, Image.libraries_push, List.map_append] at hnext
        simp only [accepted, asked, untaken, ha, if_neg hnew, hnext]
        rfl
    | resolve =>
      have hlibs : l.resolve.linker.image.libraries = l.image.libraries :=
        Image.libraries_of_clearLinks (Image.clearLinks_link _ _)
      rw [accepted, asked, ih h.resolve, hlibs]

/-- Two linkers that are asked for the same libraries take in the same ones. -/
theorem accepted_of_asked {l l' : Linker} (h : Fresh l) (h' : Fresh l')
    {calls calls' : List Call} (hasked : asked calls = asked calls') :
    l.accepted calls = l'.accepted calls' := by
  rw [(Reachable.fresh h).accepted_eq, (Reachable.fresh h').accepted_eq, h.image_eq,
    h'.image_eq, hasked]

/-- But for its links, an image is known by its libraries. -/
theorem Reachable.clearLinks_eq {l : Linker} (h : Reachable l) :
    l.image.clearLinks = l.image.libraries.foldl Image.push .empty := by
  apply h.image_invariant (P := fun img => img.clearLinks = img.libraries.foldl Image.push .empty)
  · rw [Image.libraries_empty]
    simp [Image.clearLinks, Image.empty]
  · intro img lib himg _
    rw [Image.libraries_push, List.foldl_append, ← himg]
    simp [Image.clearLinks, Image.push, Image.size, Node.clear]
  · intro img fallback himg
    rw [Image.libraries_of_clearLinks (Image.clearLinks_link img fallback),
      Image.clearLinks_link, himg]

theorem link_of_libraries {l l' : Linker} (h : Reachable l) (h' : Reachable l')
    (hlibs : l.image.libraries = l'.image.libraries) (fallback : Bool) :
    l.image.link fallback = l'.image.link fallback := by
  apply Image.link_of_clearLinks
  rw [h.clearLinks_eq, h'.clearLinks_eq, hlibs]

end Linker

/-! ## What is not found -/

/-- The needed names that mean no library, as the libraries declare them. -/
def unmet (libs : List Library) : List Miss :=
  libs.flatMap fun lib =>
    (lib.elf.needed.filter fun soname => meant? libs lib.group soname = none).map (⟨lib.path, ·⟩)

/-- The warning about a needed name that means no library. -/
def Miss.warning (miss : Miss) : LogEntry := .missingNeeded miss.user miss.wanted

namespace Image

theorem missing_foldr_lookUpName (img : Image) (id : LibId) (node : Node) (names : List String) :
    (names.foldr (img.lookUpName id node) .empty).missing =
      (names.filter fun soname => img.target? node.group soname = none).map (⟨node.path, ·⟩) := by
  induction names with
  | nil => rfl
  | cons soname names ih =>
    rw [List.foldr_cons, lookUpName]
    rcases ht : img.target? node.group soname with _ | dep
    · simp [ht, ih]
    · by_cases hdep : dep = id
      · simp [ht, hdep, ih]
      · simp [ht, hdep, ih]

/-- A lookup warns of each name that it misses, and of nothing else. -/
theorem warnings_foldr_lookUpName (img : Image) (id : LibId) (node : Node)
    (names : List String) :
    (names.foldr (img.lookUpName id node) .empty).log.filter (·.level = .warn) =
      (names.foldr (img.lookUpName id node) .empty).missing.map Miss.warning := by
  induction names with
  | nil => rfl
  | cons soname names ih =>
    rw [List.foldr_cons, lookUpName]
    rcases img.target? node.group soname with _ | dep
    · simpa [LogEntry.level, Miss.warning] using ih
    · by_cases hdep : dep = id
      · simpa [hdep, LogEntry.level] using ih
      · simpa [hdep] using ih

/-- What is read off the lookups of all libraries, if it does not hang on their places. -/
theorem flatMap_lookups {α : Type} (img : Image) (f : Lookup → List α) (g : Library → List α)
    (h : ∀ id (node : Node), f (img.lookUp id node) = g node.toLibrary) :
    img.lookups.flatMap f = img.libraries.flatMap g := by
  calc img.lookups.flatMap f
      = img.nodes.toList.zipIdx.flatMap fun entry => g entry.1.toLibrary := by
        simp only [lookups, List.mapIdx_eq_zipIdx_map, List.flatMap_map, h]
    _ = (img.nodes.toList.zipIdx.map (·.1)).flatMap fun node => g node.toLibrary := by
        rw [List.flatMap_map]
    _ = img.libraries.flatMap g := by
        rw [List.zipIdx_map_fst, libraries, List.flatMap_map]

/-! ## What a linking tells -/

theorem deps_report_link {img : Image} (h : Indexed img) (fallback : Bool) :
    (img.link fallback).report.deps = unmet img.libraries := by
  have hclear := indexed_of_clearLinks h (clearLinks_clearLinks img)
  rw [← libraries_clearLinks]
  apply flatMap_lookups
  intro id node
  rw [lookUp, missing_foldr_lookUpName]
  simp only [target?_eq_meant? hclear]

theorem warnings_link (img : Image) (fallback : Bool) :
    (img.link fallback).log.filter (·.level = .warn) =
      (img.link fallback).report.deps.map Miss.warning := by
  have hlookups : ∀ lookup ∈ img.clearLinks.lookups,
      lookup.log.filter (·.level = .warn) = lookup.missing.map Miss.warning := by
    intro lookup hlookup
    obtain ⟨id, hlt, rfl⟩ := List.mem_mapIdx.mp hlookup
    exact warnings_foldr_lookUpName _ _ _ _
  have hsymbols : ∀ misses : List Miss,
      (misses.map Miss.unresolved).filter (·.level = .warn) = [] := by
    intro misses
    simp [List.filter_map, Function.comp_def, Miss.unresolved, LogEntry.level]
  have hlinked : ∀ size stats, [LogEntry.linked size stats].filter (·.level = .warn) = [] :=
    fun _ _ => rfl
  have hdeps : (img.link fallback).report.deps = img.clearLinks.lookups.flatMap (·.missing) := rfl
  rw [log_link, List.filter_append, List.filter_append, hsymbols, hlinked, List.append_nil,
    List.append_nil, List.filter_flatMap, hdeps, List.map_flatMap]
  exact List.flatMap_congr hlookups

/-- The counter of a list told node by node. -/
theorem foldl_length (f : Node → List Miss) (nodes : List Node) (n : Nat) :
    nodes.foldl (fun n node => n + (f node).length) n = n + (nodes.flatMap f).length := by
  induction nodes generalizing n with
  | nil => rfl
  | cons node nodes ih =>
    rw [List.foldl_cons, ih, List.flatMap_cons, List.length_append, Nat.add_assoc]

/-- The counters count what the report tells. -/
theorem counts_link (img : Image) (fallback : Bool) :
    (img.link fallback).report.deps.length = (img.link fallback).stats.missingDeps ∧
      (img.link fallback).report.symbols.length =
        (img.link fallback).stats.unresolvedSymbols := by
  refine ⟨rfl, ?_⟩
  have hsize : ∀ node : Node, node.misses.length = node.links.missing.size := by
    intro node
    rw [Node.misses, List.length_map, Links.unresolved, Std.ExtTreeSet.length_toList]
  have hcount := foldl_length Node.misses
  simp only [hsize] at hcount
  rw [missing_link, (counters_link img fallback).2, missingSymbols, hcount, Nat.zero_add]

end Image

namespace Linker

/-- What a linking of the image comes to, whatever the policy. -/
def linked (l : Linker) : Linked := l.image.link l.config.symbolFallback

theorem image_resolve (l : Linker) : l.resolve.linker.image = l.linked.image := rfl

theorem log_resolve (l : Linker) : l.resolve.log = l.linked.log := rfl

theorem outcome_resolve (l : Linker) :
    l.resolve.outcome =
      if l.config.policy = .lenient ∨
          (l.linked.stats.missingDeps = 0 ∧ l.linked.stats.unresolvedSymbols = 0) then
        .ok l.linked.stats
      else .error (.unresolved l.linked.report) := by
  obtain ⟨hdeps, hsymbols⟩ := Image.counts_link l.image l.config.symbolFallback
  rw [linked, ← hdeps, ← hsymbols]
  simp only [resolve, UnresolvedReport.isEmpty]
  cases l.config.policy with
  | lenient => simp
  | strict =>
    simp only [List.length_eq_zero_iff, ← List.isEmpty_iff]
    cases (l.image.link l.config.symbolFallback).report.deps.isEmpty <;>
      cases (l.image.link l.config.symbolFallback).report.symbols.isEmpty <;> simp

/-! ## The law -/

/-- The policy decides the answer and nothing else. Two linkers that are asked for the same
libraries, in runs that may link at any time, are left with the same image. The lenient one
never fails. The strict one fails just if something is missing, and tells every needed
name that means no library and every symbol without a provider, in the order of the
libraries. Both have warned of just these names, in this order. -/
theorem the_policy_decides_the_answer_only {lenient strict : Linker} (hlenient : Fresh lenient)
    (hstrict : Fresh strict) (hpolicy : lenient.config.policy = .lenient)
    (hconfig : strict.config = { lenient.config with policy := .strict })
    (calls calls' : List Call) (hasked : asked calls = asked calls') :
    ∃ image stats report,
      (lenient.after calls).resolve.linker.image = image ∧
      (strict.after calls').resolve.linker.image = image ∧
      (lenient.after calls).resolve.outcome = .ok stats ∧
      (strict.after calls').resolve.outcome =
        (if stats.missingDeps = 0 ∧ stats.unresolvedSymbols = 0 then .ok stats
          else .error (.unresolved report)) ∧
      image.libraries = lenient.accepted calls ∧
      report.deps = unmet image.libraries ∧
      report.symbols =
        image.nodes.toList.flatMap (fun node => node.links.unresolved.map (⟨node.path, ·⟩)) ∧
      (∀ node ∈ image.nodes, (∀ s, s ∈ node.links.unresolved ↔ s ∈ node.links.missing) ∧
        node.links.unresolved.Pairwise (utf8Bytes · < utf8Bytes ·)) ∧
      report.deps.length = stats.missingDeps ∧
      report.symbols.length = stats.unresolvedSymbols ∧
      (lenient.after calls).resolve.log.filter (·.level = .warn) =
        report.deps.map Miss.warning ∧
      (strict.after calls').resolve.log.filter (·.level = .warn) =
        report.deps.map Miss.warning := by
  have hreachable := (Reachable.fresh hlenient).after calls
  have hlibs : (strict.after calls').image.libraries = (lenient.after calls).image.libraries := by
    rw [hstrict.libraries_after, hlenient.libraries_after,
      accepted_of_asked hlenient hstrict hasked]
  have hlinked : (strict.after calls').linked = (lenient.after calls).linked := by
    rw [linked, linked, link_of_libraries ((Reachable.fresh hstrict).after calls') hreachable hlibs,
      config_after, config_after, hconfig]
  refine ⟨(lenient.after calls).linked.image, (lenient.after calls).linked.stats,
    (lenient.after calls).linked.report, rfl, ?_, ?_, ?_, ?_, ?_, Image.missing_link _ _, ?_, ?_,
    ?_, ?_, ?_⟩
  · rw [image_resolve, hlinked]
  · rw [outcome_resolve, config_after, hpolicy]
    simp
  · rw [outcome_resolve, hlinked, config_after, hconfig]
    simp
  · exact hlenient.libraries_resolve calls
  · rw [linked, Image.deps_report_link hreachable.indexed,
      Image.libraries_of_clearLinks (Image.clearLinks_link _ _)]
  · intro node _
    exact ⟨fun s => Std.ExtTreeSet.mem_toList, pairwise_utf8Bytes_toList _⟩
  · exact (Image.counts_link _ _).1
  · exact (Image.counts_link _ _).2
  · exact Image.warnings_link _ _
  · rw [log_resolve, hlinked]
    exact Image.warnings_link _ _

theorem the_sample_fails_under_the_strict_policy :
    Fresh .default ∧ Fresh { Linker.default with config := .strict } ∧
      asked sampleRun = asked ((asked sampleRun).map .add) ∧
      ∃ report,
        (({ Linker.default with config := .strict } : Linker).after
          ((asked sampleRun).map .add)).resolve.outcome = .error (.unresolved report) ∧
        report.deps = [⟨"/system/lib64/libring.so", "libc.so"⟩] := by
  have hstrict : Fresh { Linker.default with config := .strict } := by
    apply Fresh.ofConfig (c := .strict)
    simp [ofConfig, SpHalRules.withExtra, SpHalRules.extraRules, Except.map, Config.strict,
      Config.default, Linker.default, NdkLists.withExtra, NdkLists.builtIn]
  obtain ⟨image, stats, report, _, _, _, houtcome, hlibs, hdeps, _, _, hcount, _⟩ :=
    the_policy_decides_the_answer_only .default hstrict rfl rfl sampleRun
      ((asked sampleRun).map .add) rfl
  have hunmet : unmet (default.accepted sampleRun) =
      [⟨"/system/lib64/libring.so", "libc.so"⟩] := by
    decide +kernel
  rw [hlibs, hunmet] at hdeps
  refine ⟨.default, hstrict, rfl, report, ?_, hdeps⟩
  rw [houtcome, if_neg]
  simp [← hcount, hdeps]

end Linker

end ImageTiers
