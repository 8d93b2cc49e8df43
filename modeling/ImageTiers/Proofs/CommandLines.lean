-- Command lines. What can be read of a line is a row of items: switches, file options with the
-- word after them, and commands. The law: the reading takes one item after the other, stops
-- at the first word that starts none, and has then just what the items before it spell out.
import ImageTiers.CommandLine
import Mathlib.Tactic.SplitIfs

namespace ImageTiers

/-! ## Items -/

/-- A part of a command line that can be read. -/
inductive Item
  | file (option : FileOption) (name : String)
  | switch (switch : Switch) (name : String) (named : name ∈ switch.names)
  | command (command : Command)

namespace Item

def words : Item → List String
  | file option name => [option.name, name]
  | switch _ name _ => [name]
  | command c => [c.name]

def command? : Item → Option Command
  | command c => some c
  | _ => none

/-- The file that an item gives to an option. -/
def fileFor? (option : FileOption) : Item → Option String
  | file other name => if other = option then some name else none
  | _ => none

def turnsOn (s : Switch) : Item → Bool
  | switch other _ _ => other = s
  | _ => false

/-- A switch by its first name. -/
def ofSwitch (s : Switch) : Item :=
  switch s (s.names.head (by cases s <;> decide)) (List.head_mem _)

/-- The words of some items, one after the other. -/
def line (items : List Item) : List String := items.flatMap words

def commands (items : List Item) : List Command := items.filterMap command?

/-- The files that some items give to an option, in their order. -/
def filesFor (option : FileOption) (items : List Item) : List String :=
  items.filterMap (fileFor? option)

/-- The items make a line that is not refused. There is at most one command. Help is asked for,
or there are a command and a manifest, and a reference image for the tiers at most. -/
structure Accepted (items : List Item) : Prop where
  one_command : (commands items).length ≤ 1
  complete : items.any (turnsOn .help) ∨
    (commands items ≠ [] ∧ filesFor .manifest items ≠ [] ∧
      (filesFor .genericRefs items ≠ [] → commands items = [.spLib]))

theorem commands_append (items more : List Item) :
    commands (items ++ more) = commands items ++ commands more := List.filterMap_append

theorem filesFor_append (option : FileOption) (items more : List Item) :
    filesFor option (items ++ more) = filesFor option items ++ filesFor option more :=
  List.filterMap_append

end Item

open Item (line commands filesFor)

/-- The word that a line is refused for, if it is for one. -/
def UsageError.word? : UsageError → Option String
  | needsValue word => some word
  | unknownOption word => some word
  | unexpectedArgument word => some word
  | unknownCommand word => some word
  | noCommand | manifestRequired | genericRefsNotApplicable => none

/-! ## Names -/

@[simp] theorem FileOption.ofName?_name (option : FileOption) :
    ofName? option.name = some option := by
  cases option <;> decide

theorem FileOption.name_of_ofName? {word : String} {option : FileOption}
    (h : ofName? word = some option) : word = option.name := by
  simpa [eq_comm] using List.find?_some h

theorem FileOption.ofName?_eq_none_iff {word : String} :
    ofName? word = none ↔ ∀ option : FileOption, word ≠ option.name := by
  constructor
  · rintro h option rfl
    simp at h
  · intro h
    cases hword : ofName? word with
    | none => rfl
    | some option => exact absurd (name_of_ofName? hword) (h option)

theorem Switch.ofName?_of_mem {s : Switch} {name : String} (named : name ∈ s.names) :
    ofName? name = some s ∧ FileOption.ofName? name = none := by
  revert name
  cases s <;> decide

theorem Switch.mem_of_ofName? {word : String} {s : Switch} (h : ofName? word = some s) :
    word ∈ s.names := by
  simpa using List.find?_some h

theorem Switch.ofName?_eq_none_iff {word : String} :
    ofName? word = none ↔ ∀ s : Switch, word ∉ s.names := by
  constructor
  · intro h s named
    simp [(ofName?_of_mem named).1] at h
  · intro h
    cases hword : ofName? word with
    | none => rfl
    | some s => exact absurd (mem_of_ofName? hword) (h s)

/-- A command is no option, and does not look like one. -/
theorem Command.ofName?_name (c : Command) :
    ofName? c.name = some c ∧ FileOption.ofName? c.name = none ∧
      Switch.ofName? c.name = none ∧ c.name.toList.head? ≠ some '-' := by
  cases c <;> decide

theorem Command.name_of_ofName? {word : String} {c : Command} (h : ofName? word = some c) :
    word = c.name := by
  simpa [eq_comm] using List.find?_some h

theorem Command.ofName?_eq_none_iff {word : String} :
    ofName? word = none ↔ ∀ c : Command, word ≠ c.name := by
  constructor
  · rintro h c rfl
    simp [(ofName?_name c).1] at h
  · intro h
    cases hword : ofName? word with
    | none => rfl
    | some c => exact absurd (name_of_ofName? hword) (h c)

/-! ## What items spell out -/

namespace Invocation

def file? (inv : Invocation) : FileOption → Option String
  | .manifest => inv.manifest
  | .config => inv.config
  | .genericRefs => inv.genericRefs

def isOn (inv : Invocation) : Switch → Bool
  | .strict => inv.strict
  | .json => inv.json
  | .verbose => inv.verbose
  | .help => inv.help

/-- The items ask for just this: for its command, for each option the last file that it is
given, and for the switches that are on. -/
structure SpelledBy (inv : Invocation) (items : List Item) : Prop where
  command_eq : commands items = inv.command.toList
  file_eq : ∀ option, (filesFor option items).getLast? = inv.file? option
  isOn_eq : ∀ s, items.any (Item.turnsOn s) = inv.isOn s

/-- The same items spell out one invocation only. -/
theorem SpelledBy.eq {inv inv' : Invocation} {items : List Item} (h : inv.SpelledBy items)
    (h' : inv'.SpelledBy items) : inv = inv' := by
  have hcommand : inv.command = inv'.command := by
    rw [← Option.head?_toList (o := inv.command), ← h.command_eq, h'.command_eq,
      Option.head?_toList]
  have hfile : ∀ option, inv.file? option = inv'.file? option := by
    intro option
    rw [← h.file_eq, h'.file_eq]
  have hswitch : ∀ s, inv.isOn s = inv'.isOn s := by
    intro s
    rw [← h.isOn_eq, h'.isOn_eq]
  obtain ⟨command, manifest, config, genericRefs, strict, json, verbose, help⟩ := inv
  obtain ⟨command', manifest', config', genericRefs', strict', json', verbose', help'⟩ := inv'
  simp only [mk.injEq]
  exact ⟨hcommand, hfile .manifest, hfile .config, hfile .genericRefs, hswitch .strict,
    hswitch .json, hswitch .verbose, hswitch .help⟩

theorem spelledBy_empty : empty.SpelledBy [] where
  command_eq := rfl
  file_eq option := by cases option <;> rfl
  isOn_eq s := by cases s <;> rfl

/-- The invocation after one more item. -/
def after (inv : Invocation) : Item → Invocation
  | .file option name => inv.setFile name option
  | .switch s _ _ => inv.turnOn s
  | .command c => { inv with command := some c }

variable {inv : Invocation} {items : List Item}

theorem command_after (item : Item) :
    (inv.after item).command = item.command?.or inv.command := by
  cases item with
  | file option name => cases option <;> rfl
  | switch s name named => cases s <;> rfl
  | command c => rfl

theorem file?_after (item : Item) (option : FileOption) :
    (inv.after item).file? option = (item.fileFor? option).or (inv.file? option) := by
  cases item with
  | file other name => cases other <;> cases option <;> rfl
  | switch s name named => cases s <;> cases option <;> rfl
  | command c => cases option <;> rfl

theorem isOn_after (item : Item) (s : Switch) :
    (inv.after item).isOn s = (inv.isOn s || item.turnsOn s) := by
  cases item with
  | file option name => cases option <;> cases s <;> simp [after, setFile, isOn, Item.turnsOn]
  | switch other name named => cases other <;> cases s <;> simp [after, turnOn, isOn, Item.turnsOn]
  | command c => cases s <;> simp [after, isOn, Item.turnsOn]

/-- One more item, unless it is a second command. -/
theorem SpelledBy.after (h : inv.SpelledBy items) (item : Item)
    (hone : item.command? = none ∨ inv.command = none) :
    (inv.after item).SpelledBy (items ++ [item]) := by
  refine ⟨?_, ?_, ?_⟩
  · rw [Item.commands_append, h.command_eq, command_after]
    rcases hone with hnone | hnone
    · simp [commands, hnone]
    · cases hcommand : item.command? <;> simp [commands, hcommand, hnone]
  · intro option
    rw [Item.filesFor_append, List.getLast?_append, h.file_eq, file?_after]
    cases hfile : item.fileFor? option <;> simp [filesFor, hfile]
  · intro s
    rw [List.any_append, h.isOn_eq, isOn_after, List.any_cons, List.any_nil, Bool.or_false]

/-! ## Reading -/

/-- No item starts with `word` where `rest` follows it and `command` is the one that was read
before, if there was one. -/
inductive Stops (command : Option Command) (word : String) (rest : List String) :
    UsageError → Prop
  | needsValue (option : FileOption) (hword : word = option.name) (hrest : rest = []) :
    Stops command word rest (.needsValue word)
  | unknownOption (hdash : word.toList.head? = some '-')
    (hfile : ∀ option : FileOption, word ≠ option.name) (hswitch : ∀ s : Switch, word ∉ s.names) :
    Stops command word rest (.unknownOption word)
  | unexpectedArgument (hdash : word.toList.head? ≠ some '-') (hsecond : command ≠ none) :
    Stops command word rest (.unexpectedArgument word)
  | unknownCommand (hdash : word.toList.head? ≠ some '-') (hfirst : command = none)
    (hname : ∀ c : Command, word ≠ c.name) : Stops command word rest (.unknownCommand word)

/-- How the reading of a line ends after some items: no word is left, or one stops it. -/
inductive Ends (command : Option Command) (words : List String) (items : List Item) :
    Option UsageError → Prop
  | finished (hwords : words = line items) : Ends command words items none
  | stopped {word : String} {rest : List String} {e : UsageError}
    (hwords : words = line items ++ word :: rest) (hstops : Stops command word rest e) :
    Ends command words items (some e)

theorem scan_item {item : Item} (hone : item.command? = none ∨ inv.command = none)
    (rest : List String) : scan inv (item.words ++ rest) = scan (inv.after item) rest := by
  cases item with
  | file option name => simp [Item.words, scan, Invocation.after]
  | switch s name named =>
    obtain ⟨hswitch, hfile⟩ := Switch.ofName?_of_mem named
    simp [Item.words, scan, hswitch, hfile, Invocation.after]
  | command c =>
    obtain ⟨hname, hfile, hswitch, hdash⟩ := Command.ofName?_name c
    have hnone : inv.command = none := hone.resolve_left (by simp [Item.command?])
    simp [Item.words, scan, hname, hfile, hswitch, hdash, hnone, Invocation.after]

/-- A word that does not start with a dash is no option. -/
theorem not_option {word : String} (hdash : word.toList.head? ≠ some '-') :
    FileOption.ofName? word = none ∧ Switch.ofName? word = none := by
  rw [FileOption.ofName?_eq_none_iff, Switch.ofName?_eq_none_iff]
  refine ⟨?_, ?_⟩
  · rintro option rfl
    cases option <;> exact hdash (by decide)
  · intro s named
    have hnames : ∀ name ∈ s.names, name.toList.head? = some '-' := by cases s <;> decide
    exact hdash (hnames word named)

theorem scan_of_stops {word : String} {rest : List String} {e : UsageError}
    (h : Stops inv.command word rest e) : scan inv (word :: rest) = (inv, some e) := by
  cases h with
  | needsValue option hword hrest => simp [scan, hword, hrest]
  | unknownOption hdash hfile hswitch =>
    simp [scan, FileOption.ofName?_eq_none_iff.mpr hfile, Switch.ofName?_eq_none_iff.mpr hswitch,
      hdash]
  | unexpectedArgument hdash hsecond =>
    obtain ⟨hfile, hswitch⟩ := not_option hdash
    simp [scan, hfile, hswitch, hdash, Option.isSome_iff_ne_none.mpr hsecond]
  | unknownCommand hdash hfirst hname =>
    obtain ⟨hfile, hswitch⟩ := not_option hdash
    simp [scan, hfile, hswitch, hdash, hfirst, Command.ofName?_eq_none_iff.mpr hname]

/-- The words of items are read one item after the other, up to what comes after them. -/
theorem exists_scan_line {before : List Item} (h : inv.SpelledBy before) :
    ∀ items : List Item, (commands (before ++ items)).length ≤ 1 →
      ∃ inv' : Invocation, inv'.SpelledBy (before ++ items) ∧
        ∀ rest, scan inv (line items ++ rest) = scan inv' rest := by
  intro items
  induction items generalizing inv before with
  | nil =>
    intro _
    exact ⟨inv, by simpa using h, fun rest => rfl⟩
  | cons item items ih =>
    intro hone
    have hfits : item.command? = none ∨ inv.command = none := by
      rw [Item.commands_append, h.command_eq] at hone
      cases hitem : item.command? with
      | none => exact .inl rfl
      | some c =>
        right
        cases hcommand : inv.command with
        | none => rfl
        | some c' => simp [hcommand, commands, hitem] at hone
    rw [List.append_cons] at hone
    obtain ⟨inv', hspelled, hscan⟩ := ih (h.after item hfits) hone
    refine ⟨inv', by rwa [List.append_cons], ?_⟩
    intro rest
    rw [line, List.flatMap_cons, List.append_assoc, scan_item hfits]
    exact hscan rest

/-- After some items, the words give this invocation and this outcome: they are more items, and
then they are at an end or one of them stops the reading. -/
def ReadAfter (before : List Item) (words : List String) (read : Invocation × Option UsageError) :
    Prop :=
  ∃ items, read.1.SpelledBy (before ++ items) ∧ Ends read.1.command words items read.2

theorem ReadAfter.of_ends {before : List Item} (h : inv.SpelledBy before) {words : List String}
    {problem : Option UsageError} (hends : Ends inv.command words [] problem) :
    ReadAfter before words (inv, problem) :=
  ⟨[], by simpa using h, hends⟩

theorem ReadAfter.cons {before : List Item} {item : Item} {words : List String}
    {read : Invocation × Option UsageError} (h : ReadAfter (before ++ [item]) words read) :
    ReadAfter before (item.words ++ words) read := by
  obtain ⟨inv, problem⟩ := read
  obtain ⟨items, hspelled, hends⟩ := h
  refine ⟨item :: items, by rwa [List.append_cons], ?_⟩
  cases hends with
  | finished hwords => exact .finished (by rw [hwords]; rfl)
  | stopped hwords hstops =>
    refine .stopped ?_ hstops
    rw [hwords, line, line, List.flatMap_cons, List.append_assoc]

theorem reads_scan (inv : Invocation) (words : List String) {before : List Item}
    (h : inv.SpelledBy before) : ReadAfter before words (scan inv words) := by
  fun_induction scan inv words generalizing before with
  | case1 inv => exact .of_ends h (.finished rfl)
  | case2 inv word option hfile =>
    exact .of_ends h (.stopped rfl (.needsValue option (FileOption.name_of_ofName? hfile) rfl))
  | case3 inv word option hfile name words ih =>
    rw [FileOption.name_of_ofName? hfile]
    exact (ih (h.after (.file option name) (.inl rfl))).cons
  | case4 inv word words hfile s hswitch ih =>
    have named := Switch.mem_of_ofName? hswitch
    exact (ih (h.after (.switch s word named) (.inl rfl))).cons
  | case5 inv word words hfile hswitch hdash =>
    exact .of_ends h (.stopped rfl (.unknownOption hdash (FileOption.ofName?_eq_none_iff.mp hfile)
      (Switch.ofName?_eq_none_iff.mp hswitch)))
  | case6 inv word words hfile hswitch hdash hsecond =>
    exact .of_ends h (.stopped rfl (.unexpectedArgument hdash
      (Option.isSome_iff_ne_none.mp hsecond)))
  | case7 inv word words hfile hswitch hdash hfirst c hname ih =>
    rw [Command.name_of_ofName? hname]
    exact (ih (h.after (.command c) (.inr (by simpa using hfirst)))).cons
  | case8 inv word words hfile hswitch hdash hfirst hname =>
    exact .of_ends h (.stopped rfl (.unknownCommand hdash (by simpa using hfirst)
      (Command.ofName?_eq_none_iff.mp hname)))

theorem length_commands_le (h : inv.SpelledBy items) : (commands items).length ≤ 1 := by
  rw [h.command_eq]
  cases inv.command <;> simp

/-- The reading of a line gives what its items spell out, and ends as they do. -/
theorem scan_eq_iff {words : List String} {problem : Option UsageError} :
    scan empty words = (inv, problem) ↔
      ∃ items, inv.SpelledBy items ∧ Ends inv.command words items problem := by
  constructor
  · intro hscan
    have hreads := reads_scan empty words spelledBy_empty
    rwa [hscan] at hreads
  · rintro ⟨items, hspelled, hends⟩
    obtain ⟨inv', hspelled', hscan⟩ := exists_scan_line spelledBy_empty items
      (length_commands_le hspelled)
    obtain rfl := hspelled'.eq hspelled
    cases hends with
    | finished hwords =>
      have hline := hscan []
      rwa [List.append_nil, ← hwords] at hline
    | stopped hwords hstops => rw [hwords, hscan, scan_of_stops hstops]

/-! ## Lines that are accepted -/

/-- The invocation asks for help, or it has a command and a manifest, and a reference image for
the tiers at most. -/
def Complete (inv : Invocation) : Prop :=
  inv.help = true ∨ (inv.command ≠ none ∧ inv.manifest ≠ none ∧
    (inv.genericRefs ≠ none → inv.command = some .spLib))

theorem problem?_eq_none_iff : inv.problem? = none ↔ inv.Complete := by
  obtain ⟨command, manifest, config, genericRefs, strict, json, verbose, help⟩ := inv
  cases help <;> cases command <;> cases manifest <;> cases genericRefs <;>
    simp [problem?, Complete]

theorem SpelledBy.filesFor_ne_nil (h : inv.SpelledBy items) (option : FileOption) :
    filesFor option items ≠ [] ↔ inv.file? option ≠ none := by
  rw [← h.file_eq, ne_eq, ne_eq, List.getLast?_eq_none_iff]

theorem SpelledBy.commands_ne_nil (h : inv.SpelledBy items) :
    commands items ≠ [] ↔ inv.command ≠ none := by
  rw [h.command_eq]
  cases inv.command <;> simp

theorem SpelledBy.accepted_iff (h : inv.SpelledBy items) :
    Item.Accepted items ↔ inv.Complete := by
  have hcommand : commands items = [.spLib] ↔ inv.command = some .spLib := by
    rw [h.command_eq]
    cases inv.command <;> simp
  have hcomplete : (items.any (Item.turnsOn .help) ∨ (commands items ≠ [] ∧
      filesFor .manifest items ≠ [] ∧ (filesFor .genericRefs items ≠ [] →
        commands items = [.spLib]))) ↔ inv.Complete := by
    rw [h.isOn_eq, h.commands_ne_nil, h.filesFor_ne_nil, h.filesFor_ne_nil, hcommand]
    rfl
  exact ⟨fun haccepted => hcomplete.mp haccepted.complete,
    fun hinv => ⟨length_commands_le h, hcomplete.mpr hinv⟩⟩

theorem exists_spelledBy (h : (commands items).length ≤ 1) :
    ∃ inv : Invocation, inv.SpelledBy items := by
  obtain ⟨inv, hspelled, _⟩ := exists_scan_line spelledBy_empty items h
  exact ⟨inv, hspelled⟩

/-- Nothing but items: what they spell out, and what is wrong with it. -/
theorem SpelledBy.parse_line (h : inv.SpelledBy items) :
    parse (line items) = (inv, inv.problem?) := by
  have hscan : scan empty (line items) = (inv, none) := scan_eq_iff.mpr ⟨items, h, .finished rfl⟩
  rw [parse, hscan]

/-! ## The items of an invocation -/

/-- Each thing that an invocation asks for, once. -/
def spelling (inv : Invocation) : List Item :=
  inv.command.toList.map .command ++
    FileOption.all.filterMap (fun option => (inv.file? option).map (.file option)) ++
    (Switch.all.filter inv.isOn).map .ofSwitch

theorem commands_spelling (inv : Invocation) : commands inv.spelling = inv.command.toList := by
  have hfiles : commands (FileOption.all.filterMap fun option =>
      (inv.file? option).map (.file option)) = [] := by
    simp [commands, List.filterMap_filterMap, Item.command?]
  have hswitches : commands ((Switch.all.filter inv.isOn).map .ofSwitch) = [] := by
    simp [commands, List.filterMap_map, Item.command?, Item.ofSwitch]
  rw [spelling, Item.commands_append, Item.commands_append, hfiles, hswitches]
  cases inv.command <;> rfl

theorem filesFor_spelling (inv : Invocation) (option : FileOption) :
    filesFor option inv.spelling = (inv.file? option).toList := by
  have hcommand : filesFor option (inv.command.toList.map .command) = [] := by
    cases inv.command <;> rfl
  have hfiles : filesFor option (FileOption.all.filterMap fun other =>
      (inv.file? other).map (.file other)) = (inv.file? option).toList := by
    have hfun : (fun other => ((inv.file? other).map (Item.file other)).bind
        (Item.fileFor? option)) =
          fun other => if other = option then inv.file? other else none := by
      funext other
      by_cases heq : other = option <;> cases inv.file? other <;> simp [Item.fileFor?, heq]
    rw [filesFor, List.filterMap_filterMap, hfun]
    cases option <;> cases hfile : inv.file? _ <;> simp [FileOption.all, hfile]
  have hswitches : filesFor option ((Switch.all.filter inv.isOn).map .ofSwitch) = [] := by
    simp [filesFor, List.filterMap_map, Item.fileFor?, Item.ofSwitch]
  rw [spelling, Item.filesFor_append, Item.filesFor_append, hcommand, hfiles, hswitches]
  simp

theorem any_turnsOn_spelling (inv : Invocation) (s : Switch) :
    inv.spelling.any (Item.turnsOn s) = inv.isOn s := by
  have hcommand : (inv.command.toList.map Item.command).any (Item.turnsOn s) = false := by
    simp [Item.turnsOn]
  have hfiles : (FileOption.all.filterMap fun option =>
      (inv.file? option).map (Item.file option)).any (Item.turnsOn s) = false := by
    rw [List.any_filterMap, List.any_eq_false]
    intro option _
    cases inv.file? option <;> simp [Item.turnsOn]
  have hall : s ∈ Switch.all := by cases s <;> decide
  rw [spelling, List.any_append, List.any_append, hcommand, hfiles, Bool.false_or, Bool.false_or,
    Bool.eq_iff_iff]
  simp [Item.turnsOn, Item.ofSwitch, hall]

/-- In whatever order, what an invocation asks for spells it out. -/
theorem spelledBy_of_perm {items : List Item} (h : items.Perm inv.spelling) :
    inv.SpelledBy items := by
  have hone : ∀ {α : Type} {l : List α} {o : Option α}, l.Perm o.toList → l = o.toList := by
    intro α l o hperm
    cases o with
    | none => exact List.perm_nil.mp hperm
    | some a => exact List.perm_singleton.mp hperm
  refine ⟨?_, ?_, ?_⟩
  · exact hone (commands_spelling inv ▸ h.filterMap Item.command?)
  · intro option
    have hfiles : (filesFor option items).Perm (inv.file? option).toList := by
      rw [← filesFor_spelling]
      exact h.filterMap _
    rw [hone hfiles]
    cases inv.file? option <;> rfl
  · intro s
    rw [h.any_eq, any_turnsOn_spelling]

/-! ## The law -/

theorem Stops.word?_eq {command : Option Command} {word : String} {rest : List String}
    {e : UsageError} (h : Stops command word rest e) : e.word? = some word := by
  cases h <;> rfl

theorem word?_of_problem? {e : UsageError} (h : inv.problem? = some e) : e.word? = none := by
  unfold problem? at h
  split_ifs at h <;> cases h <;> rfl

/-- The reading is stopped by a word, or it takes all words as items. -/
theorem parse_cases (words : List String) :
    (∃ e word, (parse words).2 = some e ∧ e.word? = some word ∧
      ∃ items rest, words = line items ++ word :: rest ∧ (parse words).1.SpelledBy items ∧
        Stops (parse words).1.command word rest e) ∨
    ((parse words).2 = (parse words).1.problem? ∧
      ∃ items, words = line items ∧ (parse words).1.SpelledBy items) := by
  obtain ⟨items, hspelled, hends⟩ := reads_scan empty words spelledBy_empty
  rw [parse]
  generalize scan empty words = read at hspelled hends ⊢
  obtain ⟨inv, problem⟩ := read
  cases hends with
  | finished hwords => exact .inr ⟨rfl, items, hwords, hspelled⟩
  | stopped hwords hstops =>
    exact .inl ⟨_, _, rfl, hstops.word?_eq, items, _, hwords, hspelled, hstops⟩

/-- A line is read item by item. It is not refused just if it is made of items with at most one
command, and they ask for help or lack nothing. A line of items is read as what they spell out,
refused or not. A line is refused for a word just if the words before it are items, and no item
starts with it there; what is read then is what those items spell out. It is refused for what it
lacks just if it is made of items that are not accepted. So an invocation that lacks nothing
is read back from all items that spell it out, and from its own items in any order. -/
theorem a_line_is_read_item_by_item (words : List String) :
    ((parse words).2 = none ↔ ∃ items, words = line items ∧ Item.Accepted items) ∧
    (∀ items, words = line items → (commands items).length ≤ 1 →
      (parse words).1.SpelledBy items) ∧
    (∀ inv e word, (parse words = (inv, some e) ∧ e.word? = some word) ↔
      ∃ items rest, words = line items ++ word :: rest ∧ inv.SpelledBy items ∧
        Stops inv.command word rest e) ∧
    ((∃ e, (parse words).2 = some e ∧ e.word? = none) ↔
      ∃ items, words = line items ∧ (commands items).length ≤ 1 ∧ ¬ Item.Accepted items) ∧
    (∀ inv items, inv.Complete → inv.SpelledBy items → words = line items →
      parse words = (inv, none)) ∧
    (∀ inv items, inv.Complete → items.Perm inv.spelling → words = line items →
      parse words = (inv, none)) := by
  have hline : ∀ items, words = line items → (commands items).length ≤ 1 →
      (parse words).1.SpelledBy items ∧ (parse words).2 = (parse words).1.problem? := by
    rintro items rfl hone
    obtain ⟨inv, hspelled⟩ := exists_spelledBy hone
    rw [hspelled.parse_line]
    exact ⟨hspelled, rfl⟩
  have hback : ∀ inv items, inv.Complete → inv.SpelledBy items → words = line items →
      parse words = (inv, none) := by
    rintro inv items hinv hspelled rfl
    rw [hspelled.parse_line, problem?_eq_none_iff.mpr hinv]
  refine ⟨⟨?_, ?_⟩, ?_, ?_, ⟨?_, ?_⟩, hback, ?_⟩
  · intro hnone
    rcases parse_cases words with ⟨e, _, he, _⟩ | ⟨hproblem, items, hwords, hspelled⟩
    · rw [hnone] at he
      cases he
    · rw [hnone] at hproblem
      exact ⟨items, hwords, hspelled.accepted_iff.mpr (problem?_eq_none_iff.mp hproblem.symm)⟩
  · rintro ⟨items, hwords, haccepted⟩
    obtain ⟨hspelled, hproblem⟩ := hline items hwords haccepted.one_command
    rw [hproblem]
    exact problem?_eq_none_iff.mpr (hspelled.accepted_iff.mp haccepted)
  · exact fun items hwords hone => (hline items hwords hone).1
  · intro inv e word
    constructor
    · rintro ⟨hparse, hword⟩
      rcases parse_cases words with ⟨e', word', he, hword', items, rest, hwords, hspelled, hstops⟩ |
        ⟨hproblem, _⟩
      · rw [hparse] at he hspelled hstops
        cases he
        cases hword.symm.trans hword'
        exact ⟨items, rest, hwords, hspelled, hstops⟩
      · rw [hparse] at hproblem
        rw [word?_of_problem? hproblem.symm] at hword
        cases hword
    · rintro ⟨items, rest, hwords, hspelled, hstops⟩
      have hscan := scan_eq_iff.mpr ⟨items, hspelled, .stopped hwords hstops⟩
      exact ⟨by rw [parse, hscan], hstops.word?_eq⟩
  · rintro ⟨e, he, hword⟩
    rcases parse_cases words with ⟨e', word', he', hword', _⟩ | ⟨hproblem, items, hwords, hspelled⟩
    · rw [he] at he'
      cases he'
      rw [hword] at hword'
      cases hword'
    · refine ⟨items, hwords, length_commands_le hspelled, ?_⟩
      rw [hspelled.accepted_iff, ← problem?_eq_none_iff, ← hproblem, he]
      simp
  · rintro ⟨items, hwords, hone, hnot⟩
    obtain ⟨hspelled, hproblem⟩ := hline items hwords hone
    rw [hspelled.accepted_iff, ← problem?_eq_none_iff] at hnot
    obtain ⟨e, he⟩ := Option.ne_none_iff_exists'.mp hnot
    exact ⟨e, hproblem.trans he, word?_of_problem? he⟩
  · exact fun inv items hinv hperm => hback inv items hinv (spelledBy_of_perm hperm)

/-- Help is asked for, and an option takes a word that looks like another one. Then comes a word
that nobody knows. -/
theorem an_unknown_option_stops_a_line_that_asks_for_help :
    parse ["-h", "--manifest", "--json", "--bogus", "deps"] =
      ({ empty with manifest := some "--json", help := true }, some (.unknownOption "--bogus")) ∧
    parse ["-v", "--generic-refs", "r", "sp-lib", "--manifest", "m"] =
      ({ empty with
          command := some .spLib, manifest := some "m", genericRefs := some "r", verbose := true },
        none) := by
  constructor
  · obtain ⟨_, _, hstopped, _⟩ :=
      a_line_is_read_item_by_item ["-h", "--manifest", "--json", "--bogus", "deps"]
    refine ((hstopped _ _ _).mpr ⟨[.switch .help "-h" (by decide), .file .manifest "--json"],
      ["deps"], rfl, ⟨rfl, ?_, ?_⟩, .unknownOption (by decide) ?_ ?_⟩).1
    · intro option
      cases option <;> rfl
    · intro s
      cases s <;> rfl
    · intro option
      cases option <;> decide
    · intro s
      cases s <;> decide
  · obtain ⟨_, _, _, _, hback, _⟩ := a_line_is_read_item_by_item
      ["-v", "--generic-refs", "r", "sp-lib", "--manifest", "m"]
    refine hback _ [.switch .verbose "-v" (by decide), .file .genericRefs "r", .command .spLib,
      .file .manifest "m"] (.inr (by simp)) ⟨rfl, ?_, ?_⟩ rfl
    · intro option
      cases option <;> rfl
    · intro s
      cases s <;> rfl

end Invocation

end ImageTiers
