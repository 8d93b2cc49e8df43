-- Printed JSON. Both printed forms of a value are texts of the grammar, so what is printed is
-- read back, whatever its strings hold, and nothing is left over. The laws go from the
-- characters of a string to strings, and from these to arrays and objects.
import ImageTiers.Json.Value
import ImageTiers.Proofs.JsonGrammar

namespace ImageTiers.Json

/-! ## Drafts of values -/

mutual

/-- The draft of a value, as the reader should come to it. -/
def draft : Json → Draft
  | bool b => .bool b
  | string s => .string (some s)
  | array items => .array (itemDrafts items) .closed
  | object members => .object (memberDrafts members) .closed

def itemDrafts : List Json → List Draft
  | [] => []
  | i :: is => i.draft :: itemDrafts is

def memberDrafts : List (String × Json) → List Member
  | [] => []
  | (k, v) :: ms => (some k, v.draft) :: memberDrafts ms

end

theorem itemDrafts_eq (items : List Json) : itemDrafts items = items.map draft := by
  induction items with
  | nil => rfl
  | cons i is ih => rw [itemDrafts, ih, List.map_cons]

theorem memberDrafts_eq (members : List (String × Json)) :
    memberDrafts members = members.map fun (k, v) => (some k, v.draft) := by
  induction members with
  | nil => rfl
  | cons m ms ih => rw [memberDrafts, ih, List.map_cons]

/-! ## Strings -/

/-- A control character that has no escape of its own is written by its number. -/
theorem hexNumber?_control : ∀ n < 32,
    hexNumber? ['0', '0', hexDigit (n / 16), hexDigit (n % 16)] = some n := by decide

/-- An escaped character is one place of a string, and it names the character. -/
theorem spellsPlaces_escape (c : Char) : ∃ u,
    (∀ us cs, SpellsPlaces us cs → SpellsPlaces (u :: us) (escape c ++ cs)) ∧
    ∀ before us, joinHalves before (u :: us) = joinHalves (c :: before) us := by
  unfold escape
  split
  -- A character without an escape of its own is a control character, written by its number,
  -- or it stands for itself.
  case h_8 hquote hslash _ _ _ _ _ =>
    split
    · rename_i hcontrol
      have hlt : c.toNat < 32 := hcontrol
      refine ⟨.unit c.toNat, fun us cs h => .unit (hexNumber?_control c.toNat hlt) h, ?_⟩
      intro before us
      rw [joinHalves.eq_def]
      simp only [show c.toNat < 0xD800 by omega, true_or, if_true, Char.ofNat_toNat]
    · rename_i hplain
      exact ⟨.char c, fun us cs h => .plain hquote hslash hplain h, fun _ _ => rfl⟩
  all_goals exact ⟨.char _, fun us cs h => .escaped rfl h, fun _ _ => rfl⟩

theorem spellsPlaces_flatMap_escape (cs : List Char) : ∃ us, SpellsPlaces us (cs.flatMap escape) ∧
    ∀ before, joinHalves before us = some (before.reverse ++ cs) := by
  induction cs with
  | nil => exact ⟨[], .nil, by simp [joinHalves]⟩
  | cons c cs ih =>
    obtain ⟨us, hspells, hjoin⟩ := ih
    obtain ⟨u, hu, hjoin'⟩ := spellsPlaces_escape c
    refine ⟨u :: us, hu us _ hspells, fun before => ?_⟩
    rw [hjoin', hjoin]
    simp

theorem spellsToken_quote (s : String) : SpellsToken (.string (some s)) (quote s).toList := by
  obtain ⟨us, hspells, hjoin⟩ := spellsPlaces_flatMap_escape s.toList
  have htoken := SpellsToken.string hspells
  rw [hjoin] at htoken
  simpa [quote, String.toList_append] using htoken

/-! ## Rows of tokens -/

/-- The characters spell the tokens, whatever is spelled after them. -/
def Prints (ts : List Token) (cs : List Char) : Prop :=
  ∀ ts' cs', Spells ts' cs' → Spells (ts ++ ts') (cs ++ cs')

theorem prints_nil : Prints [] [] := fun _ _ h => h

theorem Prints.append {ts ts' : List Token} {cs cs' : List Char} (h : Prints ts cs)
    (h' : Prints ts' cs') : Prints (ts ++ ts') (cs ++ cs') := by
  intro us ds hspells
  rw [List.append_assoc, List.append_assoc]
  exact h _ _ (h' _ _ hspells)

theorem prints_blank {c : Char} (hc : isBlank c = true) : Prints [] [c] :=
  fun _ _ hspells => .blank hc hspells

/-- Only a number could be changed by what comes after it. -/
theorem prints_token {t : Token} {word : List Char} (h : SpellsToken t word)
    (ht : ∀ rest, t.EndsBefore rest) : Prints [t] word :=
  fun _ rest hspells => .token h (ht rest) hspells

theorem prints_quote (s : String) : Prints [.string (some s)] (quote s).toList :=
  prints_token (spellsToken_quote s) fun _ => trivial

theorem prints_newLine (level : Nat) : Prints [] (newLine level).toList := by
  have hspaces : ∀ n, Prints [] (List.replicate n ' ') := by
    intro n
    induction n with
    | zero => exact prints_nil
    | succ n ih => exact (prints_blank rfl).append ih
  have hline : (newLine level).toList = ['\n'] ++ List.replicate (2 * level) ' ' := by
    simp [newLine, String.toList_append]
  rw [hline]
  exact (prints_blank rfl).append (hspaces (2 * level))

/-- Words with a comma between two of them. -/
theorem prints_intercalate {α : Type} {tokens : α → List Token} {word : α → String} {as : List α}
    {sep : String} (hsep : Prints [.comma] sep.toList)
    (h : ∀ a ∈ as, Prints (tokens a) (word a).toList) :
    Prints ([Token.comma].intercalate (as.map tokens)) (sep.intercalate (as.map word)).toList := by
  rw [String.toList_intercalate, List.map_map]
  induction as with
  | nil => exact prints_nil
  | cons a as ih =>
    have ha := h a List.mem_cons_self
    have has := ih fun b hb => h b (List.mem_cons_of_mem _ hb)
    cases as with
    | nil => simpa using ha
    | cons b as => simpa [List.intercalate_cons_cons] using (ha.append hsep).append has

/-! ## Values -/

/-- An array with blanks after its opening bracket and before its closing one. -/
theorem prints_array {items : List Json} {word : Json → String} {first sep last : String}
    (hfirst : Prints [] first.toList) (hsep : Prints [.comma] sep.toList)
    (hlast : Prints [] last.toList) (h : ∀ i ∈ items, Prints i.draft.tokens (word i).toList) :
    Prints (array items).draft.tokens
      ("[" ++ first ++ sep.intercalate (items.map word) ++ last ++ "]").toList := by
  have htokens : Draft.itemTokens (itemDrafts items) = items.map (·.draft.tokens) := by
    rw [itemDrafts_eq]
    induction items with
    | nil => rfl
    | cons i is ih =>
      rw [List.map_cons, Draft.itemTokens, List.map_cons,
        ih fun j hj => h j (List.mem_cons_of_mem _ hj)]
  have hopen : Prints [Token.openArray] ['['] := prints_token .openArray fun _ => trivial
  have hclose : Prints [Token.closeArray] [']'] := prints_token .closeArray fun _ => trivial
  have hall :=
    (((hopen.append hfirst).append (prints_intercalate hsep h)).append hlast).append hclose
  rw [draft, Draft.tokens, htokens]
  simpa [String.toList_append] using hall

/-- An object with blanks after its opening bracket and before its closing one, and with
blanks after its colons. -/
theorem prints_object {members : List (String × Json)} {word : Json → String}
    {first sep colon last : String} (hfirst : Prints [] first.toList)
    (hsep : Prints [.comma] sep.toList) (hcolon : Prints [.colon] colon.toList)
    (hlast : Prints [] last.toList)
    (h : ∀ m ∈ members, Prints m.2.draft.tokens (word m.2).toList) :
    Prints (object members).draft.tokens
      ("\x7b" ++ first ++ sep.intercalate (members.map fun m => quote m.1 ++ colon ++ word m.2) ++
        last ++ "\x7d").toList := by
  have htokens : Draft.memberTokens (memberDrafts members) =
      members.map fun m => Token.string (some m.1) :: .colon :: m.2.draft.tokens := by
    rw [memberDrafts_eq]
    induction members with
    | nil => rfl
    | cons m ms ih =>
      rw [List.map_cons, Draft.memberTokens, List.map_cons,
        ih fun m' hm' => h m' (List.mem_cons_of_mem _ hm')]
  have hmember : ∀ m ∈ members, Prints (Token.string (some m.1) :: .colon :: m.2.draft.tokens)
      (quote m.1 ++ colon ++ word m.2).toList := by
    intro m hm
    simpa [String.toList_append] using ((prints_quote m.1).append hcolon).append (h m hm)
  have hopen : Prints [Token.openObject] ['\x7b'] := prints_token .openObject fun _ => trivial
  have hclose : Prints [Token.closeObject] ['\x7d'] := prints_token .closeObject fun _ => trivial
  have hall :=
    (((hopen.append hfirst).append (prints_intercalate hsep hmember)).append hlast).append hclose
  rw [draft, Draft.tokens, htokens]
  simpa [String.toList_append] using hall

theorem prints_bool (b : Bool) :
    Prints (bool b).draft.tokens (if b then "true" else "false").toList := by
  cases b with
  | true => exact prints_token .wordTrue fun _ => trivial
  | false => exact prints_token .wordFalse fun _ => trivial

/-! ## The form over many lines -/

theorem prints_commaLine (level : Nat) : Prints [.comma] ("," ++ newLine level).toList := by
  rw [String.toList_append]
  exact (prints_token .comma fun _ => trivial).append (prints_newLine level)

theorem prints_colonBlank : Prints [.colon] (": " : String).toList :=
  (prints_token .colon fun _ => trivial).append (prints_blank (c := ' ') rfl)

theorem renderItems_eq (level : Nat) (items : List Json) :
    renderItems level items = items.map (render level) := by
  induction items with
  | nil => rfl
  | cons i is ih => rw [renderItems, ih, List.map_cons]

theorem renderMembers_eq (level : Nat) (members : List (String × Json)) :
    renderMembers level members = members.map fun m => quote m.1 ++ ": " ++ render level m.2 := by
  induction members with
  | nil => rfl
  | cons m ms ih => rw [renderMembers, ih, List.map_cons]

mutual

theorem prints_render : ∀ (j : Json) (level : Nat), Prints j.draft.tokens (j.render level).toList
  | bool true, _ => prints_bool true
  | bool false, _ => prints_bool false
  | string s, _ => prints_quote s
  | array [], level => by
    have hempty := (prints_token .openArray fun _ => trivial).append
      (prints_token .closeArray fun _ => trivial)
    simpa [render, draft, itemDrafts, Draft.tokens, Draft.itemTokens] using hempty
  | array (i :: is), level => by
    rw [render, renderItems_eq]
    · exact prints_array (prints_newLine _) (prints_commaLine _) (prints_newLine _)
        (prints_renderItems (i :: is) (level + 1))
    · nofun
  | object [], level => by
    have hempty := (prints_token .openObject fun _ => trivial).append
      (prints_token .closeObject fun _ => trivial)
    simpa [render, draft, memberDrafts, Draft.tokens, Draft.memberTokens] using hempty
  | object (m :: ms), level => by
    rw [render, renderMembers_eq]
    · exact prints_object (prints_newLine _) (prints_commaLine _) prints_colonBlank
        (prints_newLine _) (prints_renderMembers (m :: ms) (level + 1))
    · nofun

theorem prints_renderItems : ∀ (items : List Json) (level : Nat), ∀ i ∈ items,
    Prints i.draft.tokens (i.render level).toList
  | [], _ => nofun
  | i :: is, level => List.forall_mem_cons.mpr ⟨prints_render i level, prints_renderItems is level⟩

theorem prints_renderMembers : ∀ (members : List (String × Json)) (level : Nat), ∀ m ∈ members,
    Prints m.2.draft.tokens (m.2.render level).toList
  | [], _ => nofun
  | (_, v) :: ms, level =>
    List.forall_mem_cons.mpr ⟨prints_render v level, prints_renderMembers ms level⟩

end

/-! ## The form on one line -/

theorem compactItems_eq (items : List Json) : compactItems items = items.map compact := by
  induction items with
  | nil => rfl
  | cons i is ih => rw [compactItems, ih, List.map_cons]

theorem compactMembers_eq (members : List (String × Json)) :
    compactMembers members = members.map fun m => quote m.1 ++ ":" ++ compact m.2 := by
  induction members with
  | nil => rfl
  | cons m ms ih => rw [compactMembers, ih, List.map_cons]

theorem prints_comma : Prints [.comma] ("," : String).toList :=
  prints_token .comma fun _ => trivial

theorem prints_colon : Prints [.colon] (":" : String).toList :=
  prints_token .colon fun _ => trivial

mutual

theorem prints_compact : ∀ j : Json, Prints j.draft.tokens j.compact.toList
  | bool true => prints_bool true
  | bool false => prints_bool false
  | string s => prints_quote s
  | array items => by
    have harray : Prints (array items).draft.tokens
        ("[" ++ "" ++ ",".intercalate (items.map compact) ++ "" ++ "]").toList :=
      prints_array prints_nil prints_comma prints_nil (prints_compactItems items)
    simpa [compact, compactItems_eq] using harray
  | object members => by
    have hobject : Prints (object members).draft.tokens
        ("\x7b" ++ "" ++ ",".intercalate (members.map fun m => quote m.1 ++ ":" ++ compact m.2) ++
          "" ++ "\x7d").toList :=
      prints_object prints_nil prints_comma prints_colon prints_nil (prints_compactMembers members)
    simpa [compact, compactMembers_eq] using hobject

theorem prints_compactItems : ∀ items : List Json, ∀ i ∈ items,
    Prints i.draft.tokens i.compact.toList
  | [] => nofun
  | i :: is => List.forall_mem_cons.mpr ⟨prints_compact i, prints_compactItems is⟩

theorem prints_compactMembers : ∀ members : List (String × Json), ∀ m ∈ members,
    Prints m.2.draft.tokens m.2.compact.toList
  | [] => nofun
  | (_, v) :: ms => List.forall_mem_cons.mpr ⟨prints_compact v, prints_compactMembers ms⟩

end

/-! ## Whole texts -/

mutual

theorem isComplete_draft : ∀ j : Json, j.draft.isComplete = true
  | bool _ => rfl
  | string _ => rfl
  | array items => by
    rw [draft, Draft.isComplete, allComplete_itemDrafts items]
    rfl
  | object members => by
    rw [draft, Draft.isComplete, membersComplete_memberDrafts members]
    rfl

theorem allComplete_itemDrafts : ∀ items : List Json, Draft.allComplete (itemDrafts items) = true
  | [] => rfl
  | i :: is => by
    rw [itemDrafts, Draft.allComplete, isComplete_draft i, allComplete_itemDrafts is]
    rfl

theorem membersComplete_memberDrafts : ∀ members : List (String × Json),
    Draft.membersComplete (memberDrafts members) = true
  | [] => rfl
  | (_, v) :: ms => by
    rw [memberDrafts, Draft.membersComplete, isComplete_draft v, membersComplete_memberDrafts ms]
    rfl

end

theorem Prints.spells {ts : List Token} {cs : List Char} (h : Prints ts cs) : Spells ts cs := by
  simpa using h [] [] .nil

theorem says_pretty (j : Json) : Says j.pretty j.draft := by
  refine ⟨isComplete_draft j, ?_⟩
  have hall := (prints_render j 0).append (prints_blank (c := '\n') rfl)
  rw [pretty, String.toList_append]
  simpa using hall.spells

theorem says_compact (j : Json) : Says j.compact j.draft :=
  ⟨isComplete_draft j, (prints_compact j).spells⟩

/-! ## What decoders see -/

theorem decode_pretty {α : Type} (decoder : Decoder α) (j : Json) :
    decode decoder j.pretty = decoder j.draft :=
  (says_pretty j).decode decoder

/-- Both parts of a decoding that comes to its end do. -/
theorem bind_eq_ok {α β : Type} {x : Except DecodeError α} {f : α → Except DecodeError β} {b : β} :
    x >>= f = .ok b ↔ ∃ a, x = .ok a ∧ f a = .ok b := by
  cases x <;> simp [bind, Except.bind]

/-- A slot is filled once. -/
theorem fill_eq_ok {α : Type} {name : String} {slot filled : Option α} {decoder : Decoder α}
    {d : Draft} : fill name slot decoder d = .ok filled ↔
      slot = none ∧ ∃ a, decoder d = .ok a ∧ filled = some a := by
  cases slot with
  | some a => simp [fill]
  | none => cases hd : decoder d <;> simp [fill, Functor.map, Except.map, hd, eq_comm (a := filled)]

/-- A slot that is filled if its name was seen, and else stands for the default. -/
theorem getD_seen {α : Type} {name : String} {names : List String} {value byDefault : α}
    (h : name ∉ names → value = byDefault) :
    (if name ∈ names then some value else none).getD byDefault = value := by
  split
  · rfl
  · rename_i hnot
    exact (h hnot).symm

/-- A fold over members, where `state` tells how far it has come from what it has taken in. -/
theorem foldlM_put_ok {α σ : Type} {put : σ → Member → Except DecodeError σ} (state : List α → σ)
    {member : α → Member} {as : List α} (h : ∀ before a after, as = before ++ a :: after →
      put (state before) (member a) = .ok (state (before ++ [a]))) :
    (as.map member).foldlM put (state []) = .ok (state as) := by
  have hrest : ∀ after before, as = before ++ after →
      (after.map member).foldlM put (state before) = .ok (state as) := by
    intro after
    induction after with
    | nil =>
      rintro before rfl
      rw [List.append_nil]
      rfl
    | cons a after ih =>
      intro before has
      have hput := h before a after has
      rw [List.append_cons] at has
      rw [List.map_cons, List.foldlM_cons, hput]
      exact ih _ has
  exact hrest as [] rfl

/-- If each item is read back, then so are the items of a list. -/
theorem mapM_map_ok {α β γ : Type} {read : β → Except DecodeError γ} {write : α → β}
    {value : α → γ} (h : ∀ a, read (write a) = .ok (value a)) (as : List α) :
    (as.map write).mapM read = .ok (as.map value) := by
  induction as with
  | nil => rfl
  | cons a as ih =>
    rw [List.map_cons, List.mapM_cons, h, ih]
    rfl

theorem decodeList_draft {α β : Type} {item : Decoder β} {f : α → Json} {g : α → β}
    (h : ∀ a, item (f a).draft = .ok (g a)) (as : List α) :
    decodeList item (array (as.map f)).draft = .ok (as.map g) := by
  rw [draft, itemDrafts_eq, List.map_map, decodeList, Function.comp_def, mapM_map_ok h]
  rfl

theorem decodeList_strings (ss : List String) :
    decodeList decodeString (strings ss).draft = .ok ss := by
  have hitem : ∀ s, decodeString (string s).draft = .ok (id s) := fun _ => rfl
  rw [strings, decodeList_draft hitem, List.map_id]

end ImageTiers.Json
