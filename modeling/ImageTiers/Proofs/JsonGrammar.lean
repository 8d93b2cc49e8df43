-- The grammar of JSON texts, apart from the reader: a value is a row of tokens, and a text is
-- a row of tokens with blanks between them, each spelled in one of several ways. The law: the
-- reader comes to the value that a text says, whatever the layout and the spelling.
import ImageTiers.Json.Decode

namespace ImageTiers.Json

/-! ## Strings -/

/-- The characters spell the places of a string, each by itself or by an escape. -/
inductive SpellsPlaces : List Unit16 → List Char → Prop
  | nil : SpellsPlaces [] []
  | plain {c : Char} {us : List Unit16} {cs : List Char} : c ≠ '\"' → c ≠ '\\' → ¬ c < ' ' →
      SpellsPlaces us cs → SpellsPlaces (.char c :: us) (c :: cs)
  | escaped {e c : Char} {us : List Unit16} {cs : List Char} : escaped? e = some c →
      SpellsPlaces us cs → SpellsPlaces (.char c :: us) ('\\' :: e :: cs)
  | unit {a b c d : Char} {n : Nat} {us : List Unit16} {cs : List Char} :
      hexNumber? [a, b, c, d] = some n →
      SpellsPlaces us cs → SpellsPlaces (.unit n :: us) ('\\' :: 'u' :: a :: b :: c :: d :: cs)

theorem scanString_plain {c : Char} (before : List Unit16) (used : Nat) (cs : List Char)
    (hquote : c ≠ '\"') (hslash : c ≠ '\\') (hcontrol : ¬ c < ' ') :
    scanString before used (c :: cs) = scanString (.char c :: before) (used + 1) cs := by
  rw [scanString, if_neg hcontrol]
  · exact hquote
  · intro _ _ _ _ _ hc
    exact absurd hc hslash
  · intro _ _ hc
    exact absurd hc hslash

theorem scanString_escaped {e c : Char} (before : List Unit16) (used : Nat) (cs : List Char)
    (he : escaped? e = some c) :
    scanString before used ('\\' :: e :: cs) = scanString (.char c :: before) (used + 2) cs := by
  rw [scanString, he]
  rintro _ _ _ _ _ rfl
  cases he

/-- The places of a string, which its closing quote ends. -/
theorem SpellsPlaces.scanString {us : List Unit16} {cs : List Char} (h : SpellsPlaces us cs)
    (before : List Unit16) (used : Nat) (rest : List Char) :
    scanString before used (cs ++ '\"' :: rest) =
      some (before.reverse ++ us, used + cs.length + 1) := by
  induction h generalizing before used with
  | nil => simp [Json.scanString]
  | plain hquote hslash hcontrol _ ih =>
    rw [List.cons_append, scanString_plain before used _ hquote hslash hcontrol, ih]
    simp
    omega
  | escaped he _ ih =>
    rw [List.cons_append, List.cons_append, scanString_escaped before used _ he, ih]
    simp
    omega
  | unit hn _ ih =>
    simp only [List.cons_append, Json.scanString, hn, ih]
    simp
    omega

/-! ## Numbers -/

/-- Some digits, and at least one. -/
structure Digits (cs : List Char) : Prop where
  nonempty : cs ≠ []
  digits : ∀ c ∈ cs, c.isDigit = true

/-- The digits after the point, if there is a point. -/
inductive SpellsFraction : List Nat → List Char → Prop
  | absent : SpellsFraction [] []
  | point {cs : List Char} : Digits cs → SpellsFraction (cs.map digitValue) ('.' :: cs)

inductive SpellsSign : Int → List Char → Prop
  | absent : SpellsSign 1 []
  | plus : SpellsSign 1 ['+']
  | minus : SpellsSign (-1) ['-']

/-- The power of ten, if there is one. -/
inductive SpellsExponent : Int → List Char → Prop
  | absent : SpellsExponent 0 []
  | power {letter : Char} {sign : Int} {signs cs : List Char} : letter = 'e' ∨ letter = 'E' →
      SpellsSign sign signs → Digits cs →
      SpellsExponent (sign * (cs.foldl (fun v d => v * 10 + digitValue d) 0 : Nat))
        (letter :: (signs ++ cs))

inductive SpellsNumber : Numeral → List Char → Prop
  | parts {negative : Bool} {whole : List Char} {fraction : List Nat} {exponent : Int}
      {fractions exponents : List Char} : Digits whole → whole = ['0'] ∨ whole.head? ≠ some '0' →
      SpellsFraction fraction fractions → SpellsExponent exponent exponents →
      SpellsNumber ⟨negative, whole.map digitValue, fraction, exponent⟩
        ((if negative then ['-'] else []) ++ (whole ++ (fractions ++ exponents)))

/-- No character comes that would go on with the digits of a number. -/
def EndsDigits (rest : List Char) : Prop := ∀ c ∈ rest.head?, c.isDigit = false

/-- No character comes that would go on with a number. -/
def EndsNumber (rest : List Char) : Prop :=
  ∀ c ∈ rest.head?, c.isDigit = false ∧ c ≠ '.' ∧ c ≠ 'e' ∧ c ≠ 'E'

theorem takeWhile_digits {cs rest : List Char} (h : ∀ c ∈ cs, c.isDigit = true)
    (hrest : EndsDigits rest) : (cs ++ rest).takeWhile Char.isDigit = cs := by
  rw [List.takeWhile_append_of_pos h]
  cases rest with
  | nil => simp
  | cons c rest => simp [hrest c rfl]

theorem EndsNumber.endsDigits {rest : List Char} (h : EndsNumber rest) : EndsDigits rest :=
  fun c hc => (h c hc).1

/-- No digit looks like a sign or a point. -/
theorem Digits.head_ne {cs : List Char} (h : Digits cs) {c : Char} (hc : c.isDigit = false)
    (rest : List Char) : (cs ++ rest).head? ≠ some c := by
  obtain ⟨d, ds, rfl⟩ := List.exists_cons_of_ne_nil h.nonempty
  have hd := h.digits d List.mem_cons_self
  rintro ⟨⟩
  rw [hc] at hd
  cases hd

theorem SpellsExponent.scanExponent {e : Int} {cs rest : List Char} (h : SpellsExponent e cs)
    (hrest : EndsNumber rest) : scanExponent (cs ++ rest) = some (e, cs.length) := by
  cases h with
  | absent =>
    cases rest with
    | nil => rfl
    | cons c rest =>
      obtain ⟨_, _, he, hE⟩ := hrest c rfl
      simp [Json.scanExponent, he, hE]
  | @power letter sign signs cs hletter hsign hdigits =>
    have hscan := takeWhile_digits hdigits.digits hrest.endsDigits
    cases hsign with
    | absent =>
      have hplus := hdigits.head_ne (c := '+') rfl rest
      have hminus := hdigits.head_ne (c := '-') rfl rest
      simp only [List.cons_append, List.nil_append, Json.scanExponent, hletter, if_true]
      split
      · rename_i heq
        exact absurd (congrArg List.head? heq) hplus
      · rename_i heq
        exact absurd (congrArg List.head? heq) hminus
      · simp [hscan, hdigits.nonempty, Nat.add_comm]
    | plus => simp [Json.scanExponent, hletter, hscan, hdigits.nonempty]; omega
    | minus => simp [Json.scanExponent, hletter, hscan, hdigits.nonempty]; omega

theorem SpellsFraction.scanFraction {ds : List Nat} {cs rest : List Char}
    (h : SpellsFraction ds cs) (hdigit : EndsDigits rest) (hpoint : rest.head? ≠ some '.') :
    scanFraction (cs ++ rest) = some (ds, cs.length) := by
  cases h with
  | absent =>
    rw [List.nil_append, Json.scanFraction]
    · rfl
    · rintro _ rfl
      exact hpoint rfl
  | point hdigits =>
    have hscan := takeWhile_digits hdigits.digits hdigit
    simp [Json.scanFraction, hscan, hdigits.nonempty, Nat.add_comm]

/-- A power of ten goes on with no digits and no point. -/
theorem SpellsExponent.ends {e : Int} {cs rest : List Char} (h : SpellsExponent e cs)
    (hrest : EndsNumber rest) : EndsDigits (cs ++ rest) ∧ (cs ++ rest).head? ≠ some '.' := by
  cases h with
  | absent =>
    refine ⟨hrest.endsDigits, fun hpoint => ?_⟩
    exact (hrest '.' hpoint).2.1 rfl
  | power hletter _ _ =>
    rcases hletter with rfl | rfl <;> exact ⟨by rintro _ ⟨⟩; rfl, by rintro ⟨⟩⟩

theorem SpellsFraction.ends {ds : List Nat} {cs rest : List Char} (h : SpellsFraction ds cs)
    (hrest : EndsDigits rest) : EndsDigits (cs ++ rest) := by
  cases h with
  | absent => exact hrest
  | point _ =>
    rintro _ ⟨⟩
    rfl

/-- The digits before the point: a zero in front stands alone. -/
theorem Digits.scanWhole {cs rest : List Char} (h : Digits cs)
    (hzero : cs = ['0'] ∨ cs.head? ≠ some '0') (hrest : EndsDigits rest) :
    (if (cs ++ rest).head? = some '0' then ['0'] else (cs ++ rest).takeWhile Char.isDigit) =
      cs := by
  rcases hzero with rfl | hzero
  · rfl
  · have hhead : (cs ++ rest).head? = cs.head? := by
      obtain ⟨c, cs, rfl⟩ := List.exists_cons_of_ne_nil h.nonempty
      rfl
    rw [hhead, if_neg hzero, takeWhile_digits h.digits hrest]

theorem SpellsNumber.scanNumber {n : Numeral} {cs rest : List Char} (h : SpellsNumber n cs)
    (hrest : EndsNumber rest) : scanNumber (cs ++ rest) = some (n, cs.length) := by
  cases h with
  | @parts negative whole fraction exponent fractions exponents hwhole hzero hfraction hexponent =>
    obtain ⟨hdigit, hpoint⟩ := hexponent.ends hrest
    have hsign : ((if negative then ['-'] else []) ++ (whole ++ (fractions ++ exponents)) ++
        rest).head? = some '-' ↔ negative = true := by
      cases negative with
      | true => simp
      | false => simpa using hwhole.head_ne (c := '-') rfl (fractions ++ (exponents ++ rest))
    have hbody : ((if negative then ['-'] else []) ++ (whole ++ (fractions ++ exponents)) ++
        rest).drop (if negative then 1 else 0) = whole ++ (fractions ++ (exponents ++ rest)) := by
      cases negative <;> simp
    have hwholeScan := hwhole.scanWhole hzero (hfraction.ends hdigit)
    have hfractionScan := hfraction.scanFraction hdigit hpoint
    have hexponentScan := hexponent.scanExponent hrest
    simp only [Json.scanNumber, hsign, hbody, hwholeScan, List.drop_left, ← List.drop_drop,
      hwhole.nonempty, List.isEmpty_iff, if_false, hfractionScan, Option.bind_eq_bind,
      Option.bind_some, hexponentScan, Bool.decide_eq_true, Option.pure_def]
    cases negative <;> simp <;> omega

/-- A number starts with a sign or a digit. -/
theorem SpellsNumber.exists_first {n : Numeral} {cs : List Char} (h : SpellsNumber n cs) :
    ∃ c rest, cs = c :: rest ∧ (c = '-' ∨ c.isDigit = true) := by
  cases h with
  | @parts negative whole fraction exponent fractions exponents hwhole _ _ _ =>
    cases negative with
    | true => exact ⟨_, _, rfl, .inl rfl⟩
    | false =>
      obtain ⟨d, ds, rfl⟩ := List.exists_cons_of_ne_nil hwhole.nonempty
      exact ⟨_, _, rfl, .inr (hwhole.digits d List.mem_cons_self)⟩

/-! ## Tokens -/

inductive SpellsToken : Token → List Char → Prop
  | openArray : SpellsToken .openArray ['[']
  | closeArray : SpellsToken .closeArray [']']
  | openObject : SpellsToken .openObject ['\x7b']
  | closeObject : SpellsToken .closeObject ['\x7d']
  | comma : SpellsToken .comma [',']
  | colon : SpellsToken .colon [':']
  | wordNull : SpellsToken .null ['n', 'u', 'l', 'l']
  | wordTrue : SpellsToken (.bool true) ['t', 'r', 'u', 'e']
  | wordFalse : SpellsToken (.bool false) ['f', 'a', 'l', 's', 'e']
  | number {n : Numeral} {cs : List Char} : SpellsNumber n cs → SpellsToken (.number n) cs
  | string {us : List Unit16} {cs : List Char} : SpellsPlaces us cs →
      SpellsToken (.string ((joinHalves [] us).map String.ofList)) ('\"' :: (cs ++ ['\"']))

/-- The token ends where `rest` begins. Only a number could go on. -/
def Token.EndsBefore (rest : List Char) : Token → Prop
  | .number _ => EndsNumber rest
  | _ => True

/-- The characters spell a row of tokens, with blanks anywhere between them. -/
inductive Spells : List Token → List Char → Prop
  | nil : Spells [] []
  | blank {c : Char} {ts : List Token} {cs : List Char} : isBlank c = true → Spells ts cs →
      Spells ts (c :: cs)
  | token {t : Token} {ts : List Token} {word rest : List Char} : SpellsToken t word →
      t.EndsBefore rest → Spells ts rest → Spells (t :: ts) (word ++ rest)

/-- Nothing else starts with a sign or a digit. -/
theorem scanToken_number {c : Char} (cs : List Char) (hc : c = '-' ∨ c.isDigit = true) :
    isBlank c = false ∧
      scanToken c cs = (scanNumber (c :: cs)).map fun (n, used) => (.number n, used - 1) := by
  have hne : ∀ d : Char, d ≠ '-' → d.isDigit = false → c ≠ d := by
    rintro d hminus hdigit rfl
    rcases hc with hc | hc
    · exact hminus hc
    · rw [hdigit] at hc
      cases hc
  refine ⟨?_, ?_⟩
  · simp [isBlank, hne]
  · unfold scanToken
    split
    case h_11 => rfl
    all_goals exact absurd rfl (hne _ (by decide) (by decide))

theorem SpellsToken.scanToken {t : Token} {word rest : List Char} (h : SpellsToken t word)
    (hends : t.EndsBefore rest) : ∃ c cs, word = c :: cs ∧ isBlank c = false ∧
      scanToken c (cs ++ rest) = some (t, cs.length) := by
  cases h with
  | number hn =>
    have hscan := hn.scanNumber hends
    obtain ⟨c, cs, rfl, hc⟩ := hn.exists_first
    obtain ⟨hblank, htoken⟩ := scanToken_number (cs ++ rest) hc
    rw [List.cons_append] at hscan
    exact ⟨c, cs, rfl, hblank, by simp [htoken, hscan]⟩
  | @string us cs hus =>
    refine ⟨_, _, rfl, rfl, ?_⟩
    have hscan := hus.scanString [] 0 rest
    simp [Json.scanToken, hscan]
  | _ => exact ⟨_, _, rfl, rfl, rfl⟩

/-! ## Values as tokens -/

namespace Draft

mutual

/-- The tokens of a value that is complete. -/
def tokens : Draft → List Token
  | null => [.null]
  | bool b => [.bool b]
  | number n => [.number n]
  | string s => [.string s]
  | array items _ => .openArray :: ([.comma].intercalate (itemTokens items) ++ [.closeArray])
  | object members _ =>
    .openObject :: ([.comma].intercalate (memberTokens members) ++ [.closeObject])
  | broken => []

def itemTokens : List Draft → List (List Token)
  | [] => []
  | d :: ds => d.tokens :: itemTokens ds

def memberTokens : List (Text × Draft) → List (List Token)
  | [] => []
  | (k, d) :: ms => (.string k :: .colon :: d.tokens) :: memberTokens ms

end

end Draft

/-- The text says the value, in some spelling and some layout. -/
structure Says (text : String) (d : Draft) : Prop where
  complete : d.isComplete = true
  spelled : Spells d.tokens text.toList

/-! ## Reading -/

namespace Reading

/-- The characters of a token that was read are skipped. -/
theorem through_skip (r : Reading) (cs rest : List Char) :
    r.through cs.length (cs ++ rest) = r.through 0 rest := by
  induction cs with
  | nil => rfl
  | cons c cs ih => rw [List.length_cons, List.cons_append, through, ih]

/-- The reader goes from token to token. -/
theorem through_of_spells {ts : List Token} {cs : List Char} (h : Spells ts cs) (r : Reading) :
    r.through 0 cs = ts.foldl step r := by
  induction h generalizing r with
  | nil => rfl
  | blank hc _ ih => simp [through, hc, ih]
  | @token t ts word rest hword hends _ ih =>
    obtain ⟨c, cs, rfl, hblank, hscan⟩ := hword.scanToken hends
    rw [List.cons_append, through, hblank, if_neg Bool.false_ne_true, hscan]
    simp only [through_skip, ih, List.foldl_cons]

/-- Wherever a value may come, `r` goes on as if only a value could come. -/
def Expects (r : Reading) (up : List Open) : Prop :=
  ∀ t, t ≠ .closeArray → r.step t = begin up t

theorem expects_value (up : List Open) : (value up).Expects up := fun _ _ => rfl

theorem expects_item (up : List Open) : (item up).Expects (.array [] :: up) := by
  intro t ht
  cases t <;> first | rfl | exact absurd rfl ht

/-- Wherever a key may come, `r` goes on with the colon after it. -/
def ExpectsKey (r : Reading) (before : List Member) (up : List Open) : Prop :=
  ∀ k, r.step (.string k) = colon before k up

theorem expectsKey_member (up : List Open) : (member up).ExpectsKey [] up := fun _ => rfl

theorem expectsKey_key (before : List Member) (up : List Open) :
    (key before up).ExpectsKey before up := fun _ => rfl

end Reading

open Reading

namespace Draft

/-- The value is read wherever a value may come. -/
def Reads (d : Draft) : Prop := ∀ (r : Reading) (up : List Open), r.Expects up →
  d.tokens.foldl step r = after d up

/-- The items of an array, of which there is at least one, and its end. The reading lists
them backwards, so the list so far grows with each comma. -/
theorem foldl_items {d : Draft} {ds : List Draft} (h : ∀ d' ∈ d :: ds, d'.Reads) {r : Reading}
    {before : List Draft} {up : List Open} (hr : r.Expects (.array before :: up)) :
    ([Token.comma].intercalate (itemTokens (d :: ds)) ++ [Token.closeArray]).foldl step r =
      after (.array (before.reverse ++ d :: ds) .closed) up := by
  induction ds generalizing d r before with
  | nil => simp [itemTokens, h d List.mem_cons_self r _ hr, step]
  | cons d' ds ih =>
    have hrest := ih (fun e he => h e (List.mem_cons_of_mem _ he))
      (expects_value (.array (d :: before) :: up))
    have htokens : [Token.comma].intercalate (itemTokens (d :: d' :: ds)) =
        d.tokens ++ Token.comma :: [Token.comma].intercalate (itemTokens (d' :: ds)) := by
      simp [itemTokens, List.intercalate_cons_cons]
    have hcomma : step (after d (.array before :: up)) .comma =
        value (.array (d :: before) :: up) := rfl
    rw [htokens, List.append_assoc, List.foldl_append, h d List.mem_cons_self r _ hr,
      List.cons_append, List.foldl_cons, hcomma, hrest]
    simp

theorem reads_array {ds : List Draft} (h : ∀ d ∈ ds, d.Reads) : (array ds .closed).Reads := by
  intro r up hr
  rw [tokens, List.foldl_cons, hr .openArray nofun]
  cases ds with
  | nil => rfl
  | cons d ds => exact foldl_items h (expects_item up)

theorem foldl_member {k : Text} {d : Draft} (h : d.Reads) {r : Reading} {before : List Member}
    {up : List Open} (hr : r.ExpectsKey before up) :
    (Token.string k :: .colon :: d.tokens).foldl step r = after d (.object before k :: up) := by
  rw [List.foldl_cons, List.foldl_cons, hr k]
  exact h _ _ (expects_value _)

/-- The members of an object, of which there is at least one, and its end. -/
theorem foldl_members {m : Member} {ms : List Member} (h : ∀ m' ∈ m :: ms, m'.2.Reads)
    {r : Reading} {before : List Member} {up : List Open} (hr : r.ExpectsKey before up) :
    ([Token.comma].intercalate (memberTokens (m :: ms)) ++ [Token.closeObject]).foldl step r =
      after (.object (before.reverse ++ m :: ms) .closed) up := by
  induction ms generalizing m r before with
  | nil =>
    rw [memberTokens, memberTokens, List.intercalate_singleton, List.foldl_append,
      foldl_member (h m List.mem_cons_self) hr]
    simp [step]
  | cons m' ms ih =>
    have hrest := ih (fun e he => h e (List.mem_cons_of_mem _ he)) (expectsKey_key (m :: before) up)
    have htokens : [Token.comma].intercalate (memberTokens (m :: m' :: ms)) =
        (Token.string m.1 :: .colon :: m.2.tokens) ++
          Token.comma :: [Token.comma].intercalate (memberTokens (m' :: ms)) := by
      simp [memberTokens, List.intercalate_cons_cons]
    have hcomma : step (after m.2 (.object before m.1 :: up)) .comma = key (m :: before) up := rfl
    rw [htokens, List.append_assoc, List.foldl_append, foldl_member (h m List.mem_cons_self) hr,
      List.cons_append, List.foldl_cons, hcomma, hrest]
    simp

theorem reads_object {ms : List Member} (h : ∀ m ∈ ms, m.2.Reads) : (object ms .closed).Reads := by
  intro r up hr
  rw [tokens, List.foldl_cons, hr .openObject nofun]
  cases ms with
  | nil => rfl
  | cons m ms => exact foldl_members h (expectsKey_member up)

mutual

theorem reads : ∀ d : Draft, d.isComplete = true → d.Reads
  | null, _ => fun r up hr => hr .null nofun
  | bool b, _ => fun r up hr => hr (.bool b) nofun
  | number n, _ => fun r up hr => hr (.number n) nofun
  | string s, _ => fun r up hr => hr (.string s) nofun
  | array ds ending, h => by
    simp only [isComplete, Bool.and_eq_true, decide_eq_true_eq] at h
    obtain ⟨rfl, hds⟩ := h
    exact reads_array (reads_all ds hds)
  | object ms ending, h => by
    simp only [isComplete, Bool.and_eq_true, decide_eq_true_eq] at h
    obtain ⟨rfl, hms⟩ := h
    exact reads_object (reads_members ms hms)

theorem reads_all : ∀ ds : List Draft, allComplete ds = true → ∀ d ∈ ds, d.Reads
  | [], _ => nofun
  | d :: ds, h => by
    simp only [allComplete, Bool.and_eq_true] at h
    exact List.forall_mem_cons.mpr ⟨reads d h.1, reads_all ds h.2⟩

theorem reads_members : ∀ ms : List Member, membersComplete ms = true → ∀ m ∈ ms, m.2.Reads
  | [], _ => nofun
  | (_, d) :: ms, h => by
    simp only [membersComplete, Bool.and_eq_true] at h
    exact List.forall_mem_cons.mpr ⟨reads d h.1, reads_members ms h.2⟩

end

end Draft

/-- The reader comes to the value that a text says, and nothing is left over. -/
theorem Says.read {text : String} {d : Draft} (h : Says text d) : read text = ⟨d, true⟩ := by
  rw [Json.read, through_of_spells h.spelled, Draft.reads d h.complete _ _ (expects_value [])]
  rfl

theorem Says.decode {α : Type} {text : String} {d : Draft} (h : Says text d) (decoder : Decoder α) :
    decode decoder text = decoder d := by
  rw [Json.decode, h.read]
  cases decoder d <;> rfl

end ImageTiers.Json
