import Mathlib.Data.List.Forall2
import Mathlib.Data.List.TakeWhile
import RouteWatch.Json.Printer
import RouteWatch.Json.Reader
import RouteWatch.Proofs.Ip.Numbers

/-!
# Reading JSON that was written

What is written without spaces is read back as it was. The text is cut into the tokens of the value,
since a literal ends where a mark comes, and the tokens build the value up again, whatever is open
around it.

* `reads_chars`: a text is cut into the tokens of its value;
* `builds_tokens`: the tokens of a value are put together;
* `Json.parse?_compact`: both together.
-/

namespace RouteWatch.Json

/-- The value can be written and read again: its strings have characters, and its numbers are natural
numbers. -/
inductive IsPlain : Json → Prop
  | null : IsPlain .null
  | bool (b : Bool) : IsPlain (.bool b)
  | nat (n : Nat) : IsPlain (.nat n)
  | text (s : String) : IsPlain (.text s)
  | array {items : List Json} (h : ∀ j ∈ items, IsPlain j) : IsPlain (.array items)
  | object {fields : List (Option String × Json)} (hnames : ∀ f ∈ fields, f.1.isSome)
      (h : ∀ f ∈ fields, IsPlain f.2) : IsPlain (.object fields)

theorem isPlain_array_iff {items : List Json} : (array items).IsPlain ↔ ∀ j ∈ items, j.IsPlain := by
  constructor
  · intro h
    cases h
    assumption
  · exact .array

theorem isPlain_object_iff {fields : List (Option String × Json)} :
    (object fields).IsPlain ↔ (∀ f ∈ fields, f.1.isSome) ∧ ∀ f ∈ fields, f.2.IsPlain := by
  constructor
  · intro h
    cases h
    constructor <;> assumption
  · exact fun h => .object h.1 h.2

/-! ## Tokens -/

/-- Parts with commas between them. -/
def separated : List (List Token) → List Token
  | [] => []
  | [part] => part
  | part :: rest => part ++ .comma :: separated rest

mutual

/-- The tokens of the value. -/
def tokens : Json → List Token
  | .string s => [.string s]
  | .array items => .openArray :: separated (itemsTokens items) ++ [.closeArray]
  | .object fields => .openObject :: separated (fieldsTokens fields) ++ [.closeObject]
  | j => [.literal j]

/-- The tokens of the values. -/
def itemsTokens : List Json → List (List Token)
  | [] => []
  | j :: rest => tokens j :: itemsTokens rest

/-- The tokens of the fields. -/
def fieldsTokens : List (Option String × Json) → List (List Token)
  | [] => []
  | (name, j) :: rest => (.string name :: .colon :: tokens j) :: fieldsTokens rest

end

/-- A literal ends here: a mark comes, or the text is over. -/
def Ends (rest : List Char) : Prop :=
  ∀ c ∈ rest.head?, (mark? c).isSome

/-- The characters are cut into the tokens, if a literal ends after them. -/
def Reads (cs : List Char) (ts : List Token) : Prop :=
  ∀ rest, Ends rest → tokensAfter? [] (cs ++ rest) = (tokensAfter? [] rest).map (ts ++ ·)

theorem ends_cons {c : Char} (h : (mark? c).isSome) (rest : List Char) : Ends (c :: rest) := by
  intro d hd
  obtain rfl : c = d := by simpa using hd
  exact h

theorem reads_nil : Reads [] [] := by
  intro rest _
  simp

theorem tokensAfter?_mark {c : Char} {mark : Token} (h : mark? c = some mark) (word rest : List Char) :
    tokensAfter? word (c :: rest) =
      (close? word).bind fun ts => (tokensAfter? [] rest).map fun us => ts ++ mark :: us := by
  have hspace : isSpace c = false ∧ c ≠ '"' := by
    rw [mark?.eq_def] at h
    split at h
    all_goals simp_all +decide
  rw [tokensAfter?, if_neg (by simp [hspace.1]), if_neg hspace.2, h]
  cases close? word <;> cases tokensAfter? [] rest <;> rfl

theorem tokensAfter?_nil_mark {c : Char} {mark : Token} (h : mark? c = some mark) (rest : List Char) :
    tokensAfter? [] (c :: rest) = (tokensAfter? [] rest).map (mark :: ·) := by
  rw [tokensAfter?_mark h]
  rfl

/-- A character that goes on with a literal. -/
def IsOrdinary (c : Char) : Prop :=
  isSpace c = false ∧ c ≠ '"' ∧ (mark? c).isNone

instance : DecidablePred IsOrdinary :=
  fun _ => inferInstanceAs (Decidable (_ ∧ _ ∧ _))

-- decided along the literal, and not for every character there is
instance (word : List Char) : Decidable (∀ c ∈ word, IsOrdinary c) :=
  List.decidableBAll IsOrdinary word

theorem tokensAfter?_word {word : List Char} (h : ∀ c ∈ word, IsOrdinary c) (before rest : List Char) :
    tokensAfter? before (word ++ rest) = tokensAfter? (word.reverse ++ before) rest := by
  induction word generalizing before with
  | nil => rfl
  | cons c word ih =>
    obtain ⟨⟨hspace, hquote, hmark⟩, hword⟩ := List.forall_mem_cons.1 h
    rw [List.cons_append, tokensAfter?, if_neg (by simp [hspace]), if_neg hquote,
      Option.isNone_iff_eq_none.1 hmark]
    dsimp only
    rw [ih hword]
    simp

/-- A literal is read when it ends. -/
theorem reads_literal {word : List Char} {j : Json} (hne : word ≠ []) (h : ∀ c ∈ word, IsOrdinary c)
    (hj : literal? word = some j) : Reads word [.literal j] := by
  have hclose : close? word.reverse = some [.literal j] := by
    simp [close?, hne, hj]
  intro rest hrest
  rw [tokensAfter?_word h, List.append_nil]
  cases rest with
  | nil => simp [tokensAfter?, close?, hne, hj]
  | cons c rest =>
    obtain ⟨mark, hmark⟩ := Option.isSome_iff_exists.1 (hrest c rfl)
    rw [tokensAfter?_mark hmark, hclose, tokensAfter?_nil_mark hmark]
    simp [Function.comp_def]

/-! ## Strings -/

theorem hexNumeral?_control : ∀ n < 0x20,
    hexNumeral? ['0', '0', (n / 16).digitChar, (n % 16).digitChar] = some n := by
  decide

theorem Unescaped.pushUnit_control (u : Unescaped) {n : Nat} (h : n < 0x20) :
    u.pushUnit n = u.push (Char.ofNat n) := by
  rw [pushUnit, if_neg (by simp; omega), if_neg (by simp; omega)]

/-- A character is read as it was written, whatever stands before it. -/
theorem stringAfter?_escapedChar (u : Unescaped) (c : Char) (rest : List Char) :
    stringAfter? u (escapedChar c ++ rest) = stringAfter? (u.push c) rest := by
  rw [escapedChar.eq_def]
  split
  case h_8 hquote hbackslash _ _ _ _ _ =>
    split
    next hcontrol =>
      have hunit : u.pushUnit c.toNat = u.push c := by
        rw [u.pushUnit_control hcontrol, Char.ofNat_toNat]
      rw [List.cons_append, stringAfter?, if_neg (by decide), if_pos rfl, List.cons_append,
        List.cons_append, List.cons_append, List.cons_append, List.cons_append, List.nil_append,
        escapeAfter?, hexNumeral?_control _ hcontrol]
      dsimp only
      rw [hunit]
    next hcontrol =>
      rw [List.cons_append, stringAfter?, if_neg hquote, if_neg hbackslash, if_neg hcontrol,
        List.nil_append]
  all_goals simp [stringAfter?, escapeAfter?, escaped?]

theorem stringAfter?_chars (u : Unescaped) (cs rest : List Char) :
    stringAfter? u (cs.flatMap escapedChar ++ '"' :: rest) =
      (tokensAfter? [] rest).map (.string (cs.foldl Unescaped.push u).text? :: ·) := by
  induction cs generalizing u with
  | nil => simp [stringAfter?]
  | cons c cs ih =>
    rw [List.flatMap_cons, List.append_assoc, stringAfter?_escapedChar, ih, List.foldl_cons]

theorem Unescaped.foldl_push (cs before : List Char) :
    cs.foldl push ⟨before, none, true⟩ = ⟨cs.reverse ++ before, none, true⟩ := by
  induction cs generalizing before with
  | nil => rfl
  | cons c cs ih =>
    rw [List.foldl_cons, push]
    simpa using ih (c :: before)

theorem reads_quotedChars (s : String) : Reads (quotedChars s) [.string (some s)] := by
  intro rest _
  have htext : (s.toList.foldl Unescaped.push .start).text? = some s := by
    rw [Unescaped.start, Unescaped.foldl_push]
    simp [Unescaped.text?]
  have hopen (cs : List Char) : tokensAfter? [] ('"' :: cs) = stringAfter? .start cs := by
    rw [tokensAfter?, if_neg (by decide), if_pos rfl]
    cases stringAfter? .start cs <;> rfl
  have hshape : quotedChars s ++ rest = '"' :: (s.toList.flatMap escapedChar ++ '"' :: rest) := by
    simp [quotedChars]
  rw [hshape, hopen, stringAfter?_chars, htext]
  rfl

/-! ## Values -/

/-- A mark ends what stands before it. -/
theorem Reads.mark {cs cs' : List Char} {ts ts' : List Token} {c : Char} {mark : Token}
    (h : Reads cs ts) (hmark : mark? c = some mark) (h' : Reads cs' ts') :
    Reads (cs ++ c :: cs') (ts ++ mark :: ts') := by
  intro rest hrest
  rw [List.append_assoc, List.cons_append, h _ (ends_cons (by simp [hmark]) _),
    tokensAfter?_nil_mark hmark, h' rest hrest, Option.map_map, Option.map_map]
  congr 1
  funext us
  simp

theorem reads_commas {parts : List (List Char)} {tokens : List (List Token)}
    (h : List.Forall₂ Reads parts tokens) : Reads (commas parts) (separated tokens) := by
  induction h with
  | nil => exact reads_nil
  | @cons part ts parts tokens hpart hparts ih =>
    cases hparts with
    | nil => exact hpart
    | cons hnext hrest => exact hpart.mark rfl ih

theorem reads_enclosed {cs : List Char} {ts : List Token} {opening closing : Char}
    {first last : Token} (hopen : mark? opening = some first) (hclose : mark? closing = some last)
    (h : Reads cs ts) : Reads (opening :: cs ++ [closing]) (first :: ts ++ [last]) :=
  reads_nil.mark hopen (h.mark hclose reads_nil)

/-! ## Numbers -/

theorem isNumber_of_isWholePart {cs : List Char} (h : isWholePart cs = true) : isNumber cs = true := by
  have hdigits : ∀ c ∈ cs, c.isDigit = true := by
    rw [isWholePart.eq_def] at h
    split at h
    · cases h
    · exact List.forall_mem_singleton.2 rfl
    · simp only [Bool.and_eq_true, List.all_eq_true] at h
      exact List.forall_mem_cons.2 ⟨h.1.2, h.2⟩
  have hother : ∀ c ∈ cs, c ≠ '-' ∧ c ≠ 'e' ∧ c ≠ 'E' ∧ c ≠ '.' := by
    intro c hc
    have hdigit := hdigits c hc
    refine ⟨?_, ?_, ?_, ?_⟩
    all_goals
      rintro rfl
      cases hdigit
  have hsign : (cs.head? == some '-') = false := by
    simpa using fun hhead => (hother _ (List.mem_of_mem_head? hhead)).1 rfl
  have hmantissa : cs.takeWhile (fun c => !(c == 'e' || c == 'E')) = cs :=
    List.takeWhile_eq_self_iff.2 fun c hc => by simp [hother c hc]
  have hexponent : cs.dropWhile (fun c => !(c == 'e' || c == 'E')) = [] :=
    List.dropWhile_eq_nil_iff.2 fun c hc => by simp [hother c hc]
  have hwhole : cs.takeWhile (· != '.') = cs :=
    List.takeWhile_eq_self_iff.2 fun c hc => by simp [hother c hc]
  have hfraction : cs.dropWhile (· != '.') = [] :=
    List.dropWhile_eq_nil_iff.2 fun c hc => by simp [hother c hc]
  simp only [isNumber, hsign, Bool.false_eq_true, if_false, hmantissa, hexponent, hwhole, hfraction,
    h, List.isEmpty_nil, Bool.true_or, Bool.and_true]

theorem isWholePart_toDigits (n : Nat) : isWholePart (Nat.toDigits 10 n) = true := by
  have hdigit : ∀ d < 10, d.digitChar.isDigit = true ∧ (d.digitChar = '0' → d = 0) := by decide
  obtain ⟨ds, hdigits, hds, -, hne, hhead⟩ := Ip.exists_digits (by decide : 1 < 10) n
  rcases eq_or_ne n 0 with rfl | hn
  · rfl
  obtain ⟨d, ds, rfl⟩ := List.exists_cons_of_ne_nil hne
  obtain ⟨hd, hds⟩ := List.forall_mem_cons.1 hds
  have hnotZero : d.digitChar ≠ '0' := fun h => hhead hn (congrArg some ((hdigit d hd).2 h))
  have hrest : (ds.map Nat.digitChar).all Char.isDigit = true :=
    List.all_eq_true.2 (List.forall_mem_map.2 fun e he => (hdigit e (hds e he)).1)
  rw [hdigits, List.map_cons, isWholePart.eq_def]
  split
  next h => cases h
  next h => rfl
  next h =>
    obtain ⟨rfl, rfl⟩ := List.cons.inj h
    simp [hnotZero, (hdigit d hd).1, hrest]

theorem reads_decimal (n : Nat) : Reads (toString n).toList [.literal (.nat n)] := by
  have hchars : (toString n).toList = Nat.toDigits 10 n := by simp [toString]
  have hordinary : ∀ d < 10, IsOrdinary d.digitChar ∧ d.digitChar ∉ ['n', 't', 'f'] := by decide
  obtain ⟨ds, hdigits, hds, -, hne, -⟩ := Ip.exists_digits (by decide : 1 < 10) n
  have hall : ∀ c ∈ Nat.toDigits 10 n, IsOrdinary c ∧ c ∉ ['n', 't', 'f'] := by
    rw [hdigits]
    exact List.forall_mem_map.2 fun d hd => hordinary d (hds d hd)
  refine reads_literal ?_ (fun c hc => (hall c (hchars ▸ hc)).1) ?_
  · simpa [hchars, hdigits] using hne
  · -- the text is no name, since these begin with letters
    have hname {s : String} (hs : toString n = s) : ∀ c ∈ s.toList, c ∉ ['n', 't', 'f'] :=
      fun c hc => (hall c (hchars ▸ hs ▸ hc)).2
    rw [literal?.eq_def, String.ofList_toList, hchars]
    split
    next h => exact absurd List.mem_cons_self (hname h 'n' (by decide))
    next h => exact absurd (by decide) (hname h 't' (by decide))
    next h => exact absurd (by decide) (hname h 'f' (by decide))
    · rw [if_pos (isNumber_of_isWholePart (isWholePart_toDigits n))]
      rfl

mutual

theorem reads_chars : ∀ {j : Json}, IsPlain j → Reads j.chars j.tokens
  | .null, _ => @reads_literal "null".toList _ (by decide) (by decide) rfl
  | .bool true, _ => @reads_literal "true".toList _ (by decide) (by decide) rfl
  | .bool false, _ => @reads_literal "false".toList _ (by decide) (by decide) rfl
  | .number _, .nat n => reads_decimal n
  | .string _, .text s => reads_quotedChars s
  | .array items, .array h => reads_enclosed rfl rfl (reads_commas (reads_itemsChars items h))
  | .object fields, .object hnames h =>
    reads_enclosed rfl rfl (reads_commas (reads_fieldsChars fields hnames h))

theorem reads_itemsChars : ∀ items : List Json, (∀ j ∈ items, IsPlain j) →
    List.Forall₂ Reads (itemsChars items) (itemsTokens items)
  | [], _ => .nil
  | j :: items, h =>
    .cons (reads_chars (h j List.mem_cons_self))
      (reads_itemsChars items fun j hj => h j (List.mem_cons_of_mem _ hj))

theorem reads_fieldsChars : ∀ fields : List (Option String × Json), (∀ f ∈ fields, f.1.isSome) →
    (∀ f ∈ fields, IsPlain f.2) → List.Forall₂ Reads (fieldsChars fields) (fieldsTokens fields)
  | [], _, _ => .nil
  | (none, _) :: _, hnames, _ => absurd (hnames _ List.mem_cons_self) nofun
  | (some s, j) :: fields, hnames, h =>
    .cons ((reads_quotedChars s).mark rfl (reads_chars (h (some s, j) List.mem_cons_self)))
      (reads_fieldsChars fields (fun f hf => hnames f (List.mem_cons_of_mem _ hf))
        fun f hf => h f (List.mem_cons_of_mem _ hf))

end

/-! ## Building -/

open Building

/-- The tokens are put together to the value, where a value may come, and it goes where it belongs. -/
def Builds (ts : List Token) (j : Json) : Prop :=
  ∀ stack awaited, awaited = .value ∨ awaited = .firstItem → ∀ more,
    (ts ++ more).foldlM step? ⟨stack, awaited⟩ = more.foldlM step? (deliver stack j)

theorem builds_single {t : Token} {j : Json} (h : ∀ stack, begin? stack t = some (deliver stack j)) :
    Builds [t] j := by
  rintro stack awaited (rfl | rfl) more
  · simp [step?, h]
  · simp [step?, h]

/-- How parts between two tokens are put together: what stands on the stack for those that have come,
and what is awaited at the first part and at a later one. -/
structure Bracket (α : Type) where
  opening : Token
  closing : Token
  whole : List α → Json
  frame : List α → Open
  first : Awaited
  later : Awaited
  begins : ∀ stack, begin? stack opening = some ⟨frame [] :: stack, first⟩
  goesOn : ∀ stack before,
    step? ⟨frame before :: stack, .more⟩ .comma = some ⟨frame before :: stack, later⟩
  ends : ∀ stack before awaited, awaited = .more ∨ awaited = first ∧ before = [] →
    step? ⟨frame before :: stack, awaited⟩ closing = some (deliver stack (whole before.reverse))

namespace Bracket

variable {α : Type} (b : Bracket α)

/-- The tokens are put together to a part. -/
def BuildsPart (ts : List Token) (a : α) : Prop :=
  ∀ before stack awaited, awaited = b.later ∨ awaited = b.first → ∀ more,
    (ts ++ more).foldlM step? ⟨b.frame before :: stack, awaited⟩ =
      more.foldlM step? ⟨b.frame (a :: before) :: stack, .more⟩

variable {b} {tss : List (List Token)} {parts : List α}

theorem foldlM_separated (h : List.Forall₂ b.BuildsPart tss parts) (hne : tss ≠ [])
    (before : List α) (stack : List Open) (awaited : Awaited)
    (hawaited : awaited = b.later ∨ awaited = b.first) (more : List Token) :
    (separated tss ++ b.closing :: more).foldlM step? ⟨b.frame before :: stack, awaited⟩ =
      more.foldlM step? (deliver stack (b.whole (before.reverse ++ parts))) := by
  induction h generalizing before awaited with
  | nil => exact absurd rfl hne
  | @cons ts a tss parts hts htss ih =>
    cases htss with
    | nil =>
      rw [separated, hts before stack awaited hawaited, List.foldlM_cons,
        b.ends stack _ _ (.inl rfl), List.reverse_cons]
      rfl
    | @cons ts' a' tss parts hnext hrest =>
      have hrest := ih (List.cons_ne_nil _ _) (a :: before) b.later (.inl rfl)
      rw [List.reverse_cons, List.append_assoc, List.singleton_append] at hrest
      rw [separated, List.append_assoc, hts before stack awaited hawaited, List.cons_append,
        List.foldlM_cons, b.goesOn]
      · exact hrest
      · exact List.cons_ne_nil _ _

/-- The parts with commas between them, and the tokens around them, are the whole. -/
theorem builds (h : List.Forall₂ b.BuildsPart tss parts) :
    Builds (b.opening :: separated tss ++ [b.closing]) (b.whole parts) := by
  have hparts (stack : List Open) (more : List Token) :
      (separated tss ++ b.closing :: more).foldlM step? ⟨b.frame [] :: stack, b.first⟩ =
        more.foldlM step? (deliver stack (b.whole parts)) := by
    rcases eq_or_ne tss [] with rfl | hne
    · cases h
      rw [separated, List.nil_append, List.foldlM_cons, b.ends stack [] b.first (.inr ⟨rfl, rfl⟩)]
      rfl
    · exact foldlM_separated h hne [] stack b.first (.inr rfl) more
  rintro stack awaited (rfl | rfl) more
  · simp [-List.foldlM_append, step?, b.begins, hparts]
  · simp [-List.foldlM_append, step?, b.begins, hparts]

end Bracket

/-- The items of an array. -/
def Bracket.items : Bracket Json where
  opening := .openArray
  closing := .closeArray
  whole := .array
  frame := .array
  first := .firstItem
  later := .value
  begins _ := rfl
  goesOn _ _ := rfl
  ends := by rintro stack before _ (rfl | ⟨rfl, rfl⟩) <;> rfl

/-- The fields of an object, each with its name. -/
def Bracket.fields : Bracket (Option String × Json) where
  opening := .openObject
  closing := .closeObject
  whole := .object
  frame before := .object before none
  first := .firstName
  later := .name
  begins _ := rfl
  goesOn _ _ := rfl
  ends := by rintro stack before _ (rfl | ⟨rfl, rfl⟩) <;> rfl

theorem Builds.item {ts : List Token} {j : Json} (h : Builds ts j) : Bracket.items.BuildsPart ts j :=
  fun before stack => h (.array before :: stack)

theorem Builds.field {ts : List Token} {j : Json} (h : Builds ts j) (name : Option String) :
    Bracket.fields.BuildsPart (.string name :: .colon :: ts) (name, j) := by
  have hvalue (before : List (Option String × Json)) (stack : List Open) (more : List Token) :
      (ts ++ more).foldlM step? ⟨.object before name :: stack, .value⟩ =
        more.foldlM step? ⟨.object ((name, j) :: before) none :: stack, .more⟩ :=
    h _ _ (.inl rfl) more
  rintro before stack awaited (rfl | rfl) more
  · simp [-List.foldlM_append, Bracket.fields, step?, name?, hvalue]
  · simp [-List.foldlM_append, Bracket.fields, step?, name?, hvalue]

mutual

theorem builds_tokens : ∀ j : Json, Builds j.tokens j
  | .null | .bool _ | .number _ | .string _ => builds_single fun _ => rfl
  | .array js => Bracket.items.builds (builds_itemsTokens js)
  | .object fs => Bracket.fields.builds (builds_fieldsTokens fs)

theorem builds_itemsTokens : ∀ js : List Json,
    List.Forall₂ Bracket.items.BuildsPart (itemsTokens js) js
  | [] => .nil
  | j :: js => .cons (builds_tokens j).item (builds_itemsTokens js)

theorem builds_fieldsTokens : ∀ fs : List (Option String × Json),
    List.Forall₂ Bracket.fields.BuildsPart (fieldsTokens fs) fs
  | [] => .nil
  | (name, j) :: fs => .cons ((builds_tokens j).field name) (builds_fieldsTokens fs)

end

/-- A value that was written is read. -/
theorem parse?_compact {j : Json} (h : IsPlain j) : parse? j.compact = some j := by
  have htokens : tokens? j.chars = some j.tokens := by
    have hread := reads_chars h [] (by simp [Ends])
    simpa [tokens?, tokensAfter?, close?] using hread
  have hbuild : ofTokens? j.tokens = some j := by
    have hbuilt := builds_tokens j [] .value (.inl rfl) []
    rw [List.append_nil] at hbuilt
    rw [ofTokens?, hbuilt]
    rfl
  rw [parse?, compact, String.toList_ofList, htokens]
  exact hbuild

end RouteWatch.Json
