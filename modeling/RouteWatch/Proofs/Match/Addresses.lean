import RouteWatch.Match.Route
import RouteWatch.Proofs.Ip.RoundTrip
import RouteWatch.Proofs.Text.Words

/-!
# What addresses and networks look like

The text of an address is a word of address characters with a mark, a dot or a colon, in it. That of
a network is an address, a slash and digits. No two of them have the same text.
-/

namespace RouteWatch

open Match Text

namespace Match

/-- The character separates the numbers of an address. -/
def isMark (c : Char) : Bool :=
  c == '.' || c == ':'

/-- The text could be that of an address: it has address characters only, and a mark. -/
def isAddressLike (w : List Char) : Bool :=
  w.all isAddressChar && w.any isMark

theorem isAddressChar_of_hexValue? {c : Char} (h : (Ip.hexValue? c).isSome = true) :
    isAddressChar c = true := by
  simp [isAddressChar, h]

theorem toNat_lt_of_hexValue? {c : Char} (h : (Ip.hexValue? c).isSome = true) : c.toNat < 103 := by
  have hle : ∀ d : Char, c ≤ d ↔ c.toNat ≤ d.toNat := fun d => UInt32.le_iff_toNat_le
  refine Nat.lt_of_not_le fun hlarge => ?_
  have hnot : ∀ d : Char, d.toNat < 103 → ¬ c ≤ d := fun d hd h =>
    Nat.lt_irrefl _ (Nat.lt_of_lt_of_le hd (Nat.le_trans hlarge ((hle d).1 h)))
  simp [Ip.hexValue?, hnot] at h

/-- A property of all address characters is one of finitely many characters. -/
theorem forall_isAddressChar {p : Char → Prop} {c : Char} (hc : isAddressChar c = true)
    (h : ∀ n < 103, isAddressChar (Char.ofNat n) = true → p (Char.ofNat n)) : p c := by
  have hlt : c.toNat < 103 := by
    simp only [isAddressChar, Bool.or_eq_true, beq_iff_eq] at hc
    rcases hc with (hc | rfl) | rfl
    · exact toNat_lt_of_hexValue? hc
    · decide
    · decide
  rw [← Char.ofNat_toNat c] at hc ⊢
  exact h c.toNat hlt hc

theorem isBlank_of_isAddressChar {c : Char} (hc : isAddressChar c = true) : isBlank c = false :=
  forall_isAddressChar (p := fun c => isBlank c = false) hc (by decide)

theorem ne_slash_of_isAddressChar {c : Char} (hc : isAddressChar c = true) : c ≠ '/' := by
  rintro rfl
  cases hc

/-! ## Numbers -/

theorem isAddressChar_of_mem_decimal {n : Nat} {c : Char} (h : c ∈ decimal n) :
    isAddressChar c = true :=
  isAddressChar_of_hexValue? (Ip.isSome_hexValue?_of_mem_toDigits (by decide) (by decide) h)

theorem isWord_decimal (n : Nat) : IsWord (decimal n) where
  ne_nil := Nat.toDigits_ne_nil
  not_blank _ hc := isBlank_of_isAddressChar (isAddressChar_of_mem_decimal hc)

theorem isMark_of_hexValue? {c : Char} (h : (Ip.hexValue? c).isSome = true) : isMark c = false := by
  rw [isMark, Bool.or_eq_false_iff, beq_eq_false_iff_ne, beq_eq_false_iff_ne]
  constructor <;> rintro rfl <;> cases h

theorem isMark_of_mem_decimal {n : Nat} {c : Char} (h : c ∈ decimal n) : isMark c = false :=
  isMark_of_hexValue? (Ip.isSome_hexValue?_of_mem_toDigits (by decide) (by decide) h)

/-! ## Addresses -/

theorem isAddressChar_of_mem_v4 {ip : Ipv4} {c : Char} (h : c ∈ ip.chars) :
    isAddressChar c = true := by
  simp only [Ipv4.chars, Ipv4.octets, joinWith, List.map_cons, List.map_nil, List.mem_append,
    List.mem_cons] at h
  rcases h with h | rfl | h | rfl | h | rfl | h
  all_goals first | rfl | exact isAddressChar_of_mem_decimal h

theorem isAddressChar_of_writes {dotted : Bool} {texts : List (List Char)} {gs : List UInt16}
    (hwrites : Ip.Writes dotted texts gs) : ∀ text ∈ texts, ∀ c ∈ text, isAddressChar c = true := by
  induction hwrites with
  | nil => exact List.forall_mem_nil _
  | octets ip => exact List.forall_mem_singleton.2 fun _ => isAddressChar_of_mem_v4
  | group hdigits _ ih =>
    refine List.forall_mem_cons.2 ⟨fun c hc => ?_, ih⟩
    exact isAddressChar_of_hexValue? (hdigits.isSome_hexValue? c hc)

theorem isAddressChar_of_mem_joinWith {dotted : Bool} {texts : List (List Char)} {gs : List UInt16}
    (hwrites : Ip.Writes dotted texts gs) : ∀ c ∈ joinWith ':' texts, isAddressChar c = true := by
  have hchars := isAddressChar_of_writes hwrites
  cases texts with
  | nil => exact List.forall_mem_nil _
  | cons text texts =>
    obtain ⟨htext, htexts⟩ := List.forall_mem_cons.1 hchars
    rw [Ip.joinWith_cons, List.forall_mem_append]
    refine ⟨htext, fun c hc => ?_⟩
    obtain ⟨text', htext', hc⟩ := List.mem_flatMap.1 hc
    rcases List.mem_cons.1 hc with rfl | hc
    · rfl
    · exact htexts text' htext' c hc

theorem isAddressChar_of_form {ip : Ipv6} {text : List Char} (hform : ip.Form text) :
    ∀ c ∈ text, isAddressChar c = true := by
  cases hform with
  | plain hwrites => exact isAddressChar_of_mem_joinWith hwrites
  | gap length hlength hgroups hbefore hafter =>
    rw [List.forall_mem_append, List.forall_mem_append]
    exact ⟨isAddressChar_of_mem_joinWith hbefore, by simp [isAddressChar],
      isAddressChar_of_mem_joinWith hafter⟩

theorem isAddressChar_of_mem {ip : Ip} {c : Char} (h : c ∈ ip.chars) : isAddressChar c = true := by
  cases ip with
  | v4 ip => exact isAddressChar_of_mem_v4 h
  | v6 ip => exact isAddressChar_of_form ip.form_chars c h

theorem colon_mem_joinWith {dotted : Bool} {texts : List (List Char)} {gs : List UInt16}
    (hwrites : Ip.Writes dotted texts gs) (hlength : 2 < gs.length) : ':' ∈ joinWith ':' texts := by
  cases hwrites with
  | nil => simp at hlength
  | octets ip => simp at hlength
  | group _ hwrites =>
    rw [Ip.joinWith_cons]
    cases hwrites with
    | nil => simp at hlength
    | octets ip => simp [Ip.moreGroups]
    | group _ _ => simp [Ip.moreGroups]

theorem colon_mem_of_form {ip : Ipv6} {text : List Char} (hform : ip.Form text) : ':' ∈ text := by
  cases hform with
  | plain hwrites => exact colon_mem_joinWith hwrites (by simp)
  | gap => simp

theorem exists_isMark (ip : Ip) : ∃ c ∈ ip.chars, isMark c = true := by
  cases ip with
  | v4 ip => exact ⟨'.', by simp [Ip.chars, Ipv4.chars, Ipv4.octets, joinWith], rfl⟩
  | v6 ip => exact ⟨':', colon_mem_of_form ip.form_chars, rfl⟩

theorem isAddressLike_chars (ip : Ip) : isAddressLike ip.chars = true := by
  simp only [isAddressLike, Bool.and_eq_true, List.all_eq_true, List.any_eq_true]
  exact ⟨fun c => isAddressChar_of_mem, exists_isMark ip⟩

theorem ne_chars {w : List Char} (h : isAddressLike w = false) (ip : Ip) : w ≠ ip.chars := by
  rintro rfl
  rw [isAddressLike_chars] at h
  cases h

theorem isWord_chars (ip : Ip) : IsWord ip.chars where
  ne_nil h := by
    obtain ⟨c, hc, -⟩ := exists_isMark ip
    simp [h] at hc
  not_blank _ hc := isBlank_of_isAddressChar (isAddressChar_of_mem hc)

end Match

/-! ## Networks -/

theorem decimal_injective : Function.Injective decimal := by
  intro a b h
  have hread := congrArg (Nat.ofDigitChars 10 · 0) h
  simpa [decimal, Nat.ofDigitChars_toDigits] using hread

namespace Subnet

open Match

theorem chars_eq (net : Subnet) : net.chars = net.addr.chars ++ '/' :: decimal net.length := by
  cases net <;> rfl

theorem ext_addr_length {a b : Subnet} (haddr : a.addr = b.addr) (hlength : a.length = b.length) :
    a = b := by
  cases a with
  | v4 a =>
    cases b with
    | v4 b => cases a; cases b; simp_all [addr, length, Fin.ext_iff]
    | v6 b => cases haddr
  | v6 a =>
    cases b with
    | v4 b => cases haddr
    | v6 b => cases a; cases b; simp_all [addr, length, Fin.ext_iff]

theorem chars_injective : Function.Injective Subnet.chars := by
  intro a b h
  rw [chars_eq, chars_eq] at h
  have hslash : ∀ ip : Ip, ∀ c ∈ ip.chars, (c == '/') = false := fun ip c hc => by
    simpa using ne_slash_of_isAddressChar (isAddressChar_of_mem hc)
  obtain ⟨haddr, -, hlength⟩ :=
    append_cons_inj (hslash a.addr) (hslash b.addr) rfl rfl h
  exact ext_addr_length (Ip.chars_injective haddr) (decimal_injective hlength)

theorem isWord_chars (net : Subnet) : IsWord net.chars := by
  rw [chars_eq]
  refine (Match.isWord_chars net.addr).append (List.forall_mem_cons.2 ⟨rfl, fun c hc => ?_⟩)
  exact isBlank_of_isAddressChar (isAddressChar_of_mem_decimal hc)

end Subnet

end RouteWatch
