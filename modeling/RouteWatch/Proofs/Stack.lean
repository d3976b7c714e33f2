import Mathlib.Data.List.Basic
import RouteWatch.Json.Printer
import RouteWatch.Proofs.Match.Addresses
import RouteWatch.Stack

/-!
# The families of printed networks

The text of an address has dots between octets and colons between groups: two of them at least, or
none. So a list of networks has a mark of a family two times or more if it has a network of that
family, and never only once. The one exception is an address that wraps four octets, which has marks
of both families.

* `Ip.two_le_count_mark`, `Ip.count_mark_eq_zero`: the marks of an address;
* `Subnet.two_le_count_mark_compact`, `Subnet.count_mark_compact_eq_zero`: those of a printed list;
* `Stack.exists_ofNetworks?_compact`: the families that are read off any list;
* `Stack.reads_printed_networks`: the families of the networks, if none of these wraps four octets.
-/

namespace RouteWatch

/-- The character between the numbers of an address of the family. -/
def Family.mark : Family → Char
  | .v4 => '.'
  | .v6 => ':'

theorem Family.isMark_mark (f : Family) : Match.isMark f.mark = true := by
  cases f <;> rfl

/-! ## The marks of an address -/

theorem count_mark_toDigits {base : Nat} (hb : 1 < base) (hb' : base ≤ 16) (n : Nat) (f : Family) :
    (Nat.toDigits base n).count f.mark = 0 := by
  refine List.count_eq_zero.2 fun h => ?_
  have hmark := Match.isMark_of_hexValue? (Ip.isSome_hexValue?_of_mem_toDigits hb hb' h)
  rw [f.isMark_mark] at hmark
  cases hmark

theorem count_mark_decimal (n : Nat) (f : Family) : (decimal n).count f.mark = 0 :=
  count_mark_toDigits (by decide) (by decide) n f

theorem count_mark_hexGroups (groups : List UInt16) (f : Family) :
    (hexGroups groups).count f.mark = if f = .v6 then groups.length - 1 else 0 := by
  have hdigits : ∀ g : UInt16, (Nat.toDigits 16 g.toNat).count f.mark = 0 :=
    fun g => count_mark_toDigits (by decide) (by decide) g.toNat f
  induction groups with
  | nil => simp [hexGroups, joinWith]
  | cons g groups ih =>
    cases groups with
    | nil => simp [hexGroups, joinWith, hdigits]
    | cons g' groups =>
      have hjoin : hexGroups (g :: g' :: groups) =
          Nat.toDigits 16 g.toNat ++ ':' :: hexGroups (g' :: groups) := rfl
      rw [hjoin, List.count_append, hdigits, List.count_cons, ih]
      cases f <;> simp [Family.mark]

theorem Ipv4.count_mark_chars (ip : Ipv4) (f : Family) :
    ip.chars.count f.mark = if f = .v4 then 3 else 0 := by
  simp only [chars, octets, joinWith, List.map, List.count_append, List.count_cons,
    count_mark_decimal]
  cases f <;> rfl

namespace Ipv6

variable {ip : Ipv6}

theorem count_mark_of_wrapped {inner : Ipv4} (h : ip.wrapped? = some inner) (f : Family) :
    ip.chars.count f.mark = 3 := by
  rw [chars, h]
  simp only [List.count_append, inner.count_mark_chars]
  cases f <;> rfl

theorem count_dot_of_unwrapped (h : ip.wrapped? = none) : ip.chars.count '.' = 0 := by
  have hgroups : ∀ gs, (hexGroups gs).count '.' = 0 := fun gs => count_mark_hexGroups gs .v4
  rw [chars, h]
  dsimp only
  split <;> simp [hgroups]

/-- Seven colons stand between eight groups, and two for a gap. -/
theorem two_le_count_colon (ip : Ipv6) : 2 ≤ ip.chars.count ':' := by
  cases h : ip.wrapped? with
  | some inner =>
    have hthree : ip.chars.count ':' = 3 := count_mark_of_wrapped h .v6
    omega
  | none =>
    rw [chars, h]
    dsimp only
    split
    · have hgap : [':', ':'].count ':' = 2 := rfl
      rw [List.count_append, List.count_append, hgap]
      omega
    · have hseven : (hexGroups ip.groups).count ':' = 7 := count_mark_hexGroups ip.groups .v6
      omega

end Ipv6

namespace Ip

/-- The address wraps one of four octets. -/
def wraps : Ip → Bool
  | .v4 _ => false
  | .v6 ip => ip.wrapped?.isSome

/-- The text of the address has marks of the family. -/
def Shows (ip : Ip) (f : Family) : Prop :=
  ip.family = f ∨ ip.wraps = true

variable {ip : Ip} {f : Family}

theorem two_le_count_mark (h : ip.Shows f) : 2 ≤ ip.chars.count f.mark := by
  rcases h with rfl | hwraps
  · cases ip with
    | v4 ip =>
      have hthree : ip.chars.count '.' = 3 := ip.count_mark_chars .v4
      exact hthree ▸ by decide
    | v6 ip => exact ip.two_le_count_colon
  · cases ip with
    | v4 ip => cases hwraps
    | v6 ip =>
      obtain ⟨inner, hinner⟩ := Option.isSome_iff_exists.1 hwraps
      rw [chars, Ipv6.count_mark_of_wrapped hinner]
      omega

theorem count_mark_eq_zero (h : ¬ ip.Shows f) : ip.chars.count f.mark = 0 := by
  obtain ⟨hfamily, hwraps⟩ := not_or.1 h
  cases ip with
  | v4 ip =>
    have hother : f ≠ .v4 := Ne.symm hfamily
    rw [chars, ip.count_mark_chars, if_neg hother]
  | v6 ip =>
    cases f with
    | v4 => exact Ipv6.count_dot_of_unwrapped (by simpa [wraps] using hwraps)
    | v6 => exact absurd rfl hfamily

end Ip

/-! ## The marks of a printed list -/

namespace Json

theorem itemsChars_texts (ss : List String) : itemsChars (ss.map text) = ss.map quotedChars := by
  induction ss with
  | nil => rfl
  | cons s ss ih =>
    have hitem : (text s).chars = quotedChars s := rfl
    rw [List.map_cons, itemsChars, hitem, ih, List.map_cons]

theorem toList_compact_ofTexts (ss : List String) :
    (ofTexts ss).compact.toList = '[' :: commas (ss.map quotedChars) ++ [']'] := by
  rw [compact, String.toList_ofList, ofTexts, chars, itemsChars_texts]

/-- But for the commas, the characters are those of the parts. -/
theorem count_commas {c : Char} (hc : ',' ≠ c) (parts : List (List Char)) :
    (commas parts).count c = parts.flatten.count c := by
  induction parts with
  | nil => rfl
  | cons part parts ih =>
    cases parts with
    | nil => simp [commas]
    | cons next parts =>
      have hcommas : commas (part :: next :: parts) = part ++ ',' :: commas (next :: parts) := rfl
      rw [hcommas, List.count_append, List.count_cons_of_ne hc, ih]
      exact List.count_append.symm

end Json

namespace Subnet

variable {nets : List Subnet} {f : Family}

theorem count_mark_chars (net : Subnet) (f : Family) :
    net.chars.count f.mark = net.addr.chars.count f.mark := by
  have hslash : '/' ≠ f.mark := by cases f <;> decide
  rw [chars_eq, List.count_append, List.count_cons_of_ne hslash, count_mark_decimal, Nat.add_zero]

/-- No character of a network has to be escaped. -/
theorem quotedChars_text (net : Subnet) :
    Json.quotedChars net.text = '"' :: net.chars ++ ['"'] := by
  have haddress : ∀ c, Match.isAddressChar c = true → Json.escapedChar c = [c] := fun c hc =>
    Match.forall_isAddressChar (p := fun c => Json.escapedChar c = [c]) hc (by decide)
  have hescaped : ∀ c ∈ net.chars, Json.escapedChar c = [c] := by
    intro c hc
    rw [chars_eq, List.mem_append, List.mem_cons] at hc
    rcases hc with hc | rfl | hc
    · exact haddress c (Match.isAddressChar_of_mem hc)
    · rfl
    · exact haddress c (Match.isAddressChar_of_mem_decimal hc)
  rw [Json.quotedChars, text, String.toList_ofList, List.flatMap_congr hescaped,
    List.flatMap_singleton']

theorem count_mark_quotedChars (net : Subnet) (f : Family) :
    (Json.quotedChars net.text).count f.mark = net.addr.chars.count f.mark := by
  have hquote : '"' ≠ f.mark := by cases f <;> decide
  rw [quotedChars_text, List.cons_append, List.count_cons_of_ne hquote, List.count_append,
    List.count_cons_of_ne hquote, List.count_nil, Nat.add_zero, count_mark_chars]

theorem count_mark_compact (nets : List Subnet) (f : Family) :
    (Json.ofTexts (nets.map text)).compact.toList.count f.mark =
      (nets.map fun net => Json.quotedChars net.text).flatten.count f.mark := by
  have hopen : '[' ≠ f.mark := by cases f <;> decide
  have hclose : ']' ≠ f.mark := by cases f <;> decide
  have hcomma : ',' ≠ f.mark := by cases f <;> decide
  rw [Json.toList_compact_ofTexts, List.cons_append, List.count_cons_of_ne hopen,
    List.count_append, List.count_cons_of_ne hclose, List.count_nil, Nat.add_zero,
    Json.count_commas hcomma, List.map_map]
  rfl

theorem two_le_count_mark_compact (h : ∃ net ∈ nets, net.addr.Shows f) :
    2 ≤ (Json.ofTexts (nets.map text)).compact.toList.count f.mark := by
  obtain ⟨net, hnet, hshows⟩ := h
  have hpart : (Json.quotedChars net.text).Sublist
      (nets.map fun net => Json.quotedChars net.text).flatten :=
    List.sublist_flatten_of_mem (List.mem_map_of_mem hnet)
  calc 2 ≤ net.addr.chars.count f.mark := Ip.two_le_count_mark hshows
    _ = (Json.quotedChars net.text).count f.mark := (net.count_mark_quotedChars f).symm
    _ ≤ (nets.map fun net => Json.quotedChars net.text).flatten.count f.mark := hpart.count_le _
    _ = (Json.ofTexts (nets.map text)).compact.toList.count f.mark :=
      (count_mark_compact nets f).symm

theorem count_mark_compact_eq_zero (h : ¬ ∃ net ∈ nets, net.addr.Shows f) :
    (Json.ofTexts (nets.map text)).compact.toList.count f.mark = 0 := by
  rw [count_mark_compact]
  refine List.count_eq_zero.2 fun hmem => ?_
  obtain ⟨part, hpart, hmark⟩ := List.mem_flatten.1 hmem
  obtain ⟨net, hnet, rfl⟩ := List.mem_map.1 hpart
  have hzero : net.addr.chars.count f.mark = 0 :=
    Ip.count_mark_eq_zero fun hshows => h ⟨net, hnet, hshows⟩
  exact List.count_eq_zero.1 ((net.count_mark_quotedChars f).trans hzero) hmark

theorem shows_addr_iff {net : Subnet} (h : net.addr.wraps = false) :
    net.addr.Shows f ↔ net.family = f := by
  simp [Ip.Shows, h]

end Subnet

/-! ## The families of a printed list -/

namespace Stack

/-- Where no mark comes just once, the families are those whose marks come. -/
theorem exists_ofNetworks? {s : String} {shown : Family → Prop} (hsome : ∃ f, shown f)
    (hshown : ∀ f, shown f → 2 ≤ s.toList.count f.mark)
    (hother : ∀ f, ¬ shown f → s.toList.count f.mark = 0) :
    ∃ stack, ofNetworks? s = some stack ∧ ∀ f, f ∈ stack.families ↔ shown f := by
  by_cases h4 : shown .v4
  · have hdots : 2 ≤ s.toList.count '.' := hshown .v4 h4
    by_cases h6 : shown .v6
    · have hcolons : 2 ≤ s.toList.count ':' := hshown .v6 h6
      refine ⟨.dual, by simp [ofNetworks?, hdots, hcolons], fun f => ?_⟩
      cases f <;> simp [families, h4, h6]
    · have hcolons : s.toList.count ':' = 0 := hother .v6 h6
      have hpos : 0 < s.toList.count '.' := by omega
      refine ⟨.v4, by simp [ofNetworks?, hpos, hcolons], fun f => ?_⟩
      cases f <;> simp [families, h4, h6]
  · have h6 : shown .v6 := by
      obtain ⟨f, hf⟩ := hsome
      cases f with
      | v4 => exact absurd hf h4
      | v6 => exact hf
    have hdots : s.toList.count '.' = 0 := hother .v4 h4
    have hcolons : 2 ≤ s.toList.count ':' := hshown .v6 h6
    have hpos : 0 < s.toList.count ':' := by omega
    refine ⟨.v6, by simp [ofNetworks?, hdots, hpos], fun f => ?_⟩
    cases f <;> simp [families, h4, h6]

theorem ext_families {a b : Stack} (h : ∀ f, f ∈ a.families ↔ f ∈ b.families) : a = b := by
  have h4 := h .v4
  have h6 := h .v6
  cases a <;> cases b <;> simp_all [families]

variable {nets : List Subnet}

/-- A list of networks has families to be read off, those that the addresses show. -/
theorem exists_ofNetworks?_compact (hne : nets ≠ []) :
    ∃ stack, ofNetworks? (Json.ofTexts (nets.map Subnet.text)).compact = some stack ∧
      ∀ f, f ∈ stack.families ↔ ∃ net ∈ nets, net.addr.Shows f := by
  obtain ⟨net, hnet⟩ := List.exists_mem_of_ne_nil nets hne
  exact exists_ofNetworks? ⟨_, net, hnet, .inl rfl⟩ (fun _ => Subnet.two_le_count_mark_compact)
    fun _ => Subnet.count_mark_compact_eq_zero

example : ofNetworks? "[\"::ffff:10.0.0.0/104\"]" = some .dual := by
  decide

theorem exists_ofNetworks?_of_unwrapped (hne : nets ≠ [])
    (h : ∀ net ∈ nets, net.addr.wraps = false) :
    ∃ stack, ofNetworks? (Json.ofTexts (nets.map Subnet.text)).compact = some stack ∧
      ∀ f, f ∈ stack.families ↔ ∃ net ∈ nets, net.family = f := by
  obtain ⟨stack, hstack, hfamilies⟩ := exists_ofNetworks?_compact hne
  refine ⟨stack, hstack, fun f => (hfamilies f).trans (exists_congr fun net => ?_)⟩
  exact and_congr_right fun hnet => Subnet.shows_addr_iff (h net hnet)

/-- The families of a printed list are those of its networks, if none of them wraps an address of
four octets. All that matters is which families there are, not how often or in which order. -/
theorem reads_printed_networks (hne : nets ≠ []) (h : ∀ net ∈ nets, net.addr.wraps = false) :
    (∃ stack, ofNetworks? (Json.ofTexts (nets.map Subnet.text)).compact = some stack ∧
      ∀ f, f ∈ stack.families ↔ ∃ net ∈ nets, net.family = f) ∧
    ∀ others : List Subnet, (∀ net ∈ others, net.addr.wraps = false) →
      (∀ f, (∃ net ∈ others, net.family = f) ↔ ∃ net ∈ nets, net.family = f) →
      ofNetworks? (Json.ofTexts (others.map Subnet.text)).compact =
        ofNetworks? (Json.ofTexts (nets.map Subnet.text)).compact := by
  obtain ⟨stack, hstack, hfamilies⟩ := exists_ofNetworks?_of_unwrapped hne h
  refine ⟨⟨stack, hstack, hfamilies⟩, fun others hothers hsame => ?_⟩
  have hne' : others ≠ [] := by
    obtain ⟨net, hnet⟩ := List.exists_mem_of_ne_nil nets hne
    obtain ⟨other, hother, -⟩ := (hsame net.family).2 ⟨net, hnet, rfl⟩
    exact List.ne_nil_of_mem hother
  obtain ⟨stack', hstack', hfamilies'⟩ := exists_ofNetworks?_of_unwrapped hne' hothers
  have heq : stack' = stack := ext_families fun f => by rw [hfamilies', hfamilies, hsame]
  rw [hstack, hstack', heq]

/-- One address is nothing but a gap, the other one has none. -/
theorem reads_printed_networks_of_gap :
    let v4 := Subnet.v4 ⟨⟨172, 30, 0, 0⟩, 16⟩
    let gap := Subnet.v6 ⟨⟨0, 0, 0, 0, 0, 0, 0, 0⟩, 0⟩
    let noGap := Subnet.v6 ⟨⟨0xFD02, 1, 2, 3, 4, 5, 6, 7⟩, 128⟩
    [v4, gap] ≠ [] ∧ (∀ net ∈ [v4, gap], net.addr.wraps = false) ∧
    (∀ net ∈ [noGap, v4, noGap], net.addr.wraps = false) ∧
    (∃ stack, ofNetworks? (Json.ofTexts ([v4, gap].map Subnet.text)).compact = some stack ∧
      ∀ f, f ∈ stack.families) ∧
    ofNetworks? (Json.ofTexts ([noGap, v4, noGap].map Subnet.text)).compact =
      ofNetworks? (Json.ofTexts ([v4, gap].map Subnet.text)).compact := by
  intro v4 gap noGap
  have hne : [v4, gap] ≠ [] := List.cons_ne_nil v4 [gap]
  have h : ∀ net ∈ [v4, gap], net.addr.wraps = false := by decide
  have h' : ∀ net ∈ [noGap, v4, noGap], net.addr.wraps = false := by decide
  have hall : ∀ f : Family, ∃ net ∈ [v4, gap], net.family = f := by
    intro f
    cases f with
    | v4 => exact ⟨v4, by simp, rfl⟩
    | v6 => exact ⟨gap, by simp, rfl⟩
  have hall' : ∀ f : Family, ∃ net ∈ [noGap, v4, noGap], net.family = f := by
    intro f
    cases f with
    | v4 => exact ⟨v4, by simp, rfl⟩
    | v6 => exact ⟨noGap, by simp, rfl⟩
  obtain ⟨⟨stack, hstack, hfamilies⟩, hothers⟩ := reads_printed_networks hne h
  refine ⟨hne, h, h', ⟨stack, hstack, fun f => (hfamilies f).2 (hall f)⟩, ?_⟩
  exact hothers _ h' fun f => iff_of_true (hall' f) (hall f)

end Stack

end RouteWatch
