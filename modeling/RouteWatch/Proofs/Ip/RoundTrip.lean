import RouteWatch.Proofs.Ip.Numbers

/-!
# Addresses are read as they are printed

The canonical text of an address is read back, whatever follows it that cannot belong to it. An
address of eight groups can be written in many ways (`Ipv6.Form`): its groups with leading zeros and
in upper case, zero groups left out anywhere, the last two groups as four octets. All of them are read
as that address.

* `v4?_chars`, `v6?_of_form`: the address at the start of a text;
* `Ip.parse?_of_form`, `Ip.parse?_text`: the address that is the text;
* `Ip.chars_injective`: two addresses have different texts.
-/

namespace RouteWatch

namespace Ip

theorem Stops.ten {rest : List Char} (h : Stops 16 rest) : Stops 10 rest := by
  intro c hc
  have h16 := h c hc
  rw [digitValue?, Option.filter_eq_none_iff] at h16 ⊢
  intro d hd hlt
  exact h16 d hd (by simp only [decide_eq_true_eq] at hlt ⊢; lia)

/-! ## Four octets -/

theorem number?_decimal {width bound n : Nat} (hwidth : (decimal n).length ≤ width)
    (hbound : n < bound) (leadingZeros : Bool) {rest : List Char} (hrest : Stops 10 rest) :
    number? 10 width bound leadingZeros (decimal n ++ rest) = some (n, rest) :=
  number?_toDigits (by decide) (by decide) hwidth hbound leadingZeros hrest

theorem octet_decimal (o : UInt8) (leadingZeros : Bool) {rest : List Char} (hrest : Stops 10 rest) :
    number? 10 3 256 leadingZeros (decimal o.toNat ++ rest) = some (o.toNat, rest) :=
  number?_decimal ((Nat.length_toDigits_le_iff (by decide) (by decide)).2
    (Nat.lt_trans o.toNat_lt (by decide))) o.toNat_lt leadingZeros hrest

@[simp] theorem char?_cons (c : Char) (rest : List Char) : char? c (c :: rest) = some rest := by
  simp [char?]

theorem v4?_chars (rule : Reading) (ip : Ipv4) {rest : List Char} (hrest : Stops 10 rest) :
    v4? rule (ip.chars ++ rest) = some (ip, rest) := by
  have hdot : ∀ cs, Stops 10 ('.' :: cs) := fun cs => stops_cons cs rfl
  simp [v4?, Ipv4.chars, Ipv4.octets, joinWith, octet_decimal, hdot, hrest]

/-- There are no octets where no dot comes after the first digits. -/
theorem v4?_eq_none {rule : Reading} {cs : List Char} (h : (digitRun 10 cs).2.head? ≠ some '.') :
    v4? rule cs = none := by
  have hchar : char? '.' (digitRun 10 cs).2 = none := by
    revert h
    cases (digitRun 10 cs).2 with
    | nil => simp [char?]
    | cons d rest => simp [char?, eq_comm]
  have hnumber : ∀ n rest, number? 10 3 256 rule.leadingZeros cs = some (n, rest) →
      rest = (digitRun 10 cs).2 := by
    intro n rest hread
    simp only [number?] at hread
    split at hread
    · cases hread
    · split at hread
      · cases hread
      · cases hread
        rfl
  cases hread : number? 10 3 256 rule.leadingZeros cs with
  | none => simp [v4?, hread]
  | some p => simp [v4?, hread, hnumber p.1 p.2 hread, hchar]

theorem v4?_of_stops {rule : Reading} {cs : List Char} (h : Stops 10 cs) : v4? rule cs = none := by
  simp [v4?, number?_of_stops h]

/-- Hexadecimal digits without a dot after them are not the start of four octets. -/
theorem v4?_hex {rule : Reading} {hex rest : List Char}
    (hhex : ∀ c ∈ hex, (hexValue? c).isSome = true) (hrest : Stops 16 rest)
    (hdot : rest.head? ≠ some '.') : v4? rule (hex ++ rest) = none := by
  refine v4?_eq_none ?_
  induction hex with
  | nil =>
    have hrun : (digitRun 10 rest).2 = rest := by
      cases rest with
      | nil => rfl
      | cons c rest => simp [digitRun, hrest.ten c rfl]
    simpa [hrun] using hdot
  | cons c hex ih =>
    obtain ⟨hc, hhex⟩ := List.forall_mem_cons.1 hhex
    rw [List.cons_append, digitRun]
    split
    · exact ih hhex
    · rintro h
      cases h
      cases hc

/-! ## Groups -/

/-- What ends the groups of an address: no digit, no dot, and no other group. -/
structure EndsGroups (rest : List Char) : Prop where
  /-- No digit comes first. -/
  stops : Stops 16 rest
  /-- No dot comes first. -/
  dot : rest.head? ≠ some '.'
  /-- No group comes after a colon. -/
  colon : ∀ r, rest = ':' :: r → Stops 16 r

theorem endsGroups_nil : EndsGroups [] :=
  ⟨stops_nil 16, by simp, by simp⟩

theorem endsGroups_gap (rest : List Char) : EndsGroups (':' :: ':' :: rest) where
  stops := stops_cons _ rfl
  dot := by simp
  colon := by
    rintro r h
    cases h
    exact stops_cons rest rfl

/-- The digits are a way to write the group: one to four of them, in upper or in lower case. -/
structure Denotes (digits : List Char) (g : UInt16) : Prop where
  ne_nil : digits ≠ []
  length_le : digits.length ≤ 4
  isSome_digit : ∀ c ∈ digits, (digitValue? 16 c).isSome = true
  numeral_eq : numeral 16 (digits.filterMap (digitValue? 16)) = g.toNat

theorem Denotes.isSome_hexValue? {digits : List Char} {g : UInt16} (h : Denotes digits g) :
    ∀ c ∈ digits, (hexValue? c).isSome = true :=
  fun c hc => Option.isSome_of_isSome_filter _ _ (h.isSome_digit c hc)

/-- The digits that are printed of a group. -/
def hexGroup (g : UInt16) : List Char :=
  Nat.toDigits 16 g.toNat

theorem denotes_hexGroup (g : UInt16) : Denotes (hexGroup g) g := by
  obtain ⟨ds, hdigits, hds, hvalue, hne, -⟩ := exists_digits (by decide : 1 < 16) g.toNat
  have hlength : (hexGroup g).length ≤ 4 :=
    (Nat.length_toDigits_le_iff (by decide) (by decide)).2 g.toNat_lt
  rw [hexGroup, hdigits] at hlength ⊢
  refine ⟨by simpa using hne, hlength, fun _ => isSome_digitValue?_of_mem (by decide) hds, ?_⟩
  rw [filterMap_digitChar (by decide) hds, hvalue]

/-- More groups, each with the colon before it. -/
def moreGroups (texts : List (List Char)) : List Char :=
  texts.flatMap fun text => ':' :: text

theorem joinWith_cons (text : List Char) (texts : List (List Char)) :
    joinWith ':' (text :: texts) = text ++ moreGroups texts := by
  induction texts generalizing text with
  | nil => simp [joinWith, moreGroups]
  | cons text' texts ih =>
    have hjoin : joinWith ':' (text :: text' :: texts) =
        text ++ ':' :: joinWith ':' (text' :: texts) := rfl
    rw [hjoin, ih, moreGroups, moreGroups, List.flatMap_cons, List.cons_append]

/-- The texts write the groups. Each is one group in hexadecimal; the last one may be four octets
instead, which are two groups. -/
inductive Writes : (dotted : Bool) → List (List Char) → List UInt16 → Prop
  | nil : Writes false [] []
  | octets (ip : Ipv4) : Writes true [ip.chars]
      [ip.a.toUInt16 * 256 + ip.b.toUInt16, ip.c.toUInt16 * 256 + ip.d.toUInt16]
  | group {dotted : Bool} {digits : List Char} {g : UInt16} {texts : List (List Char)}
      {gs : List UInt16} (hdigits : Denotes digits g) (h : Writes dotted texts gs) :
      Writes dotted (digits :: texts) (g :: gs)

theorem writes_hexGroups (gs : List UInt16) : Writes false (gs.map hexGroup) gs := by
  induction gs with
  | nil => exact .nil
  | cons g gs ih => exact .group (denotes_hexGroup g) ih

variable {rule : Reading} {first dotted : Bool} {cs rest : List Char} {texts : List (List Char)}
  {gs : List UInt16}

/-- Where the groups stop, none is read. -/
theorem groups_stop (room : Nat) (h : ∀ r, groupStart? first cs = some r → Stops 16 r) :
    groups rule room first cs = ([], false, cs) := by
  cases room with
  | zero => rfl
  | succ room =>
    rw [groups]
    cases hstart : groupStart? first cs with
    | none => simp
    | some r => simp [v4?_of_stops (h r hstart).ten, number?_of_stops (h r hstart)]

/-- Where a group starts, it is read, and then the groups after it. -/
theorem groups_group (room : Nat) {digits : List Char} {g : UInt16} (hdigits : Denotes digits g)
    (h : groupStart? first cs = some (digits ++ rest)) (hrest : Stops 16 rest)
    (hdot : rest.head? ≠ some '.') :
    groups rule (room + 1) first cs =
      (g :: (groups rule room false rest).1, (groups rule room false rest).2) := by
  have hbound : numeral 16 (digits.filterMap (digitValue? 16)) < 0x10000 := by
    rw [hdigits.numeral_eq]
    exact g.toNat_lt
  have hnumber : number? 16 4 0x10000 true (digits ++ rest) = some (g.toNat, rest) := by
    rw [number?_append hdigits.isSome_digit hdigits.ne_nil hdigits.length_le hbound hrest,
      hdigits.numeral_eq]
  have hv4 : v4? rule (digits ++ rest) = none := v4?_hex hdigits.isSome_hexValue? hrest hdot
  rw [groups]
  simp [h, hv4, hnumber]

/-- Where four octets start, they are read as the last two groups. -/
theorem groups_octets (room : Nat) {ip : Ipv4}
    (h : groupStart? first cs = some (ip.chars ++ rest)) (hrest : Stops 10 rest) :
    groups rule (room + 2) first cs =
      ([ip.a.toUInt16 * 256 + ip.b.toUInt16, ip.c.toUInt16 * 256 + ip.d.toUInt16], true, rest) := by
  rw [groups]
  simp [h, v4?_chars rule ip hrest]

theorem stops_moreGroups (texts : List (List Char)) (h : EndsGroups rest) :
    Stops 16 (moreGroups texts ++ rest) ∧ (moreGroups texts ++ rest).head? ≠ some '.' := by
  cases texts with
  | nil => exact ⟨h.stops, h.dot⟩
  | cons text texts => exact ⟨stops_cons _ rfl, by simp [moreGroups]⟩

theorem groups_moreGroups {room : Nat} (hwrites : Writes dotted texts gs)
    (hroom : gs.length ≤ room) (h : EndsGroups rest) :
    groups rule room false (moreGroups texts ++ rest) = (gs, dotted, rest) := by
  induction hwrites generalizing room with
  | nil =>
    refine groups_stop room fun r hr => ?_
    cases rest with
    | nil => cases hr
    | cons c rest =>
      simp only [groupStart?, moreGroups, List.flatMap_nil, List.nil_append, char?,
        Bool.false_eq_true, if_false] at hr
      split at hr
      next hc =>
        cases hr
        exact h.colon _ (by rw [hc])
      next => cases hr
  | octets ip =>
    obtain ⟨room, rfl⟩ : ∃ r, room = r + 2 := ⟨room - 2, by simp at hroom; lia⟩
    exact groups_octets room (by simp [groupStart?, moreGroups]) h.stops.ten
  | @group dotted digits g texts gs hdigits _ ih =>
    obtain ⟨room, rfl⟩ : ∃ r, room = r + 1 := ⟨room - 1, by simp at hroom; lia⟩
    obtain ⟨hstops, hdot⟩ := stops_moreGroups texts h
    have hstart : groupStart? false (moreGroups (digits :: texts) ++ rest) =
        some (digits ++ (moreGroups texts ++ rest)) := by
      simp [groupStart?, moreGroups]
    rw [groups_group room hdigits hstart hstops hdot, ih (by simpa using hroom)]

theorem groups_joinWith {room : Nat} (hwrites : Writes dotted texts gs)
    (hroom : gs.length ≤ room) (h : EndsGroups rest) :
    groups rule room true (joinWith ':' texts ++ rest) = (gs, dotted, rest) := by
  cases hwrites with
  | nil =>
    refine groups_stop room ?_
    rintro r hr
    obtain rfl : rest = r := by simpa [groupStart?, joinWith] using hr
    exact h.stops
  | octets ip =>
    obtain ⟨room, rfl⟩ : ∃ r, room = r + 2 := ⟨room - 2, by simp at hroom; lia⟩
    exact groups_octets room rfl h.stops.ten
  | @group _ digits g texts gs hdigits hwrites =>
    obtain ⟨room, rfl⟩ : ∃ r, room = r + 1 := ⟨room - 1, by simp at hroom; lia⟩
    obtain ⟨hstops, hdot⟩ := stops_moreGroups texts h
    have hstart : groupStart? true (joinWith ':' (digits :: texts) ++ rest) =
        some (digits ++ (moreGroups texts ++ rest)) := by
      simp [groupStart?, joinWith_cons]
    rw [groups_group room hdigits hstart hstops hdot,
      groups_moreGroups hwrites (by simpa using hroom) h]

end Ip

/-! ## The ways to write eight groups -/

theorem takeWhile_zero (gs : List UInt16) :
    gs.takeWhile (· == 0) = List.replicate (zeroRun gs) 0 := by
  have hzero := List.all_eq_true.1 (List.all_takeWhile (p := (· == 0)) (l := gs))
  exact List.eq_replicate_iff.2 ⟨rfl, fun g hg => by simpa using hzero g hg⟩

/-- The longest run consists of zero groups, wherever it stands. -/
theorem exists_longestZeroRun (index : Nat) (gs : List UInt16) :
    ∃ before after, gs = before ++ List.replicate (longestZeroRun index gs).2 0 ++ after ∧
      (longestZeroRun index gs).1 = index + before.length := by
  induction gs generalizing index with
  | nil => exact ⟨[], [], rfl, rfl⟩
  | cons g gs ih =>
    rw [longestZeroRun]
    split
    · obtain ⟨before, after, hgs, hstart⟩ := ih (index + 1)
      refine ⟨g :: before, after, ?_, ?_⟩
      · rw [List.cons_append, List.cons_append, ← hgs]
      · rw [hstart, List.length_cons]
        lia
    · refine ⟨[], (g :: gs).dropWhile (· == 0), ?_, rfl⟩
      rw [List.nil_append, ← takeWhile_zero, List.takeWhile_append_dropWhile]

namespace Ipv6

/-- The ways to write an address of eight groups. -/
inductive Form (ip : Ipv6) : List Char → Prop
  | plain {dotted : Bool} {texts : List (List Char)} (hwrites : Ip.Writes dotted texts ip.groups) :
      Form ip (joinWith ':' texts)
  /-- Some zero groups are left out. -/
  | gap {dotted : Bool} {before after : List UInt16} {texts texts' : List (List Char)}
      (length : Nat) (hlength : 0 < length)
      (hgroups : ip.groups = before ++ List.replicate length 0 ++ after)
      (hbefore : Ip.Writes false texts before) (hafter : Ip.Writes dotted texts' after) :
      Form ip (joinWith ':' texts ++ ([':', ':'] ++ joinWith ':' texts'))

/-- An address that wraps one of four octets ends like that one. -/
theorem form_wrapped {ip : Ipv6} (inner : Ipv4) (hgroups : ip.groups = [0, 0, 0, 0, 0, 0xFFFF,
      inner.a.toUInt16 * 256 + inner.b.toUInt16, inner.c.toUInt16 * 256 + inner.d.toUInt16]) :
    ip.Form ([':', ':', 'f', 'f', 'f', 'f', ':'] ++ inner.chars) :=
  .gap 5 (by decide) hgroups .nil (.group (Ip.denotes_hexGroup 0xFFFF) (.octets inner))

theorem toUInt16_mul_add (g : UInt16) :
    (g >>> 8).toUInt8.toUInt16 * 256 + g.toUInt8.toUInt16 = g := by
  apply UInt16.toNat_inj.1
  have hg := g.toNat_lt
  simp [Nat.shiftRight_eq_div_pow]
  omega

theorem form_chars (ip : Ipv6) : ip.Form ip.chars := by
  rw [chars]
  split
  next inner hwrapped =>
    rw [wrapped?] at hwrapped
    split at hwrapped
    next high low hgroups =>
      have h : _ → ip.Form _ := form_wrapped inner
      cases hwrapped
      exact h (by rw [hgroups, toUInt16_mul_add, toUInt16_mul_add])
    next => cases hwrapped
  next =>
    obtain ⟨before, after, hgroups, hstart⟩ := exists_longestZeroRun 0 ip.groups
    split
    next start length hrun =>
      obtain rfl : start = before.length := by simpa [hrun] using hstart
      simp only [hrun] at hgroups
      split
      next hlength =>
        have htake : ip.groups.take before.length = before := by
          simp [hgroups]
        have hdrop : ip.groups.drop (before.length + length) = after := by
          simp [hgroups, ← List.drop_drop]
        rw [htake, hdrop, List.append_assoc]
        exact .gap length (by lia) hgroups (Ip.writes_hexGroups before)
          (Ip.writes_hexGroups after)
      next => exact .plain (Ip.writes_hexGroups ip.groups)

@[simp] theorem length_groups (ip : Ipv6) : ip.groups.length = 8 := rfl

@[simp] theorem ofGroups?_groups (ip : Ipv6) : ofGroups? ip.groups = some ip := rfl

end Ipv6

namespace Ip

variable {rule : Reading} {ip : Ipv6} {dotted : Bool} {text rest : List Char}
  {texts : List (List Char)} {gs : List UInt16}

theorem v6?_of_form (hform : ip.Form text) (h : EndsGroups rest) :
    v6? rule (text ++ rest) = some (ip, rest) := by
  cases hform with
  | plain hwrites =>
    rw [v6?, groups_joinWith hwrites (by simp) h]
    simp
  | @gap _ before after texts texts' length hlength hgroups hbefore hafter =>
    have height : before.length + length + after.length = 8 := by
      rw [← ip.length_groups, hgroups]
      simp [Nat.add_assoc]
    have hhead : groups rule 8 true
        (joinWith ':' texts ++ ([':', ':'] ++ joinWith ':' texts') ++ rest) =
          (before, false, ':' :: ':' :: (joinWith ':' texts' ++ rest)) := by
      rw [List.append_assoc]
      exact groups_joinWith hbefore (by lia) (endsGroups_gap _)
    have hroom : after.length ≤ 8 - before.length - (if rule.emptyGap then 0 else 1) := by
      split <;> lia
    have hgap : 8 - before.length - after.length = length := by lia
    have hne : before.length ≠ 8 := by lia
    rw [v6?, hhead]
    rw [List.append_assoc] at hgroups
    simp [hne, groups_joinWith hafter hroom h, hgap, ← hgroups]

theorem v6?_chars (h : EndsGroups rest) : v6? rule (ip.chars ++ rest) = some (ip, rest) :=
  v6?_of_form ip.form_chars h

theorem v4?_joinWith (hwrites : Writes dotted texts gs) (hlength : dotted = true → 2 < gs.length)
    (h : EndsGroups rest) : v4? rule (joinWith ':' texts ++ rest) = none := by
  cases hwrites with
  | nil => exact v4?_of_stops h.stops.ten
  | octets ip => simp at hlength
  | @group _ digits _ texts _ hdigits hwrites =>
    obtain ⟨hstops, hdot⟩ := stops_moreGroups texts h
    rw [joinWith_cons, List.append_assoc]
    exact v4?_hex hdigits.isSome_hexValue? hstops hdot

/-- The text of eight groups does not start with four octets. -/
theorem v4?_of_form (hform : ip.Form text) (h : EndsGroups rest) :
    v4? rule (text ++ rest) = none := by
  cases hform with
  | plain hwrites => exact v4?_joinWith hwrites (fun _ => by simp) h
  | gap length hlength hgroups hbefore hafter =>
    rw [List.append_assoc]
    exact v4?_joinWith hbefore nofun (endsGroups_gap _)

/-! ## Addresses of both families -/

theorem parse?_of_form (hform : ip.Form text) :
    Ip.parse? (String.ofList text) = some (.v6 ip) := by
  have h4 : v4? strict (text ++ []) = none := v4?_of_form hform endsGroups_nil
  have h6 : v6? strict (text ++ []) = some (ip, []) := v6?_of_form hform endsGroups_nil
  rw [List.append_nil] at h4 h6
  simp [Ip.parse?, whole?, address?, h4, h6]

theorem parse?_text (ip : Ip) : Ip.parse? ip.text = some ip := by
  cases ip with
  | v4 ip =>
    have h := v4?_chars strict ip (stops_nil 10)
    rw [List.append_nil] at h
    simp [Ip.parse?, whole?, address?, text, chars, h]
  | v6 ip => exact parse?_of_form ip.form_chars

theorem text_injective : Function.Injective Ip.text := by
  intro a b h
  have hparse := congrArg Ip.parse? h
  simpa [parse?_text] using hparse

theorem chars_injective : Function.Injective Ip.chars :=
  fun _ _ h => text_injective (congrArg String.ofList h)

end Ip

theorem Ipv4.parse?_text (ip : Ipv4) : Ipv4.parse? ip.text = some ip := by
  have h := Ip.v4?_chars Ip.strict ip (Ip.stops_nil 10)
  rw [List.append_nil] at h
  simp [Ipv4.parse?, Ip.whole?, text, h]

end RouteWatch
