import RouteWatch.Proofs.Match.Route
import RouteWatch.Proofs.Text.Lines

/-!
# The lines of the kernel's table

A route of the kernel's table is a line with a network, a next hop and a protocol in it. The matcher
asks for a blank after the network and for one after the next hop, and takes a line feed for a blank.
So it goes on in the next line where the network, or the next hop, ends the line that it is in, and may
take the protocol of another route.

* `exists_shows_iff`: the neighboring lines in which a route is found;
* `kernelTable_lines`: when the lines alone decide;
* `kernelTable_mixes_routes`: a table where they do not.
-/

namespace RouteWatch.Match

open Text

variable {subnet : Subnet} {nextHop : Ip} {network hop protocol : List Char} {c c₁ c₂ : Char}

/-- What a route says: the network, as a table writes it, text that ends with the next hop, and text
with the protocol in it. -/
structure Says (subnet : Subnet) (nextHop : Ip) (network hop protocol : List Char) : Prop where
  network_eq : network = subnet.trunc.chars ∨
    subnet.isHost = true ∧ network = subnet.trunc.addr.chars
  hop_eq : ∃ before, hop = before ++ ("via ".toList ++ nextHop.chars) ∧
    startsWord before.getLast? = true
  protocol_eq : ∃ before after, protocol = before ++ ("proto bgp".toList ++ after) ∧
    startsWord before.getLast? = true ∧ endsWord after = true

/-- The line says all of it. -/
def LineShows (subnet : Subnet) (nextHop : Ip) (line : List Char) : Prop :=
  ∃ network hop protocol c₁ c₂, Says subnet nextHop network hop protocol ∧
    isBlank c₁ = true ∧ isBlank c₂ = true ∧ line = network ++ c₁ :: (hop ++ c₂ :: protocol)

/-- Two or three lines say it together: the network is one of them, or the next hop ends one. -/
inductive SpillsOver (subnet : Subnet) (nextHop : Ip) : List (List Char) → Prop
  | afterNetwork {network hop protocol : List Char} {c : Char}
      (h : Says subnet nextHop network hop protocol) (hc : isBlank c = true) :
      SpillsOver subnet nextHop [network, hop ++ c :: protocol]
  | afterHop {network hop protocol : List Char} {c : Char}
      (h : Says subnet nextHop network hop protocol) (hc : isBlank c = true) :
      SpillsOver subnet nextHop [network ++ c :: hop, protocol]
  | afterBoth {network hop protocol : List Char} (h : Says subnet nextHop network hop protocol) :
      SpillsOver subnet nextHop [network, hop, protocol]

/-! ## Where a word starts and where a line ends -/

theorem isWordChar_of_isBlank (hc : isBlank c = true) : isWordChar c = false := by
  have hall : ∀ r ∈ blankRanges, ∀ n ∈ List.range' r.1 (r.2 + 1 - r.1),
      isWordChar (Char.ofNat n) = false := by
    decide +kernel
  obtain ⟨r, hr, hrange⟩ := List.any_eq_true.1 hc
  simp only [Bool.and_eq_true, decide_eq_true_eq] at hrange
  obtain ⟨hlow, hhigh⟩ := hrange
  have hmem : c.toNat ∈ List.range' r.1 (r.2 + 1 - r.1) := by
    rw [List.mem_range'_1]
    omega
  have hword := hall r hr c.toNat hmem
  rwa [Char.ofNat_toNat] at hword

/-- Whether a word starts in text after a blank does not depend on the blank. -/
theorem startsWord_lastOr (hc : isBlank c = true) (before : List Char) :
    startsWord (lastOr (some c) before) = startsWord before.getLast? := by
  unfold lastOr
  cases before.getLast? with
  | some d => rfl
  | none => simp [startsWord, isWordChar_of_isBlank hc]

/-- The end of a line ends a word. -/
theorem endsWord_append {line after : List Char} (hafter : endsLine after = true) :
    endsWord (line ++ after) = endsWord line := by
  cases line with
  | cons d line => rfl
  | nil =>
    cases after with
    | nil => rfl
    | cons d after =>
      obtain rfl : d = '\n' := by simpa [endsLine] using hafter
      show (!isWordChar '\n') = true
      decide

/-! ## The pieces of a match -/

theorem alongLine_protocolIsBgp_iff {text : List Char} (hc : isBlank c = true) :
    alongLine protocolIsBgp (some c) text = true ↔
      ∃ protocol after, text = protocol ++ after ∧ '\n' ∉ protocol ∧ endsLine after = true ∧
        ∃ before rest, protocol = before ++ ("proto bgp".toList ++ rest) ∧
          startsWord before.getLast? = true ∧ endsWord rest = true := by
  simp only [alongLine_iff, protocolIsBgp, Bool.and_eq_true, Option.any_eq_true,
    after?_eq_some_iff, startsWord_lastOr hc]
  constructor
  · rintro ⟨before, _, rfl, hbefore, hstart, rest, rfl, hrest⟩
    obtain ⟨line, after, rfl, hline, hafter⟩ := exists_endsLine rest
    rw [endsWord_append hafter] at hrest
    refine ⟨before ++ ("proto bgp".toList ++ line), after, by simp, ?_, hafter,
      before, line, rfl, hstart, hrest⟩
    rw [List.mem_append, List.mem_append, not_or, not_or, String.toList_ofList]
    exact ⟨hbefore, by decide, hline⟩
  · rintro ⟨_, after, rfl, hprotocol, hafter, before, rest, rfl, hstart, hrest⟩
    have hbefore : '\n' ∉ before := fun h => hprotocol (List.mem_append_left _ h)
    refine ⟨before, _, List.append_assoc _ _ _, hbefore, hstart, rest ++ after,
      List.append_assoc _ _ _, ?_⟩
    rwa [endsWord_append hafter]

theorem line_feed_not_mem_chars (ip : Ip) : '\n' ∉ ip.chars :=
  fun h => absurd ((isWord_chars ip).not_blank '\n' h) (by decide)

theorem alongLine_viaNextHop_iff {text : List Char} (hc : isBlank c = true) :
    alongLine (viaNextHop nextHop) (some c) text = true ↔
      ∃ hop d rest, text = hop ++ d :: rest ∧ '\n' ∉ hop ∧
        (∃ before, hop = before ++ ("via ".toList ++ nextHop.chars) ∧
          startsWord before.getLast? = true) ∧
        isBlank d = true ∧ alongLine protocolIsBgp (some d) rest = true := by
  rw [alongLine_iff]
  simp only [viaNextHop, Bool.and_eq_true, Option.any_eq_true, after?_eq_some_iff,
    startsWord_lastOr hc]
  constructor
  · rintro ⟨before, _, rfl, hbefore, hstart, rest, rfl, hrest⟩
    cases rest with
    | nil => cases hrest
    | cons d rest =>
      rw [blankThen, Bool.and_eq_true] at hrest
      refine ⟨before ++ ("via ".toList ++ nextHop.chars), d, rest, by simp, ?_,
        ⟨before, rfl, hstart⟩, hrest.1, hrest.2⟩
      rw [List.mem_append, List.mem_append, not_or, not_or, String.toList_ofList]
      exact ⟨hbefore, by decide, line_feed_not_mem_chars nextHop⟩
  · rintro ⟨_, d, rest, rfl, hhop, ⟨before, rfl, hstart⟩, hd, hrest⟩
    have hbefore : '\n' ∉ before := fun h => hhop (List.mem_append_left _ h)
    refine ⟨before, _, List.append_assoc _ _ _, hbefore, hstart, d :: rest, rfl, ?_⟩
    rw [blankThen, Bool.and_eq_true]
    exact ⟨hd, hrest⟩

/-- The lines say it, and each of the two blanks may be the end of a line. -/
def Shows (subnet : Subnet) (nextHop : Ip) (ls : List (List Char)) : Prop :=
  ∃ network hop protocol c₁ c₂, Says subnet nextHop network hop protocol ∧
    isBlank c₁ = true ∧ isBlank c₂ = true ∧ '\n' ∉ hop ∧ '\n' ∉ protocol ∧
    ls = (network ++ c₁ :: (hop ++ c₂ :: protocol)).splitOn '\n'

theorem exists_shows_iff {table : List Char} :
    kernelTable subnet nextHop table = true ↔
      ∃ ls, ls <:+: table.splitOn '\n' ∧ Shows subnet nextHop ls := by
  rw [kernelTable_iff]
  constructor
  · rintro ⟨before, network, c₁, text, rfl, hstart, hnetwork, hc₁, htext⟩
    obtain ⟨hop, c₂, rest, rfl, hhop, hhop_eq, hc₂, hrest⟩ := (alongLine_viaNextHop_iff hc₁).1 htext
    obtain ⟨protocol, after, rfl, hprotocol, hafter, hprotocol_eq⟩ :=
      (alongLine_protocolIsBgp_iff hc₂).1 hrest
    refine ⟨_, ?_, network, hop, protocol, c₁, c₂,
      ⟨mem_spellings_iff.1 hnetwork, hhop_eq, hprotocol_eq⟩, hc₁, hc₂, hhop, hprotocol, rfl⟩
    have hlines : (network ++ c₁ :: (hop ++ c₂ :: protocol)).splitOn '\n' <:+:
        (before ++ ((network ++ c₁ :: (hop ++ c₂ :: protocol)) ++ after)).splitOn '\n' :=
      infix_splitOn hstart hafter
    simpa using hlines
  · rintro ⟨_, hlines, network, hop, protocol, c₁, c₂, hsays, hc₁, hc₂, hhop, hprotocol, rfl⟩
    obtain ⟨before, after, rfl, hstart, hafter⟩ :=
      exists_of_infix_splitOn (List.splitOn_ne_nil _ _) hlines
    rw [List.intercalate_splitOn]
    have hrest := (alongLine_protocolIsBgp_iff hc₂).2
      ⟨protocol, after, rfl, hprotocol, hafter, hsays.protocol_eq⟩
    have htext := (alongLine_viaNextHop_iff hc₁).2
      ⟨hop, c₂, protocol ++ after, rfl, hhop, hsays.hop_eq, hc₂, hrest⟩
    exact ⟨before, network, c₁, _, by simp, hstart, mem_spellings_iff.2 hsays.network_eq, hc₁, htext⟩

/-! ## Which lines these are -/

theorem Says.line_feed_not_mem (h : Says subnet nextHop network hop protocol) : '\n' ∉ network := by
  have hword := isWord_of_mem_spellings (mem_spellings_iff.2 h.network_eq)
  intro hmem
  exact absurd (hword.not_blank '\n' hmem) (by decide)

theorem not_mem_append_cons {stop d : Char} {a b : List Char} :
    stop ∉ a ++ d :: b ↔ stop ∉ a ∧ stop ≠ d ∧ stop ∉ b := by
  rw [List.mem_append, List.mem_cons, not_or, not_or]

theorem lineShows_or_spillsOver {ls : List (List Char)} (h : Shows subnet nextHop ls) :
    (∃ line, ls = [line] ∧ LineShows subnet nextHop line) ∨ SpillsOver subnet nextHop ls := by
  obtain ⟨network, hop, protocol, c₁, c₂, hsays, hc₁, hc₂, hhop, hprotocol, rfl⟩ := h
  have hnetwork := hsays.line_feed_not_mem
  by_cases hfirst : c₁ = '\n'
  · subst hfirst
    rw [List.splitOn_append_cons_self_of_not_mem hnetwork]
    by_cases hsecond : c₂ = '\n'
    · subst hsecond
      rw [List.splitOn_append_cons_self_of_not_mem hhop, List.splitOn_eq_singleton hprotocol]
      exact .inr (.afterBoth hsays)
    · have hline : '\n' ∉ hop ++ c₂ :: protocol :=
        not_mem_append_cons.2 ⟨hhop, Ne.symm hsecond, hprotocol⟩
      rw [List.splitOn_eq_singleton hline]
      exact .inr (.afterNetwork hsays hc₂)
  · have hline : '\n' ∉ network ++ c₁ :: hop :=
      not_mem_append_cons.2 ⟨hnetwork, Ne.symm hfirst, hhop⟩
    rw [← List.cons_append, ← List.append_assoc]
    by_cases hsecond : c₂ = '\n'
    · subst hsecond
      rw [List.splitOn_append_cons_self_of_not_mem hline, List.splitOn_eq_singleton hprotocol]
      exact .inr (.afterHop hsays hc₁)
    · have hwhole : '\n' ∉ (network ++ c₁ :: hop) ++ c₂ :: protocol :=
        not_mem_append_cons.2 ⟨hline, Ne.symm hsecond, hprotocol⟩
      rw [List.splitOn_eq_singleton hwhole]
      exact .inl ⟨_, rfl, network, hop, protocol, c₁, c₂, hsays, hc₁, hc₂, by simp⟩

theorem LineShows.shows {line : List Char} (h : LineShows subnet nextHop line)
    (hline : '\n' ∉ line) : Shows subnet nextHop [line] := by
  obtain ⟨network, hop, protocol, c₁, c₂, hsays, hc₁, hc₂, rfl⟩ := h
  obtain ⟨-, -, hrest⟩ := not_mem_append_cons.1 hline
  obtain ⟨hhop, -, hprotocol⟩ := not_mem_append_cons.1 hrest
  exact ⟨network, hop, protocol, c₁, c₂, hsays, hc₁, hc₂, hhop, hprotocol,
    (List.splitOn_eq_singleton hline).symm⟩

theorem SpillsOver.shows {ls : List (List Char)} (h : SpillsOver subnet nextHop ls)
    (hls : ∀ l ∈ ls, '\n' ∉ l) : Shows subnet nextHop ls := by
  have hblank : isBlank '\n' = true := by decide
  cases h with
  | @afterNetwork network hop protocol c hsays hc =>
    rw [List.forall_mem_cons, List.forall_mem_cons] at hls
    obtain ⟨hnetwork, hline, -⟩ := hls
    obtain ⟨hhop, -, hprotocol⟩ := not_mem_append_cons.1 hline
    refine ⟨network, hop, protocol, '\n', c, hsays, hblank, hc, hhop, hprotocol, ?_⟩
    rw [List.splitOn_append_cons_self_of_not_mem hnetwork, List.splitOn_eq_singleton hline]
  | @afterHop network hop protocol c hsays hc =>
    rw [List.forall_mem_cons, List.forall_mem_cons] at hls
    obtain ⟨hline, hprotocol, -⟩ := hls
    obtain ⟨-, -, hhop⟩ := not_mem_append_cons.1 hline
    refine ⟨network, hop, protocol, c, '\n', hsays, hc, hblank, hhop, hprotocol, ?_⟩
    rw [← List.cons_append, ← List.append_assoc, List.splitOn_append_cons_self_of_not_mem hline,
      List.splitOn_eq_singleton hprotocol]
  | @afterBoth network hop protocol hsays =>
    rw [List.forall_mem_cons, List.forall_mem_cons, List.forall_mem_cons] at hls
    obtain ⟨hnetwork, hhop, hprotocol, -⟩ := hls
    refine ⟨network, hop, protocol, '\n', '\n', hsays, hblank, hblank, hhop, hprotocol, ?_⟩
    rw [List.splitOn_append_cons_self_of_not_mem hnetwork,
      List.splitOn_append_cons_self_of_not_mem hhop, List.splitOn_eq_singleton hprotocol]

theorem kernelTable_iff_lines {table : List Char} :
    kernelTable subnet nextHop table = true ↔
      (∃ line ∈ table.splitOn '\n', LineShows subnet nextHop line) ∨
        ∃ ls, ls <:+: table.splitOn '\n' ∧ SpillsOver subnet nextHop ls := by
  rw [exists_shows_iff]
  constructor
  · rintro ⟨ls, hlines, hshows⟩
    rcases lineShows_or_spillsOver hshows with ⟨line, rfl, hline⟩ | hspills
    · exact .inl ⟨line, hlines.mem (by simp), hline⟩
    · exact .inr ⟨ls, hlines, hspills⟩
  · rintro (⟨line, hmem, hline⟩ | ⟨ls, hlines, hspills⟩)
    · refine ⟨[line], ?_, hline.shows (not_mem_of_mem_splitOn hmem)⟩
      obtain ⟨above, below, hsplit⟩ := List.append_of_mem hmem
      exact ⟨above, below, by rw [hsplit]; simp⟩
    · refine ⟨ls, hlines, hspills.shows ?_⟩
      intro l hl
      exact not_mem_of_mem_splitOn (List.IsInfix.subset hlines hl)

/-- A line alone says all of it or nothing. -/
theorem kernelTable_line_iff {line : List Char} (hline : '\n' ∉ line) :
    kernelTable subnet nextHop line = true ↔ LineShows subnet nextHop line := by
  rw [kernelTable_iff_lines, List.splitOn_eq_singleton hline]
  constructor
  · rintro (⟨_, hmem, hshows⟩ | ⟨ls, hlines, hspills⟩)
    · obtain rfl := List.mem_singleton.1 hmem
      exact hshows
    · have hlength := List.IsInfix.length_le hlines
      cases hspills <;> simp at hlength
  · intro hshows
    exact .inl ⟨line, List.mem_singleton_self line, hshows⟩

theorem blankBehind_append_via (before : List Char) : BlankBehind (before ++ "via ".toList) := by
  rw [BlankBehind, List.getLast?_append, String.toList_ofList]
  rfl

theorem getLast?_wordsOf_append {hop : List Char} (before : List Char)
    (hhop : ∃ more, hop = more ++ ("via ".toList ++ nextHop.chars)) :
    (wordsOf (before ++ hop)).getLast? = some nextHop.chars := by
  obtain ⟨more, rfl⟩ := hhop
  rw [← List.append_assoc, ← List.append_assoc, wordsOf_append (blankBehind_append_via _),
    wordsOf_word (isWord_chars nextHop), List.getLast?_concat]

/-- Nothing spills over from lines that go on after the network and after the next hop. -/
theorem not_spillsOver {table : List Char} (hnetwork : ∀ line ∈ table.splitOn '\n',
      line ∉ spellings subnet)
    (hhop : ∀ line ∈ table.splitOn '\n', (wordsOf line).getLast? ≠ some nextHop.chars) :
    ¬ ∃ ls, ls <:+: table.splitOn '\n' ∧ SpillsOver subnet nextHop ls := by
  rintro ⟨ls, hlines, hspills⟩
  have hsubset := List.IsInfix.subset hlines
  cases hspills with
  | afterNetwork h hc =>
    exact hnetwork _ (hsubset List.mem_cons_self) (mem_spellings_iff.2 h.network_eq)
  | @afterHop network hop protocol c h hc =>
    obtain ⟨before, hbefore, -⟩ := h.hop_eq
    refine hhop _ (hsubset List.mem_cons_self) ?_
    rw [← List.singleton_append, ← List.append_assoc]
    exact getLast?_wordsOf_append _ ⟨before, hbefore⟩
  | afterBoth h =>
    exact hnetwork _ (hsubset List.mem_cons_self) (mem_spellings_iff.2 h.network_eq)

/-- In the kernel's table a route is found if one line says it, or if two or three neighboring lines
do, where the network is a line or the next hop ends one. Each line alone says all of it or nothing.
So the verdict is that of the lines if and only if no route is found over several lines in a table
where none is found in one. -/
theorem kernelTable_lines (subnet : Subnet) (nextHop : Ip) (table : String) :
    (route .kernel subnet nextHop table = true ↔
      (∃ line ∈ table.toList.splitOn '\n', LineShows subnet nextHop line) ∨
        ∃ ls, ls <:+: table.toList.splitOn '\n' ∧ SpillsOver subnet nextHop ls) ∧
    (∀ line ∈ table.toList.splitOn '\n',
      route .kernel subnet nextHop (String.ofList line) = true ↔ LineShows subnet nextHop line) ∧
    ((route .kernel subnet nextHop table = true ↔
        ∃ line ∈ table.toList.splitOn '\n',
          route .kernel subnet nextHop (String.ofList line) = true) ↔
      ((∃ ls, ls <:+: table.toList.splitOn '\n' ∧ SpillsOver subnet nextHop ls) →
        ∃ line ∈ table.toList.splitOn '\n', LineShows subnet nextHop line)) := by
  have hline : ∀ line ∈ table.toList.splitOn '\n',
      (route .kernel subnet nextHop (String.ofList line) = true ↔
        LineShows subnet nextHop line) := by
    intro line hmem
    rw [route, String.toList_ofList]
    exact kernelTable_line_iff (not_mem_of_mem_splitOn hmem)
  have hlines : (∃ line ∈ table.toList.splitOn '\n',
      route .kernel subnet nextHop (String.ofList line) = true) ↔
      ∃ line ∈ table.toList.splitOn '\n', LineShows subnet nextHop line := by
    constructor
    · rintro ⟨line, hmem, hroute⟩
      exact ⟨line, hmem, (hline line hmem).1 hroute⟩
    · rintro ⟨line, hmem, hshows⟩
      exact ⟨line, hmem, (hline line hmem).2 hshows⟩
  have htable : route .kernel subnet nextHop table = true ↔ _ := kernelTable_iff_lines
  refine ⟨htable, hline, ?_⟩
  rw [hlines, htable, or_iff_left_iff_imp]

/-- The first route was not learned from BGP. The matcher says that it was, because the protocol of
the second one comes after its next hop. -/
theorem kernelTable_mixes_routes :
    let subnet := Subnet.v4 ⟨⟨10, 0, 0, 0⟩, 24⟩
    let nextHop := Ip.v4 ⟨192, 0, 2, 1⟩
    let first := "10.0.0.0/24 via 192.0.2.1"
    let second := "10.1.0.0/24 via 192.0.2.2 dev br-ex proto bgp metric 20"
    route .kernel subnet nextHop (first ++ "\n" ++ second) = true ∧
      ∀ line ∈ (first ++ "\n" ++ second).toList.splitOn '\n',
        ¬ LineShows subnet nextHop line ∧
          route .kernel subnet nextHop (String.ofList line) = false := by
  intro subnet nextHop first second
  have hlines : (first ++ "\n" ++ second).toList.splitOn '\n' = [first.toList, second.toList] := by
    decide +kernel
  have hnone : ∀ line ∈ [first.toList, second.toList],
      '\n' ∉ line ∧ kernelTable subnet nextHop line = false := by
    decide +kernel
  refine ⟨by decide +kernel, fun line hmem => ?_⟩
  rw [hlines] at hmem
  obtain ⟨hline, hverdict⟩ := hnone line hmem
  rw [← kernelTable_line_iff hline, route, String.toList_ofList, hverdict]
  exact ⟨Bool.false_ne_true, rfl⟩

end RouteWatch.Match
