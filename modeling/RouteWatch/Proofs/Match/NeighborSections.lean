import Mathlib.Data.List.Forall2
import RouteWatch.Proofs.Match.Headers

/-!
# The sections of the text about neighbors

Every header starts a section, which goes on up to the next header. What stands in a section is said
of the address in its header, in whatever way that is written, and of no other one. So the verdict
on a peer depends on nothing but the sections of this peer (`NeighborText.neighbor_text_iff`).

Any text is taken apart in that way (`exists_neighborText`), and its headers are those of its sections
(`NeighborText.headerAt_iff`).

* `neighbor_sections`: the verdict on a text, and what can be changed in it.
-/

namespace RouteWatch.Match

open Text

variable {peer : Ip} {address other cs line rest : List Char} {place : Nat}

/-! ## Sections -/

theorem line_feed_not_mem_established : '\n' ∉ established := by
  unfold established
  rw [String.toList_ofList]
  decide

theorem equals_mem_established : '=' ∈ established := by
  unfold established
  rw [String.toList_ofList]
  decide

/-- A section of the text: a header, and what comes after it. -/
structure Section where
  /-- The address, as it is written in the header. -/
  address : List Char
  body : List Char
  address_ne_nil : address ≠ []
  address_chars : ∀ c ∈ address, c ∈ addressChars
  /-- The first line of the body goes on behind the header. -/
  body_free : HeaderFreeBehind body

namespace Section

variable (s : Section)

/-- The text of the section. -/
def chars : List Char :=
  header s.address ++ s.body

/-- The section is that of the peer. -/
def IsAbout (peer : Ip) : Prop :=
  Ip.parse? (String.ofList s.address) = some peer

theorem startsHeader_chars : StartsHeader s.address s.chars :=
  ⟨s.address_ne_nil, s.address_chars, List.prefix_append _ _⟩

theorem headerAt_chars_iff : HeaderAt s.chars place address ↔ place = 0 ∧ address = s.address := by
  constructor
  · intro h
    obtain rfl : place = 0 := by
      refine Nat.eq_zero_of_not_pos fun hplace => ?_
      obtain ⟨place', hpos, -, hbody⟩ :=
        h.exists_of_append (line_feed_not_mem_header s.address_chars) hplace
      exact s.body_free place' address hpos hbody
    exact ⟨rfl, (headerAt_zero_iff.1 h).eq s.startsHeader_chars⟩
  · rintro ⟨rfl, rfl⟩
    exact headerAt_zero_iff.2 s.startsHeader_chars

theorem getLast?_chars (h : s.body.getLast? = some '\n') : s.chars.getLast? = some '\n' := by
  rw [chars, List.getLast?_append, h, Option.some_or]

/-- The header itself does not say that the session is established. -/
theorem established_infix_chars_iff : established <:+: s.chars ↔ established <:+: s.body := by
  have hcomma : ',' ∉ established := by
    unfold established
    rw [String.toList_ofList]
    decide
  have hlead : '=' ∉ headerLead := by
    unfold headerLead
    rw [String.toList_ofList]
    decide
  have hnot : ¬ established <:+: headerLead ++ s.address := by
    intro h
    have hmem : '=' ∈ header s.address := by
      rw [header, ← List.append_assoc]
      exact List.mem_append_left _ (h.subset equals_mem_established)
    exact not_mem_header hlead (by decide) (by decide) s.address_chars hmem
  rw [chars, header_append, ← List.append_assoc, infix_append_cons_iff hcomma, or_iff_right hnot]

end Section

/-! ## The lines of the sections -/

variable {above ls : List (List Char)}

theorem blocksOf_append (h : ∀ l ∈ above, headerAddress? l = none) :
    blocksOf (above ++ ls) = blocksOf ls := by
  induction above with
  | nil => rfl
  | cons l above ih =>
    obtain ⟨hl, habove⟩ := List.forall_mem_cons.1 h
    rw [List.cons_append, blocksOf, hl]
    exact ih habove

theorem blocksOf_eq_nil (h : ∀ l ∈ above, headerAddress? l = none) : blocksOf above = [] := by
  rw [← List.append_nil above, blocksOf_append h, blocksOf]

/-- A header starts a block, which goes on up to the next header. -/
theorem blocksOf_cons {body : List (List Char)} (h : headerAddress? line = some address)
    (hbody : ∀ l ∈ body, headerAddress? l = none)
    (hls : ∀ l ∈ ls.head?, headerAddress? l ≠ none) :
    blocksOf (line :: (body ++ ls)) = ⟨address, line :: body⟩ :: blocksOf ls := by
  have htake : (body ++ ls).takeWhile (fun l => (headerAddress? l).isNone) = body := by
    rw [List.takeWhile_append_of_pos (by simpa using hbody)]
    cases ls with
    | nil => simp
    | cons l ls =>
      have hl : headerAddress? l ≠ none := hls l rfl
      rw [List.takeWhile_cons_of_neg (by simpa using hl), List.append_nil]
  rw [blocksOf, h]
  simp only [htake, blocksOf_append hbody]

namespace Section

variable (s : Section)

/-- The first line of a section is that with the header. -/
theorem exists_splitOn_chars : ∃ first others, s.chars.splitOn '\n' = first :: others ∧
    headerAddress? first = some s.address ∧ ∀ l ∈ others, headerAddress? l = none := by
  have hbehind : HeaderFreeBehind s.chars := fun place other hpos h =>
    absurd (s.headerAt_chars_iff.1 h).1 (Nat.ne_of_gt hpos)
  obtain ⟨first, others, hsplit, hfirst, hothers⟩ := s.startsHeader_chars.exists_splitOn
  exact ⟨first, others, hsplit, hfirst, hothers hbehind⟩

/-- The last section of a text is its last block. -/
theorem exists_blocksOf : ∃ ls, blocksOf (s.chars.splitOn '\n') = [⟨s.address, ls⟩] ∧
    ((∃ l ∈ ls, established <:+: l) ↔ established <:+: s.body) := by
  obtain ⟨first, others, hsplit, hfirst, hothers⟩ := s.exists_splitOn_chars
  refine ⟨first :: others, ?_, ?_⟩
  · have hblocks : blocksOf (first :: (others ++ [])) = _ :=
      blocksOf_cons hfirst hothers (by simp)
    rw [List.append_nil, blocksOf] at hblocks
    rw [hsplit, hblocks]
  · rw [← hsplit, exists_infix_splitOn_iff line_feed_not_mem_established,
      s.established_infix_chars_iff]

/-- A section that ends at the start of a header is a block, and the others follow it. -/
theorem exists_blocksOf_append (hlast : s.body.getLast? = some '\n')
    (hrest : StartsHeader other rest) :
    ∃ ls, blocksOf ((s.chars ++ rest).splitOn '\n') =
        ⟨s.address, ls⟩ :: blocksOf (rest.splitOn '\n') ∧
      ((∃ l ∈ ls, established <:+: l) ↔ established <:+: s.body) := by
  obtain ⟨lead, hlead⟩ := List.getLast?_eq_some_iff.1 (s.getLast?_chars hlast)
  obtain ⟨first, others, hsplit, hfirst, hothers⟩ := s.exists_splitOn_chars
  rw [hlead, List.splitOn_append_cons_self, List.splitOn_nil] at hsplit
  cases hlines : lead.splitOn '\n' with
  | nil => exact absurd hlines (List.splitOn_ne_nil '\n' lead)
  | cons line body =>
    rw [hlines, List.cons_append] at hsplit
    obtain ⟨rfl, rfl⟩ := List.cons.inj hsplit
    have hbody : ∀ l ∈ body, headerAddress? l = none :=
      fun l hl => hothers l (List.mem_append_left _ hl)
    have hhead : ∀ l ∈ (rest.splitOn '\n').head?, headerAddress? l ≠ none := by
      obtain ⟨l, ls, hls, hl, -⟩ := hrest.exists_splitOn
      rw [hls, List.head?_cons]
      rintro _ ⟨⟩
      simp [hl]
    refine ⟨line :: body, ?_, ?_⟩
    · rw [hlead, List.append_assoc, List.cons_append, List.nil_append, List.splitOn_append_cons_self,
        hlines, List.cons_append, blocksOf_cons hfirst hbody hhead]
    · have hne : established ≠ [] := List.ne_nil_of_mem equals_mem_established
      rw [← hlines, exists_infix_splitOn_iff line_feed_not_mem_established,
        ← s.established_infix_chars_iff, hlead,
        infix_append_cons_iff line_feed_not_mem_established, List.infix_nil, or_iff_left hne]

end Section

/-! ## Texts as sections -/

/-- Every section but the last one ends with a line. -/
def BodiesEnd (sections : List Section) : Prop :=
  ∀ s ∈ sections.dropLast, s.body.getLast? = some '\n'

/-- The text about neighbors: what comes before the first header, and the sections. -/
structure NeighborText where
  preamble : List Char
  sections : List Section
  preamble_free : HeaderFree preamble
  preamble_ends : sections ≠ [] → startsLine preamble.getLast? = true
  bodies_end : BodiesEnd sections

namespace NeighborText

/-- The characters of the text. -/
def chars (t : NeighborText) : List Char :=
  t.preamble ++ t.sections.flatMap Section.chars

/-- The text. -/
def text (t : NeighborText) : String :=
  String.ofList t.chars

end NeighborText

variable {s : Section} {sections : List Section}

theorem bodiesEnd_nil : BodiesEnd [] :=
  List.forall_mem_nil _

theorem BodiesEnd.tail (h : BodiesEnd (s :: sections)) : BodiesEnd sections := by
  cases sections with
  | nil => exact bodiesEnd_nil
  | cons s' sections => exact (List.forall_mem_cons.1 h).2

theorem BodiesEnd.cons (h : BodiesEnd sections)
    (hs : sections ≠ [] → s.body.getLast? = some '\n') : BodiesEnd (s :: sections) := by
  cases sections with
  | nil => exact List.forall_mem_nil _
  | cons s' sections => exact List.forall_mem_cons.2 ⟨hs (List.cons_ne_nil s' sections), h⟩

/-- The blocks that the matcher looks at are those of the sections. -/
theorem exists_blocksOf_cons (h : BodiesEnd (s :: sections)) :
    ∃ ls, blocksOf (((s :: sections).flatMap Section.chars).splitOn '\n') =
        ⟨s.address, ls⟩ :: blocksOf ((sections.flatMap Section.chars).splitOn '\n') ∧
      ((∃ l ∈ ls, established <:+: l) ↔ established <:+: s.body) := by
  cases sections with
  | nil =>
    obtain ⟨ls, hblocks, hls⟩ := s.exists_blocksOf
    exact ⟨ls, by simp [hblocks, blocksOf, headerAddress?_nil], hls⟩
  | cons s' sections =>
    have hrest : StartsHeader s'.address ((s' :: sections).flatMap Section.chars) :=
      s'.startsHeader_chars.append _
    exact s.exists_blocksOf_append (h s List.mem_cons_self) hrest

theorem exists_isEstablished_iff (h : BodiesEnd sections) :
    (∃ block ∈ blocksOf ((sections.flatMap Section.chars).splitOn '\n'),
        block.isEstablished peer = true) ↔
      ∃ s ∈ sections, s.IsAbout peer ∧ established <:+: s.body := by
  induction sections with
  | nil => simp [blocksOf, headerAddress?_nil]
  | cons s sections ih =>
    obtain ⟨ls, hblocks, hls⟩ := exists_blocksOf_cons h
    have hblock : (NeighborBlock.mk s.address ls).isEstablished peer = true ↔
        s.IsAbout peer ∧ established <:+: s.body := by
      simp only [NeighborBlock.isEstablished, Section.IsAbout, Bool.and_eq_true, beq_iff_eq,
        List.any_eq_true, containsOf_iff_infix, hls]
    rw [hblocks]
    simp only [List.mem_cons, exists_eq_or_imp, hblock]
    exact or_congr Iff.rfl (ih h.tail)

/-- The places of headers are those where sections start. -/
theorem headerAt_flatMap_iff (h : BodiesEnd sections) :
    HeaderAt (sections.flatMap Section.chars) place address ↔
      ∃ before s after, sections = before ++ s :: after ∧ address = s.address ∧
        place = (before.flatMap Section.chars).length := by
  induction sections generalizing place with
  | nil =>
    constructor
    · exact fun hheader => absurd hheader.lt_length (Nat.not_lt_zero place)
    · rintro ⟨before, s, after, hsections, -⟩
      simp at hsections
  | cons s sections ih =>
    have hsplit : HeaderAt (s.chars ++ sections.flatMap Section.chars) place address ↔
        HeaderAt s.chars place address ∨ ∃ place', place = s.chars.length + place' ∧
          HeaderAt (sections.flatMap Section.chars) place' address := by
      cases sections with
      | nil =>
        have hnot : ∀ place', ¬ HeaderAt [] place' address := fun place' hheader =>
          absurd hheader.lt_length (Nat.not_lt_zero place')
        simp [hnot]
      | cons s' sections =>
        have hlast := s.getLast?_chars (h s (by simp))
        exact headerAt_append_iff (by rw [hlast]; rfl)
    rw [List.flatMap_cons, hsplit, s.headerAt_chars_iff]
    simp only [ih h.tail]
    constructor
    · rintro (⟨rfl, rfl⟩ | ⟨_, rfl, before, s', after, rfl, rfl, rfl⟩)
      · exact ⟨[], s, sections, rfl, rfl, rfl⟩
      · exact ⟨s :: before, s', after, rfl, rfl, by simp⟩
    · rintro ⟨before, s', after, hsections, rfl, rfl⟩
      cases before with
      | nil =>
        obtain ⟨rfl, rfl⟩ := List.cons.inj hsections
        exact .inl ⟨rfl, rfl⟩
      | cons s'' before =>
        obtain ⟨rfl, rfl⟩ := List.cons.inj hsections
        exact .inr ⟨_, by simp, before, s', after, rfl, rfl, rfl⟩

namespace NeighborText

variable (t : NeighborText)

theorem blocksOf_text : blocksOf (splitBy (· == '\n') t.text.toList) =
    blocksOf ((t.sections.flatMap Section.chars).splitOn '\n') := by
  have hnone := headerFree_iff.1 t.preamble_free
  rw [splitBy_eq_splitOn, text, String.toList_ofList]
  cases hsections : t.sections with
  | nil =>
    rw [chars, hsections, List.flatMap_nil, List.append_nil, blocksOf_eq_nil hnone,
      List.splitOn_nil, blocksOf_eq_nil (List.forall_mem_singleton.2 headerAddress?_nil)]
  | cons s sections =>
    have hends := t.preamble_ends (by simp [hsections])
    rw [chars, splitOn_append hends, hsections]
    exact blocksOf_append fun l hl => hnone l ((List.dropLast_sublist _).subset hl)

theorem headerAt_iff : HeaderAt t.chars place address ↔
    ∃ before s after, t.sections = before ++ s :: after ∧ address = s.address ∧
      place = (t.preamble ++ before.flatMap Section.chars).length := by
  have hnot : ¬ HeaderAt t.preamble place address := t.preamble_free place address
  cases hsections : t.sections with
  | nil =>
    rw [chars, hsections, List.flatMap_nil, List.append_nil]
    simp [hnot]
  | cons s sections =>
    have hends := t.preamble_ends (by simp [hsections])
    rw [chars, headerAt_append_iff hends, or_iff_right hnot, ← hsections]
    simp only [headerAt_flatMap_iff t.bodies_end, List.length_append]
    constructor
    · rintro ⟨_, rfl, before, s, after, h, rfl, rfl⟩
      exact ⟨before, s, after, h, rfl, rfl⟩
    · rintro ⟨before, s, after, h, rfl, rfl⟩
      exact ⟨_, rfl, before, s, after, h, rfl, rfl⟩

/-- The verdict depends on what the sections of the peer say. -/
theorem neighbor_text_iff (h : t.sections ≠ []) : neighbor peer t.text = true ↔
    ∃ s ∈ t.sections, s.IsAbout peer ∧ established <:+: s.body := by
  have hne : blocksOf ((t.sections.flatMap Section.chars).splitOn '\n') ≠ [] := by
    have hends := t.bodies_end
    obtain ⟨s, sections, hsections⟩ := List.exists_cons_of_ne_nil h
    rw [hsections] at hends ⊢
    obtain ⟨ls, hblocks, -⟩ := exists_blocksOf_cons hends
    rw [hblocks]
    exact List.cons_ne_nil _ _
  rw [← exists_isEstablished_iff t.bodies_end, neighbor, t.blocksOf_text]
  simp [hne]

/-- Without sections, the text has to mention the peer. -/
theorem neighbor_text_of_nil (h : t.sections = []) : neighbor peer t.text = true ↔
    mentions peer t.chars = true ∧ established <:+: t.chars := by
  have hblocks := t.blocksOf_text
  rw [h, List.flatMap_nil, List.splitOn_nil,
    blocksOf_eq_nil (List.forall_mem_singleton.2 headerAddress?_nil)] at hblocks
  rw [neighbor, hblocks, text, String.toList_ofList, ← containsOf_iff_infix]
  simp

end NeighborText

/-- A line before the text belongs to a section of its own if it starts with a header, and to the
preamble if it does not. -/
theorem exists_neighborText_line {more : List Char} (hline : '\n' ∉ line)
    (hbehind : ∀ l, '\n' ∉ l → HeaderFreeBehind (l ++ more))
    (hstart : ∀ address, StartsHeader address (line ++ more) → StartsHeader address line)
    (hends : BodiesEnd sections)
    (hlast : ∀ l, sections ≠ [] → (l ++ more).getLast? = some '\n') :
    ∃ t : NeighborText, t.chars = line ++ (more ++ sections.flatMap Section.chars) := by
  by_cases h : ∃ address, StartsHeader address line
  · obtain ⟨address, hne, hchars, tail, rfl⟩ := h
    have htail : '\n' ∉ tail := fun hmem => hline (List.mem_append_right _ hmem)
    refine ⟨⟨[], ⟨address, tail ++ more, hne, hchars, hbehind tail htail⟩ :: sections,
      headerFree_nil, fun _ => rfl, hends.cons (hlast tail)⟩, ?_⟩
    rw [NeighborText.chars, List.flatMap_cons, List.nil_append, Section.chars, List.append_assoc,
      List.append_assoc, List.append_assoc]
  · have hfree := (hbehind line hline).headerFree fun address haddress =>
      h ⟨address, hstart address haddress⟩
    refine ⟨⟨line ++ more, sections, hfree, fun hne => ?_, hends⟩, List.append_assoc _ _ _⟩
    rw [hlast line hne]
    rfl

/-- Any text about neighbors consists of sections. -/
theorem exists_neighborText (cs : List Char) : ∃ t : NeighborText, t.chars = cs := by
  induction cs using lines_induction with
  | line line hline =>
    have hbehind : ∀ l, '\n' ∉ l → HeaderFreeBehind (l ++ []) := by
      intro l hl
      rw [List.append_nil]
      exact headerFreeBehind_line hl
    obtain ⟨t, ht⟩ := exists_neighborText_line hline hbehind
      (fun address h => by rwa [List.append_nil] at h) bodiesEnd_nil fun l hne => absurd rfl hne
    exact ⟨t, by rw [ht, List.flatMap_nil, List.append_nil, List.append_nil]⟩
  | lines line rest hline ih =>
    obtain ⟨t, rfl⟩ := ih
    exact exists_neighborText_line hline
      (fun l hl => (headerFreeBehind_lines_iff hl).2 t.preamble_free)
      (fun address h => startsHeader_append_iff.1 h) t.bodies_end
      fun l hne => getLast?_append_cons_of_startsLine (t.preamble_ends hne)

/-! ## The verdict on a text -/

/-- The piece stands between the place and the next header behind it, or the end of the text. -/
def StandsInSection (cs : List Char) (place : Nat) (piece : List Char) : Prop :=
  ∃ part, part <+: cs.drop place ∧ piece <:+: part ∧
    ∀ next address, HeaderAt cs next address → place < next → place + part.length ≤ next

namespace NeighborText

variable {t : NeighborText} {before after : List Section}

theorem standsInSection_iff (h : t.sections = before ++ s :: after) :
    StandsInSection t.chars (t.preamble ++ before.flatMap Section.chars).length established ↔
      established <:+: s.body := by
  have hchars : t.chars = (t.preamble ++ before.flatMap Section.chars) ++
      (s.chars ++ after.flatMap Section.chars) := by
    simp [chars, h]
  have hdrop : t.chars.drop (t.preamble ++ before.flatMap Section.chars).length =
      s.chars ++ after.flatMap Section.chars := by
    rw [hchars, List.drop_left]
  rw [StandsInSection, hdrop, ← s.established_infix_chars_iff]
  constructor
  · rintro ⟨part, hpart, hpiece, hnext⟩
    suffices hprefix : part <+: s.chars from hpiece.trans hprefix.isInfix
    cases after with
    | nil => simpa using hpart
    | cons s' after =>
      -- the next section starts with a header, and the part ends there at the latest
      have hlt : 0 < s.chars.length := s.startsHeader_chars.length_pos
      have hheader : HeaderAt t.chars
          (t.preamble ++ (before ++ [s]).flatMap Section.chars).length s'.address :=
        t.headerAt_iff.2 ⟨before ++ [s], s', after, by simp [h], rfl, rfl⟩
      have hlength := hnext _ _ hheader (by simp [hlt])
      refine List.prefix_of_prefix_length_le hpart (List.prefix_append _ _) ?_
      simpa [← Nat.add_assoc] using hlength
  · intro hpiece
    refine ⟨s.chars, List.prefix_append _ _, hpiece, ?_⟩
    intro next address hheader hlt
    -- a header behind the place starts one of the later sections
    obtain ⟨before', s', after', h', -, rfl⟩ := t.headerAt_iff.1 hheader
    rw [h] at h'
    rcases List.append_eq_append_iff.1 h' with ⟨more, rfl, hmore⟩ | ⟨more, rfl, -⟩
    · cases more with
      | nil =>
        rw [List.append_nil] at hlt
        exact absurd hlt (Nat.lt_irrefl _)
      | cons s'' more =>
        obtain ⟨rfl, -⟩ := List.cons.inj hmore
        simp only [List.length_append, List.flatMap_append, List.flatMap_cons]
        lia
    · simp only [List.length_append, List.flatMap_append] at hlt
      lia

end NeighborText

theorem mentions_iff {cs : List Char} : mentions peer cs = true ↔
    ∃ before after, cs = before ++ (peer.chars ++ after) ∧
      (∀ c ∈ before.getLast?, c ∉ addressChars) ∧ ∀ c ∈ after.head?, c ∉ addressChars := by
  have hends : ∀ rest : List Char, (rest.head?.all fun c => !isAddressChar c) = true ↔
      ∀ c ∈ rest.head?, c ∉ addressChars := fun rest => startsAddress_iff
  simp only [mentions, anywhere_iff, lastOr, Option.or_none, Bool.and_eq_true, Option.any_eq_true,
    after?_eq_some_iff, startsAddress_iff, hends]
  constructor
  · rintro ⟨before, _, rfl, hbefore, after, rfl, hafter⟩
    exact ⟨before, after, rfl, hbefore, hafter⟩
  · rintro ⟨before, after, rfl, hbefore, hafter⟩
    exact ⟨before, _, rfl, hbefore, after, rfl, hafter⟩

/-- For the peer, one section is as good as the other: they are both sections of the peer, with one
body, or none of them is. -/
structure Section.SameFor (peer : Ip) (s s' : Section) : Prop where
  isAbout_iff : s.IsAbout peer ↔ s'.IsAbout peer
  body_eq : s.IsAbout peer → s.body = s'.body

theorem exists_isAbout_iff {sections' : List Section}
    (h : List.Forall₂ (Section.SameFor peer) sections sections') :
    (∃ s ∈ sections, s.IsAbout peer ∧ established <:+: s.body) ↔
      ∃ s ∈ sections', s.IsAbout peer ∧ established <:+: s.body := by
  induction h with
  | nil => rfl
  | @cons s s' sections sections' hsame _ ih =>
    have hhead : s.IsAbout peer ∧ established <:+: s.body ↔
        s'.IsAbout peer ∧ established <:+: s'.body := by
      rw [← hsame.isAbout_iff]
      exact and_congr_right fun habout => by rw [hsame.body_eq habout]
    simp only [List.mem_cons, exists_eq_or_imp]
    exact or_congr hhead ih

/-- An address of eight groups can stand in a header in any way in which it is written. -/
theorem startsHeader_of_form {ip : Ipv6} (hform : ip.Form address) (rest : List Char) :
    StartsHeader address (header address ++ rest) where
  ne_nil := List.ne_nil_of_mem (colon_mem_of_form hform)
  chars c hc := isAddressChar_iff.1 (isAddressChar_of_form hform c hc)
  isPrefix := List.prefix_append _ _

/-- In a text with headers, the verdict on a peer is that of the sections whose header has the peer
for its address, and of each section by itself. Any text consists of sections. What comes before the
first one can be changed, and what the sections of other addresses say, and how an address is
written: the verdict stays the same. A text without headers has to mention the peer and to say that
some session is established. -/
theorem neighbor_sections (peer : Ip) :
    (∀ text : String, (∃ place address, HeaderAt text.toList place address) →
      (neighbor peer text = true ↔ ∃ place address, HeaderAt text.toList place address ∧
        Ip.parse? (String.ofList address) = some peer ∧
        StandsInSection text.toList place established)) ∧
    (∀ text : String, ∃ t : NeighborText, t.text = text) ∧
    (∀ t t' : NeighborText, t.sections ≠ [] →
      List.Forall₂ (Section.SameFor peer) t.sections t'.sections →
      neighbor peer t.text = neighbor peer t'.text) ∧
    (∀ (ip : Ipv6) (address rest : List Char), ip.Form address →
      StartsHeader address (header address ++ rest) ∧
        Ip.parse? (String.ofList address) = some (.v6 ip)) ∧
    ∀ text : String, (∀ place address, ¬ HeaderAt text.toList place address) →
      (neighbor peer text = true ↔ established <:+: text.toList ∧
        ∃ before after, text.toList = before ++ (peer.chars ++ after) ∧
          (∀ c ∈ before.getLast?, c ∉ addressChars) ∧ ∀ c ∈ after.head?, c ∉ addressChars) := by
  have hexists : ∀ text : String, ∃ t : NeighborText, t.text = text := by
    intro text
    obtain ⟨t, ht⟩ := exists_neighborText text.toList
    exact ⟨t, by rw [NeighborText.text, ht, String.ofList_toList]⟩
  have htoList : ∀ t : NeighborText, t.text.toList = t.chars := fun t => String.toList_ofList
  refine ⟨?headers, hexists, ?same, ?forms, ?free⟩
  case headers =>
    intro text hheader
    obtain ⟨t, rfl⟩ := hexists text
    simp only [htoList, t.headerAt_iff] at hheader ⊢
    obtain ⟨_, _, before, s, after, hsections, -⟩ := hheader
    rw [t.neighbor_text_iff (by simp [hsections])]
    constructor
    · rintro ⟨s, hs, habout, hestablished⟩
      obtain ⟨before, after, hsections⟩ := List.append_of_mem hs
      exact ⟨_, _, ⟨before, s, after, hsections, rfl, rfl⟩, habout,
        (NeighborText.standsInSection_iff hsections).2 hestablished⟩
    · rintro ⟨_, _, ⟨before, s, after, hsections, rfl, rfl⟩, habout, hestablished⟩
      exact ⟨s, by simp [hsections], habout,
        (NeighborText.standsInSection_iff hsections).1 hestablished⟩
  case same =>
    intro t t' hne hsame
    have hne' : t'.sections ≠ [] := by
      rintro hnil
      rw [hnil, List.forall₂_nil_right_iff] at hsame
      exact hne hsame
    rw [Bool.eq_iff_iff, t.neighbor_text_iff hne, t'.neighbor_text_iff hne',
      exists_isAbout_iff hsame]
  case forms =>
    intro ip address rest hform
    exact ⟨startsHeader_of_form hform rest, Ip.parse?_of_form hform⟩
  case free =>
    intro text hfree
    obtain ⟨t, rfl⟩ := hexists text
    simp only [htoList, t.headerAt_iff] at hfree ⊢
    have hnil : t.sections = [] := by
      cases hsections : t.sections with
      | nil => rfl
      | cons s after =>
        exact absurd ⟨[], s, after, hsections, rfl, rfl⟩ (hfree _ s.address)
    rw [t.neighbor_text_of_nil hnil, mentions_iff, and_comm]

/-- The session that is established is that of the other address. -/
theorem neighbor_sections_of_other_session :
    let text := "BGP neighbor is 192.0.2.1,\n  BGP state = Active\n" ++
      "BGP neighbor is 192.0.2.2,\n  BGP state = Established\n"
    HeaderAt text.toList 0 "192.0.2.1".toList ∧
      ∀ place address, HeaderAt text.toList place address →
        Ip.parse? (String.ofList address) = some (.v4 ⟨192, 0, 2, 1⟩) →
        ¬ StandsInSection text.toList place established := by
  intro text
  have hheader : HeaderAt text.toList 0 "192.0.2.1".toList :=
    headerAt_zero_iff.2 (headerAddress?_eq_some_iff.1 (by decide +kernel))
  have hverdict : neighbor (.v4 ⟨192, 0, 2, 1⟩) text = false := by decide +kernel
  refine ⟨hheader, fun place address hplace hparse hstands => ?_⟩
  have hneighbor := ((neighbor_sections (.v4 ⟨192, 0, 2, 1⟩)).1 text ⟨0, _, hheader⟩).2
    ⟨place, address, hplace, hparse, hstands⟩
  rw [hverdict] at hneighbor
  cases hneighbor

example : neighbor (.v6 ⟨0x2001, 0xdb8, 0, 0, 0, 0, 0, 1⟩)
    "BGP neighbor is 2001:0DB8::0:1, remote AS 64512\n  BGP state = Established\n" = true := by
  decide +kernel

end RouteWatch.Match
