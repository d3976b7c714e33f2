import RouteWatch.Match.Neighbor
import RouteWatch.Proofs.Match.DaemonTable
import RouteWatch.Proofs.Text.Lines

/-!
# Headers in the text about neighbors

A header starts a line, and ends in it. So the headers of whole lines are not changed by what comes
before or after them (`headerAt_append_iff`), and a text has none if none of its lines starts with
one (`headerFree_iff`).
-/

namespace RouteWatch.Match

open Text

variable {address other cs line rest : List Char} {place : Nat}

/-! ## Headers -/

/-- What a header says before the address. -/
def headerLead : List Char :=
  "BGP neighbor is ".toList

/-- The header of a section, for an address as it is written there. -/
def header (address : List Char) : List Char :=
  headerLead ++ (address ++ [','])

/-- The text starts with a header, and this is written there as the address. -/
structure StartsHeader (address cs : List Char) : Prop where
  ne_nil : address ≠ []
  chars : ∀ c ∈ address, c ∈ addressChars
  isPrefix : header address <+: cs

theorem header_append (address rest : List Char) :
    header address ++ rest = headerLead ++ (address ++ ',' :: rest) := by
  rw [header, List.append_assoc, List.append_assoc, List.singleton_append]

/-- The address in a text that starts like a header. -/
def leadingAddress? (rest : List Char) : Option (List Char) :=
  if !(rest.takeWhile isAddressChar).isEmpty && (rest.dropWhile isAddressChar).head? == some ','
  then some (rest.takeWhile isAddressChar) else none

theorem headerAddress?_eq (cs : List Char) :
    headerAddress? cs = (after? headerLead cs).bind leadingAddress? :=
  rfl

theorem leadingAddress?_eq_some_iff : leadingAddress? cs = some address ↔
    address ≠ [] ∧ (∀ c ∈ address, c ∈ addressChars) ∧ ∃ rest, cs = address ++ ',' :: rest := by
  simp only [leadingAddress?, ← isAddressChar_iff, Option.ite_none_right_eq_some, Option.some.injEq,
    Bool.and_eq_true, Bool.not_eq_true', List.isEmpty_eq_false_iff, beq_iff_eq]
  constructor
  · rintro ⟨⟨hne, hcomma⟩, rfl⟩
    obtain ⟨rest, hrest⟩ := List.head?_eq_some_iff.1 hcomma
    refine ⟨hne, List.all_eq_true.1 List.all_takeWhile, rest, ?_⟩
    rw [← hrest, List.takeWhile_append_dropWhile]
  · rintro ⟨hne, hchars, rest, rfl⟩
    have hcomma : ¬ isAddressChar ',' = true := by decide
    rw [List.takeWhile_append_of_pos hchars, List.takeWhile_cons_of_neg hcomma, List.append_nil,
      List.dropWhile_append_of_pos hchars, List.dropWhile_cons_of_neg hcomma]
    exact ⟨⟨hne, rfl⟩, rfl⟩

theorem headerAddress?_eq_some_iff :
    headerAddress? cs = some address ↔ StartsHeader address cs := by
  simp only [headerAddress?_eq, Option.bind_eq_some_iff, after?_eq_some_iff,
    leadingAddress?_eq_some_iff]
  constructor
  · rintro ⟨_, rfl, hne, hchars, rest, rfl⟩
    exact ⟨hne, hchars, rest, header_append address rest⟩
  · rintro ⟨hne, hchars, rest, rfl⟩
    exact ⟨_, header_append address rest, hne, hchars, rest, rfl⟩

theorem headerAddress?_eq_none_iff :
    headerAddress? cs = none ↔ ∀ address, ¬ StartsHeader address cs := by
  simp only [Option.eq_none_iff_forall_ne_some, ne_eq, headerAddress?_eq_some_iff]

theorem StartsHeader.append (h : StartsHeader address cs) (rest : List Char) :
    StartsHeader address (cs ++ rest) :=
  ⟨h.ne_nil, h.chars, h.isPrefix.trans (List.prefix_append cs rest)⟩

/-- A header has one address. -/
theorem StartsHeader.eq (h : StartsHeader address cs) (h' : StartsHeader other cs) :
    address = other := by
  rw [← headerAddress?_eq_some_iff] at h h'
  exact Option.some.inj (h.symm.trans h')

theorem not_mem_header {c : Char} (hlead : c ∉ headerLead) (hcomma : c ≠ ',')
    (hc : isAddressChar c = false) (h : ∀ d ∈ address, d ∈ addressChars) : c ∉ header address := by
  have haddress : c ∉ address := by
    intro hmem
    rw [isAddressChar_iff.2 (h c hmem)] at hc
    cases hc
  simp [header, hlead, haddress, hcomma]

theorem line_feed_not_mem_header (h : ∀ c ∈ address, c ∈ addressChars) :
    '\n' ∉ header address := by
  have hlead : '\n' ∉ headerLead := by
    unfold headerLead
    rw [String.toList_ofList]
    decide
  exact not_mem_header hlead (by decide) (by decide) h

/-- A header ends in the line in which it starts. -/
theorem startsHeader_append_iff :
    StartsHeader address (line ++ '\n' :: rest) ↔ StartsHeader address line := by
  constructor
  · rintro ⟨hne, hchars, hprefix⟩
    exact ⟨hne, hchars, (prefix_append_cons_iff (line_feed_not_mem_header hchars)).1 hprefix⟩
  · exact fun h => h.append _

theorem not_startsHeader_nil : ¬ StartsHeader address [] := by
  rintro ⟨hne, -, hprefix⟩
  rw [List.prefix_nil, header, List.append_eq_nil_iff, List.append_eq_nil_iff] at hprefix
  exact hne hprefix.2.1

theorem StartsHeader.length_pos (h : StartsHeader address cs) : 0 < cs.length := by
  rw [List.length_pos_iff]
  rintro rfl
  exact not_startsHeader_nil h

theorem headerAddress?_nil : headerAddress? [] = none :=
  headerAddress?_eq_none_iff.2 fun _ => not_startsHeader_nil

/-! ## Places of headers -/

/-- A line starts at the place, and a header with this address starts the line. -/
def HeaderAt (cs : List Char) (place : Nat) (address : List Char) : Prop :=
  startsLine (cs.take place).getLast? = true ∧ StartsHeader address (cs.drop place)

/-- No line starts with a header. -/
def HeaderFree (cs : List Char) : Prop :=
  ∀ place address, ¬ HeaderAt cs place address

/-- No line but the first starts with a header. -/
def HeaderFreeBehind (cs : List Char) : Prop :=
  ∀ place address, 0 < place → ¬ HeaderAt cs place address

theorem HeaderAt.lt_length (h : HeaderAt cs place address) : place < cs.length := by
  refine Nat.lt_of_not_le fun hle => ?_
  have hstarts := h.2
  rw [List.drop_eq_nil_of_le hle] at hstarts
  exact not_startsHeader_nil hstarts

theorem headerAt_zero_iff : HeaderAt cs 0 address ↔ StartsHeader address cs := by
  simp [HeaderAt, startsLine]

theorem headerAt_append_length_iff {before : List Char} (h : startsLine before.getLast? = true) :
    HeaderAt (before ++ cs) (before.length + place) address ↔ HeaderAt cs place address := by
  rw [HeaderAt, List.take_length_add_append, List.drop_length_add_append, startsLine_append h,
    HeaderAt]

/-- Behind a line the headers are those of the rest. -/
theorem headerAt_line_iff (line : List Char) :
    HeaderAt (line ++ '\n' :: rest) (line.length + 1 + place) address ↔
      HeaderAt rest place address := by
  have hline : startsLine (line ++ ['\n']).getLast? = true := by
    rw [List.getLast?_concat]
    rfl
  have hlength : line.length + 1 = (line ++ ['\n']).length := by simp
  rw [hlength, ← List.singleton_append, ← List.append_assoc, headerAt_append_length_iff hline]

/-- The headers of whole lines, and those of what comes after them. -/
theorem headerAt_append_iff {before : List Char} (h : startsLine before.getLast? = true) :
    HeaderAt (before ++ cs) place address ↔
      HeaderAt before place address ∨
        ∃ place', place = before.length + place' ∧ HeaderAt cs place' address := by
  rcases Nat.lt_or_ge place before.length with hlt | hle
  · have htake : (before ++ cs).take place = before.take place :=
      List.take_append_of_le_length (Nat.le_of_lt hlt)
    have hdrop : (before ++ cs).drop place = before.drop place ++ cs :=
      List.drop_append_of_le_length (Nat.le_of_lt hlt)
    have hnot : ¬ ∃ place', place = before.length + place' ∧ HeaderAt cs place' address := by
      rintro ⟨place', rfl, -⟩
      lia
    obtain ⟨lead, hlead⟩ : ∃ lead, before.drop place = lead ++ ['\n'] := by
      rcases List.eq_nil_or_concat before with rfl | ⟨before, c, rfl⟩
      · simp at hlt
      · obtain rfl : c = '\n' := by simpa [startsLine] using h
        rw [List.concat_eq_append] at hlt ⊢
        exact ⟨before.drop place, List.drop_append_of_le_length (by simp at hlt; lia)⟩
    rw [or_iff_left hnot, HeaderAt, HeaderAt, htake, hdrop, hlead, List.append_assoc,
      List.singleton_append, startsHeader_append_iff, startsHeader_append_iff]
  · obtain ⟨place', rfl⟩ := Nat.exists_eq_add_of_le hle
    have hnot : ¬ HeaderAt before (before.length + place') address := fun hheader =>
      absurd hheader.lt_length (by lia)
    rw [headerAt_append_length_iff h, or_iff_right hnot]
    simp

/-- A header that does not stand in front of the line stands behind it. -/
theorem HeaderAt.exists_of_append (hline : '\n' ∉ line) (hplace : 0 < place)
    (h : HeaderAt (line ++ cs) place address) :
    ∃ place', 0 < place' ∧ place = line.length + place' ∧ HeaderAt cs place' address := by
  have hstart := h.1
  rcases Nat.lt_or_ge line.length place with hlt | hle
  · obtain ⟨place', rfl⟩ := Nat.exists_eq_add_of_le (Nat.le_of_lt hlt)
    have hheader := h.2
    rw [List.drop_length_add_append] at hheader
    have hne : cs ≠ [] := by
      rintro rfl
      rw [List.drop_nil] at hheader
      exact not_startsHeader_nil hheader
    have hpos : 0 < place' := by lia
    obtain ⟨c, -, hlast⟩ := exists_getLast?_take hpos hne
    rw [List.take_length_add_append, List.getLast?_append, hlast, Option.some_or, ← hlast] at hstart
    exact ⟨place', hpos, rfl, hstart, hheader⟩
  · -- The character in front of the place belongs to the line.
    have hne : line ≠ [] := by
      rintro rfl
      exact absurd hle (Nat.not_le_of_lt hplace)
    obtain ⟨c, hc, hlast⟩ := exists_getLast?_take hplace hne
    rw [List.take_append_of_le_length hle, hlast] at hstart
    obtain rfl : c = '\n' := by simpa [startsLine] using hstart
    exact absurd hc hline

theorem headerFreeBehind_line (hline : '\n' ∉ line) : HeaderFreeBehind line := by
  intro place address hplace h
  rw [← List.append_nil line] at h
  obtain ⟨place', -, -, h⟩ := h.exists_of_append hline hplace
  exact absurd h.lt_length (Nat.not_lt_zero place')

theorem headerFreeBehind_lines_iff (hline : '\n' ∉ line) :
    HeaderFreeBehind (line ++ '\n' :: rest) ↔ HeaderFree rest := by
  constructor
  · intro h place address hheader
    exact h _ address (by lia) ((headerAt_line_iff line).2 hheader)
  · intro h place address hplace hheader
    obtain ⟨place', hpos, -, hheader⟩ := hheader.exists_of_append hline hplace
    obtain ⟨place, rfl⟩ := Nat.exists_eq_add_of_le hpos
    exact h place address ((headerAt_line_iff []).1 hheader)

theorem HeaderFreeBehind.headerFree (h : HeaderFreeBehind cs)
    (hstart : ∀ address, ¬ StartsHeader address cs) : HeaderFree cs := by
  intro place address hheader
  rcases Nat.eq_zero_or_pos place with rfl | hplace
  · exact hstart address (headerAt_zero_iff.1 hheader)
  · exact h place address hplace hheader

theorem headerFree_nil : HeaderFree [] :=
  (headerFreeBehind_line List.not_mem_nil).headerFree fun _ => not_startsHeader_nil

/-! ## The lines of a text with headers -/

/-- A line that starts with a header is at a place of the text. -/
theorem exists_headerAt_of_mem_splitOn (hmem : line ∈ cs.splitOn '\n')
    (h : StartsHeader address line) : ∃ place, HeaderAt cs place address := by
  induction cs using lines_induction with
  | line first hfirst =>
    rw [List.splitOn_eq_singleton hfirst, List.mem_singleton] at hmem
    rw [← hmem]
    exact ⟨0, headerAt_zero_iff.2 h⟩
  | lines first rest hfirst ih =>
    rw [List.splitOn_append_cons_self_of_not_mem hfirst, List.mem_cons] at hmem
    rcases hmem with rfl | hmem
    · exact ⟨0, headerAt_zero_iff.2 (startsHeader_append_iff.2 h)⟩
    · obtain ⟨place, hplace⟩ := ih hmem
      exact ⟨_, (headerAt_line_iff first).2 hplace⟩

/-- Headers are looked for line by line. -/
theorem headerFree_iff : HeaderFree cs ↔ ∀ l ∈ cs.splitOn '\n', headerAddress? l = none := by
  constructor
  · intro hfree l hl
    rw [headerAddress?_eq_none_iff]
    intro address haddress
    obtain ⟨place, hplace⟩ := exists_headerAt_of_mem_splitOn hl haddress
    exact hfree place address hplace
  · intro h
    induction cs using lines_induction with
    | line line hline =>
      rw [List.splitOn_eq_singleton hline, List.forall_mem_singleton,
        headerAddress?_eq_none_iff] at h
      exact (headerFreeBehind_line hline).headerFree h
    | lines line rest hline ih =>
      rw [List.splitOn_append_cons_self_of_not_mem hline, List.forall_mem_cons,
        headerAddress?_eq_none_iff] at h
      obtain ⟨hfirst, hrest⟩ := h
      exact ((headerFreeBehind_lines_iff hline).2 (ih hrest)).headerFree
        fun address haddress => hfirst address (startsHeader_append_iff.1 haddress)

/-- A header that starts the text starts its first line. -/
theorem StartsHeader.exists_splitOn (h : StartsHeader address cs) : ∃ first others,
    cs.splitOn '\n' = first :: others ∧ headerAddress? first = some address ∧
      (HeaderFreeBehind cs → ∀ l ∈ others, headerAddress? l = none) := by
  obtain ⟨first, after, rfl, hline, hafter⟩ := exists_endsLine cs
  cases after with
  | nil =>
    rw [List.append_nil] at h ⊢
    exact ⟨first, [], List.splitOn_eq_singleton hline, headerAddress?_eq_some_iff.2 h,
      fun _ => List.forall_mem_nil _⟩
  | cons c rest =>
    obtain rfl : c = '\n' := by simpa [endsLine] using hafter
    refine ⟨first, rest.splitOn '\n', List.splitOn_append_cons_self_of_not_mem hline _,
      headerAddress?_eq_some_iff.2 (startsHeader_append_iff.1 h), fun hbehind => ?_⟩
    exact headerFree_iff.1 ((headerFreeBehind_lines_iff hline).1 hbehind)

end RouteWatch.Match
