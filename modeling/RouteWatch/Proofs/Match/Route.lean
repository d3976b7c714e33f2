import RouteWatch.Proofs.Match.Addresses

/-!
# What the matchers of routes look for

In the table of the daemon a route is found if two neighboring words of the table are the network,
perhaps with other characters before it that belong to no address, and the next hop. In the kernel's
table it is found in a line, where only the words after the network are free.

* `bgpTable_iff`: the table of the daemon;
* `kernelTable_iff`: the kernel's table.
-/

namespace RouteWatch.Match

open Text

variable {subnet : Subnet} {nextHop : Ip} {table : List Char}

theorem startsWithNetwork_iff {test : List Char → Bool} {text : List Char} :
    startsWithNetwork subnet test text = true ↔
      ∃ spelling ∈ spellings subnet, ∃ rest, text = spelling ++ rest ∧ test rest = true := by
  simp [startsWithNetwork, Option.any_eq_true, after?_eq_some_iff]

/-! ## Spellings -/

theorem mem_spellings_iff {spelling : List Char} :
    spelling ∈ spellings subnet ↔ spelling = subnet.trunc.chars ∨
      subnet.isHost = true ∧ spelling = subnet.trunc.addr.chars := by
  rw [spellings]
  split <;> simp_all

theorem isWord_of_mem_spellings {spelling : List Char} (h : spelling ∈ spellings subnet) :
    IsWord spelling := by
  rcases mem_spellings_iff.1 h with rfl | ⟨-, rfl⟩
  · exact subnet.trunc.isWord_chars
  · exact isWord_chars subnet.trunc.addr

theorem slash_not_mem_chars (ip : Ip) : '/' ∉ ip.chars :=
  fun h => ne_slash_of_isAddressChar (isAddressChar_of_mem h) rfl

theorem slash_mem_chars (net : Subnet) : '/' ∈ net.chars := by
  simp [net.chars_eq]

theorem chars_ne_chars (net : Subnet) (ip : Ip) : net.chars ≠ ip.chars :=
  fun h => slash_not_mem_chars ip (h ▸ slash_mem_chars net)

/-- The text of a network is a spelling of it and of all that differ in host bits only. -/
theorem chars_mem_spellings_iff {net : Subnet} :
    net.chars ∈ spellings subnet ↔ net = subnet.trunc := by
  simp [mem_spellings_iff, Subnet.chars_injective.eq_iff, chars_ne_chars]

theorem isHost_trunc (net : Subnet) : net.trunc.isHost = net.isHost := by
  cases net <;> rfl

theorem eq_of_isHost {a b : Subnet} (ha : a.isHost = true) (hb : b.isHost = true)
    (h : a.addr = b.addr) : a = b := by
  have hwidth : a.width = b.width := by
    cases a <;> cases b <;> first | rfl | cases h
  refine Subnet.ext_addr_length h ?_
  rw [Subnet.isHost, beq_iff_eq] at ha hb
  rw [ha, hb, hwidth]

/-- The address of a network is a spelling of the network if it has that address only. -/
theorem addr_chars_mem_spellings_iff {net : Subnet} (hnet : net.isHost = true) :
    net.addr.chars ∈ spellings subnet ↔ net = subnet.trunc := by
  rw [mem_spellings_iff, or_iff_right (chars_ne_chars _ _).symm, Ip.chars_injective.eq_iff,
    ← isHost_trunc]
  constructor
  · rintro ⟨hhost, haddr⟩
    exact eq_of_isHost hnet hhost haddr
  · rintro rfl
    exact ⟨hnet, rfl⟩

/-! ## The table of the daemon -/

theorem head?_wordsOf {w text : List Char} (hw : IsWord w) :
    (wordsOf text).head? = some w ↔ ∃ rest, text.dropWhile isBlank = w ++ rest ∧ BlankAhead rest := by
  induction text using words_induction with
  | nil => simp [hw.ne_nil]
  | blank c rest hc ih => rw [wordsOf_cons hc, ih, List.dropWhile_cons_of_pos hc]
  | word w' rest hw' hrest ih =>
    rw [wordsOf_word_append hw' hrest, hw'.dropWhile]
    constructor
    · intro h
      cases h
      exact ⟨rest, rfl, hrest⟩
    · rintro ⟨rest', h, hrest'⟩
      have hwords := congrArg wordsOf h
      rw [wordsOf_word_append hw' hrest, wordsOf_word_append hw hrest'] at hwords
      rw [hwords]
      rfl

/-- The next column is the next hop if no word goes on here and the first word is the next hop. -/
theorem nextColumnIs_iff {text : List Char} :
    nextColumnIs nextHop text = true ↔
      BlankAhead text ∧ (wordsOf text).head? = some nextHop.chars := by
  rw [head?_wordsOf (isWord_chars nextHop)]
  cases text with
  | nil => simp [nextColumnIs, (isWord_chars nextHop).ne_nil]
  | cons c text =>
    simp only [nextColumnIs, Bool.and_eq_true, Option.any_eq_true, after?_eq_some_iff]
    exact and_congr (by simp [BlankAhead]) Iff.rfl

theorem isAddressChar_of_isBlank {c : Char} (hc : isBlank c = true) : isAddressChar c = false := by
  rw [Bool.eq_false_iff]
  intro h
  rw [isBlank_of_isAddressChar h] at hc
  cases hc

theorem startsAddress_lastOr {before lead : List Char} (h : BlankBehind before) :
    startsAddress (lastOr none (before ++ lead)) = startsAddress lead.getLast? := by
  rw [lastOr, Option.or_none, List.getLast?_append]
  cases lead.getLast? with
  | some c => rfl
  | none =>
    cases hbefore : before.getLast? with
    | none => rfl
    | some c =>
      have hc : isBlank c = true := by simpa [BlankBehind, hbefore] using h
      simp [startsAddress, isAddressChar_of_isBlank hc]

theorem pair_infix_iff {α : Type} {x y : α} {ws : List α} :
    [x, y] <:+: ws ↔ ∃ before after, ws = before ++ x :: y :: after := by
  simp [List.IsInfix, eq_comm]

theorem pair_infix_cons {α : Type} {x y a : α} {ws : List α} :
    [x, y] <:+: a :: ws ↔ (x = a ∧ ws.head? = some y) ∨ [x, y] <:+: ws := by
  have hhead : [y] <+: ws ↔ ws.head? = some y := by
    cases ws <;> simp [eq_comm]
  rw [List.infix_cons_iff, List.cons_prefix_cons, hhead]

theorem bgpTable_iff :
    bgpTable subnet nextHop table = true ↔
      ∃ spelling ∈ spellings subnet, ∃ lead, startsAddress lead.getLast? = true ∧
        [lead ++ spelling, nextHop.chars] <:+: wordsOf table := by
  simp only [bgpTable, anywhere_iff, Bool.and_eq_true, startsWithNetwork_iff, nextColumnIs_iff,
    pair_infix_iff]
  constructor
  · rintro ⟨before, rest, rfl, hstart, spelling, hmem, rest, rfl, hends, hnext⟩
    obtain ⟨before, lead, rfl, hbefore, hlead⟩ := exists_lead before
    rw [startsAddress_lastOr hbefore] at hstart
    have hword : IsWord (lead ++ spelling) := by
      have hspelling := isWord_of_mem_spellings hmem
      exact ⟨by simp [hspelling.ne_nil], List.forall_mem_append.2 ⟨hlead, hspelling.not_blank⟩⟩
    obtain ⟨after, hafter⟩ : ∃ after, wordsOf rest = nextHop.chars :: after :=
      List.head?_eq_some_iff.1 hnext
    refine ⟨spelling, hmem, lead, hstart, wordsOf before, after, ?_⟩
    have hsplit : before ++ lead ++ (spelling ++ rest) = before ++ ((lead ++ spelling) ++ rest) := by
      simp
    rw [hsplit, wordsOf_append hbefore, wordsOf_word_append hword hends, hafter]
  · rintro ⟨spelling, hmem, lead, hstart, before, after, hwords⟩
    obtain ⟨text, rest, rfl, htext, hends, -, hrest⟩ := exists_of_wordsOf_eq hwords
    refine ⟨text ++ lead, spelling ++ rest, by simp, ?_, spelling, hmem, rest, rfl, hends, ?_⟩
    · rwa [startsAddress_lastOr htext]
    · rw [hrest]
      rfl

/-! ## The kernel's table -/

theorem kernelTable_iff :
    kernelTable subnet nextHop table = true ↔
      ∃ before spelling c rest, table = before ++ (spelling ++ c :: rest) ∧
        startsLine before.getLast? = true ∧ spelling ∈ spellings subnet ∧ isBlank c = true ∧
        alongLine (viaNextHop nextHop) (some c) rest = true := by
  simp only [kernelTable, anywhere_iff, Bool.and_eq_true, startsWithNetwork_iff]
  constructor
  · rintro ⟨before, rest, rfl, hstart, spelling, hmem, rest, rfl, htest⟩
    cases rest with
    | nil => cases htest
    | cons c rest =>
      rw [blankThen, Bool.and_eq_true] at htest
      exact ⟨before, spelling, c, rest, rfl, by simpa [lastOr] using hstart, hmem, htest.1, htest.2⟩
  · rintro ⟨before, spelling, c, rest, rfl, hstart, hmem, hc, htest⟩
    refine ⟨before, _, rfl, by simpa [lastOr] using hstart, spelling, hmem, c :: rest, rfl, ?_⟩
    rw [blankThen, Bool.and_eq_true]
    exact ⟨hc, htest⟩

end RouteWatch.Match
