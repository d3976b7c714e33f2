import RouteWatch.Proofs.Match.Route

/-!
# The words and the rows of the daemon's table

The matcher of the daemon's table looks at two neighboring words only: the first ends with the
network, the second is the next hop. An address or a network of another text is never taken for
them, because nothing that stands before it can make a text of an address longer without belonging
to that address (`IsWritten.append_inj`).

A table is its header, its rows and its footer. A next hop is found behind the network of its own
row only: whatever else stands in the table, if no other word of it could be an address.

* `bgpTable_exact`: the words and the rows that the matcher finds.
-/

namespace RouteWatch.Match

open Text

variable {subnet : Subnet} {nextHop : Ip}

/-! ## The end of a word -/

/-- The characters that addresses are written with. -/
def addressChars : List Char :=
  ['0', '1', '2', '3', '4', '5', '6', '7', '8', '9', 'A', 'B', 'C', 'D', 'E', 'F',
   'a', 'b', 'c', 'd', 'e', 'f', '.', ':']

theorem isAddressChar_iff {c : Char} : isAddressChar c = true ↔ c ∈ addressChars := by
  constructor
  · intro hc
    exact forall_isAddressChar (p := (· ∈ addressChars)) hc (by decide)
  · intro hc
    have hall : addressChars.all isAddressChar = true := by decide
    exact List.all_eq_true.1 hall c hc

theorem startsAddress_iff {prev : Option Char} :
    startsAddress prev = true ↔ ∀ c ∈ prev, c ∉ addressChars := by
  cases prev with
  | none => simp [startsAddress]
  | some c => simp [startsAddress, ← isAddressChar_iff]

/-- The word ends with the network, and no address has begun before that. The length of the network
of one address may be left out. -/
def EndsWithNetwork (subnet : Subnet) (word : List Char) : Prop :=
  ∃ lead network, word = lead ++ network ∧
    (network = subnet.trunc.chars ∨ subnet.isHost = true ∧ network = subnet.trunc.addr.chars) ∧
    ∀ c ∈ lead.getLast?, c ∉ addressChars

theorem endsWithNetwork_iff {word : List Char} :
    EndsWithNetwork subnet word ↔ ∃ lead, ∃ spelling ∈ spellings subnet,
      word = lead ++ spelling ∧ startsAddress lead.getLast? = true := by
  simp only [EndsWithNetwork, startsAddress_iff, mem_spellings_iff]
  constructor
  · rintro ⟨lead, network, hword, hnetwork, hlead⟩
    exact ⟨lead, network, hnetwork, hword, hlead⟩
  · rintro ⟨lead, network, hnetwork, hword, hlead⟩
    exact ⟨lead, network, hword, hnetwork, hlead⟩

/-- Two neighboring words say that the route goes by way of the next hop. -/
def NamesRoute (subnet : Subnet) (nextHop : Ip) (ws : List (List Char)) : Prop :=
  ∃ word, EndsWithNetwork subnet word ∧ [word, nextHop.chars] <:+: ws

theorem bgpTable_iff_namesRoute {table : List Char} :
    bgpTable subnet nextHop table = true ↔ NamesRoute subnet nextHop (wordsOf table) := by
  rw [bgpTable_iff]
  constructor
  · rintro ⟨spelling, hs, lead, hlead, hpair⟩
    exact ⟨_, endsWithNetwork_iff.2 ⟨lead, spelling, hs, rfl, hlead⟩, hpair⟩
  · rintro ⟨word, hword, hpair⟩
    obtain ⟨lead, spelling, hs, rfl, hlead⟩ := endsWithNetwork_iff.1 hword
    exact ⟨spelling, hs, lead, hlead, hpair⟩

/-! ## Addresses and networks at the end of a word -/

/-- The text is that of a network or of an address. -/
def IsWritten (text : List Char) : Prop :=
  (∃ net : Subnet, text = net.chars) ∨ ∃ ip : Ip, text = ip.chars

theorem isWritten_of_mem_spellings {spelling : List Char} (h : spelling ∈ spellings subnet) :
    IsWritten spelling := by
  rcases mem_spellings_iff.1 h with rfl | ⟨-, rfl⟩
  · exact .inl ⟨_, rfl⟩
  · exact .inr ⟨_, rfl⟩

/-- An address that starts within the text of a network starts within its address. -/
theorem isAddressChar_of_chars_eq {net : Subnet} {ip : Ip} {before rest : List Char} {c : Char}
    (h : net.chars = before ++ c :: (ip.chars ++ rest)) : isAddressChar c = true := by
  obtain ⟨mark, hmark, hisMark⟩ := exists_isMark ip
  -- The length has no mark in it, so the address does not start there.
  have hlength : ∀ more, decimal net.length ≠ more ++ (ip.chars ++ rest) := by
    intro more hmore
    have hmem : mark ∈ decimal net.length := by rw [hmore]; simp [hmark]
    rw [isMark_of_mem_decimal hmem] at hisMark
    cases hisMark
  rw [Subnet.chars_eq] at h
  rcases List.append_eq_append_iff.1 h with ⟨more, -, hrest⟩ | ⟨more, haddr, hrest⟩
  · cases more with
    | nil => exact absurd (List.cons.inj hrest).2 (hlength [])
    | cons d more =>
      refine absurd ?_ (hlength (more ++ [c]))
      rw [(List.cons.inj hrest).2, List.append_assoc]
      rfl
  · cases more with
    | nil => exact absurd (List.cons.inj hrest).2.symm (hlength [])
    | cons d more =>
      obtain ⟨rfl, -⟩ := List.cons.inj hrest
      have hmem : c ∈ net.addr.chars := by rw [haddr]; simp
      exact isAddressChar_of_mem hmem

namespace IsWritten

variable {a b lead lead' : List Char}

theorem isAddressChar_of_append {before : List Char} {c : Char} (ha : IsWritten a)
    (hb : IsWritten b) (h : a = before ++ c :: b) : isAddressChar c = true := by
  obtain ⟨ip, rest, rfl⟩ : ∃ (ip : Ip) (rest : List Char), b = ip.chars ++ rest := by
    rcases hb with ⟨net, rfl⟩ | ⟨ip, rfl⟩
    · exact ⟨net.addr, _, net.chars_eq⟩
    · exact ⟨ip, [], (List.append_nil _).symm⟩
  rcases ha with ⟨net, rfl⟩ | ⟨ip', rfl⟩
  · exact isAddressChar_of_chars_eq h
  · have hmem : c ∈ ip'.chars := by rw [h]; simp
    exact isAddressChar_of_mem hmem

/-- What comes before the other text in this one belongs to an address, unless nothing does. -/
theorem eq_nil_of_append {more : List Char} (ha : IsWritten a) (hb : IsWritten b)
    (h : a = more ++ b) (hstart : startsAddress (lead ++ more).getLast? = true) : more = [] := by
  rcases List.eq_nil_or_concat more with rfl | ⟨more, c, rfl⟩
  · rfl
  · rw [List.concat_eq_append, List.append_assoc, List.singleton_append] at h
    have hc := isAddressChar_of_append ha hb h
    rw [List.concat_eq_append, ← List.append_assoc, List.getLast?_concat] at hstart
    simp [startsAddress, hc] at hstart

/-- A word that ends with an address or a network ends with one only. -/
theorem append_inj (ha : IsWritten a) (hb : IsWritten b)
    (hlead : startsAddress lead.getLast? = true) (hlead' : startsAddress lead'.getLast? = true)
    (h : lead ++ a = lead' ++ b) : lead = lead' ∧ a = b := by
  rcases List.append_eq_append_iff.1 h with ⟨more, rfl, rfl⟩ | ⟨more, rfl, rfl⟩
  · obtain rfl := eq_nil_of_append ha hb rfl hlead'
    simp
  · obtain rfl := eq_nil_of_append hb ha rfl hlead
    simp

end IsWritten

theorem endsWithNetwork_append_iff {lead written : List Char} (hwritten : IsWritten written)
    (hlead : ∀ c ∈ lead.getLast?, c ∉ addressChars) :
    EndsWithNetwork subnet (lead ++ written) ↔ written ∈ spellings subnet := by
  rw [← startsAddress_iff] at hlead
  rw [endsWithNetwork_iff]
  constructor
  · rintro ⟨lead', spelling, hs, h, hlead'⟩
    obtain ⟨-, rfl⟩ := hwritten.append_inj (isWritten_of_mem_spellings hs) hlead hlead' h
    exact hs
  · intro hs
    exact ⟨lead, written, hs, rfl, hlead⟩

theorem endsWithNetwork_append_chars_iff {lead : List Char} {net : Subnet}
    (hlead : ∀ c ∈ lead.getLast?, c ∉ addressChars) :
    EndsWithNetwork subnet (lead ++ net.chars) ↔ net = subnet.trunc := by
  rw [endsWithNetwork_append_iff (.inl ⟨net, rfl⟩) hlead, chars_mem_spellings_iff]

theorem endsWithNetwork_append_addr_iff {lead : List Char} {ip : Ip}
    (hlead : ∀ c ∈ lead.getLast?, c ∉ addressChars) :
    EndsWithNetwork subnet (lead ++ ip.chars) ↔
      subnet.isHost = true ∧ ip = subnet.trunc.addr := by
  rw [endsWithNetwork_append_iff (.inr ⟨ip, rfl⟩) hlead, mem_spellings_iff,
    or_iff_right (chars_ne_chars _ _).symm, Ip.chars_injective.eq_iff]

/-! ## Words that name no route -/

variable {ws : List (List Char)}

/-- None of the words could be an address. -/
def Plain (ws : List (List Char)) : Prop :=
  ∀ w ∈ ws, isAddressLike w = false

instance : DecidablePred Plain :=
  fun ws => decidable_of_iff (ws.any isAddressLike = false) (by simp [Plain])

theorem Plain.append {ws' : List (List Char)} (h : Plain ws) (h' : Plain ws') :
    Plain (ws ++ ws') :=
  List.forall_mem_append.2 ⟨h, h'⟩

theorem isAddressLike_append_chars (lead : List Char) (net : Subnet) :
    isAddressLike (lead ++ net.chars) = false := by
  rw [isAddressLike, Bool.and_eq_false_iff, List.all_eq_false]
  refine .inl ⟨'/', List.mem_append_right lead (slash_mem_chars net), ?_⟩
  decide

theorem namesRoute_cons {w : List Char} :
    NamesRoute subnet nextHop (w :: ws) ↔
      (EndsWithNetwork subnet w ∧ ws.head? = some nextHop.chars) ∨ NamesRoute subnet nextHop ws := by
  simp only [NamesRoute, pair_infix_cons]
  constructor
  · rintro ⟨word, hword, ⟨rfl, hhead⟩ | hpair⟩
    · exact .inl ⟨hword, hhead⟩
    · exact .inr ⟨word, hword, hpair⟩
  · rintro (⟨hword, hhead⟩ | ⟨word, hword, hpair⟩)
    · exact ⟨w, hword, .inl ⟨rfl, hhead⟩⟩
    · exact ⟨word, hword, .inr hpair⟩

theorem namesRoute_cons_of_head {w : List Char} (h : ∀ w' ∈ ws.head?, isAddressLike w' = false) :
    NamesRoute subnet nextHop (w :: ws) ↔ NamesRoute subnet nextHop ws := by
  rw [namesRoute_cons, or_iff_right]
  rintro ⟨-, hhead⟩
  exact ne_chars (h _ hhead) nextHop rfl

/-- Words that could be no addresses do not count before a word that could be none. -/
theorem namesRoute_append {before : List (List Char)} (hbefore : Plain before)
    (h : ∀ w ∈ ws.head?, isAddressLike w = false) :
    NamesRoute subnet nextHop (before ++ ws) ↔ NamesRoute subnet nextHop ws := by
  induction before with
  | nil => rfl
  | cons w before ih =>
    obtain ⟨-, hbefore⟩ := List.forall_mem_cons.1 hbefore
    have hhead : ∀ w' ∈ (before ++ ws).head?, isAddressLike w' = false := by
      cases before with
      | nil => exact h
      | cons w' before => simpa using hbefore w' List.mem_cons_self
    rw [List.cons_append, namesRoute_cons_of_head hhead, ih hbefore]

theorem not_namesRoute (h : Plain ws) : ¬ NamesRoute subnet nextHop ws := by
  rintro ⟨word, -, hpair⟩
  exact ne_chars (h _ (hpair.subset (by simp))) nextHop rfl

/-! ## Rows -/

/-- A row of the daemon's table. The next hop may stand on a line of its own. -/
structure TableRow where
  /-- What is said of the route before its network. -/
  status : List Char
  network : Subnet
  /-- The blanks after the network, which may break the line. -/
  gap : List Char
  nextHop : Ip
  /-- The columns after the next hop. -/
  columns : List Char
  status_last : ∀ c ∈ status.getLast?, c ∉ addressChars
  status_plain : Plain (wordsOf status)
  gap_ne_nil : gap ≠ []
  gap_blank : ∀ c ∈ gap, isBlank c = true
  columns_ahead : BlankAhead columns
  columns_plain : Plain (wordsOf columns)

namespace TableRow

variable (r : TableRow)

/-- The text of the row. -/
def chars : List Char :=
  r.status ++ (r.network.chars ++ (r.gap ++ (r.nextHop.chars ++ (r.columns ++ ['\n']))))

/-- The network may belong to the last word of the status. -/
theorem exists_wordsOf_chars (rest : List Char) :
    ∃ before lead, Plain before ∧ (∀ c ∈ lead.getLast?, c ∉ addressChars) ∧
      wordsOf (r.chars ++ rest) = before ++ (lead ++ r.network.chars) :: r.nextHop.chars ::
        (wordsOf r.columns ++ wordsOf rest) := by
  obtain ⟨before, lead, hstatus, hbefore, hlead⟩ := exists_lead r.status
  have hplain : Plain (wordsOf before) := by
    intro w hw
    exact r.status_plain w (by rw [hstatus, wordsOf_append hbefore]; exact List.mem_append_left _ hw)
  have hlast : ∀ c ∈ lead.getLast?, c ∉ addressChars := by
    intro c hc
    refine r.status_last c ?_
    rw [hstatus, List.getLast?_append, Option.mem_def.1 hc]
    rfl
  have hword : IsWord (lead ++ r.network.chars) :=
    ⟨by simp [r.network.isWord_chars.ne_nil],
      List.forall_mem_append.2 ⟨hlead, r.network.isWord_chars.not_blank⟩⟩
  have hgap : BlankAhead (r.gap ++ (r.nextHop.chars ++ (r.columns ++ '\n' :: rest))) := by
    obtain ⟨c, gap, hgap⟩ := List.exists_cons_of_ne_nil r.gap_ne_nil
    rw [hgap]
    exact blankAhead_cons (r.gap_blank c (by rw [hgap]; exact List.mem_cons_self)) _
  have hcolumns : BlankAhead (r.columns ++ '\n' :: rest) := by
    have hahead := r.columns_ahead
    cases hcols : r.columns with
    | nil => exact blankAhead_cons rfl rest
    | cons c columns => rw [hcols] at hahead; exact hahead
  refine ⟨wordsOf before, lead, hplain, hlast, ?_⟩
  have htext : r.chars ++ rest = before ++ ((lead ++ r.network.chars) ++ (r.gap ++
      (r.nextHop.chars ++ (r.columns ++ '\n' :: rest)))) := by
    simp [chars, hstatus]
  rw [htext, wordsOf_append hbefore, wordsOf_word_append hword hgap,
    wordsOf_blanks_append r.gap_blank, wordsOf_word_append (isWord_chars r.nextHop) hcolumns,
    wordsOf_append_cons rfl]

end TableRow

/-- A row starts like no address. -/
theorem isAddressLike_head_rows {footer : List Char} (hfooter : Plain (wordsOf footer))
    (rows : List TableRow) :
    ∀ w ∈ (wordsOf (rows.flatMap TableRow.chars ++ footer)).head?, isAddressLike w = false := by
  intro w hw
  cases rows with
  | nil => exact hfooter w (List.mem_of_mem_head? hw)
  | cons r rows =>
    obtain ⟨before, lead, hbefore, -, hwords⟩ :=
      r.exists_wordsOf_chars (rows.flatMap TableRow.chars ++ footer)
    rw [List.flatMap_cons, List.append_assoc, hwords] at hw
    cases before with
    | nil =>
      obtain rfl : lead ++ r.network.chars = w := by simpa using hw
      exact isAddressLike_append_chars lead r.network
    | cons w' before =>
      obtain rfl : w' = w := by simpa using hw
      exact hbefore w' List.mem_cons_self

/-- A row names its own route, and none together with what stands around it. -/
theorem namesRoute_rows_iff {footer : List Char} (hfooter : Plain (wordsOf footer))
    {rows : List TableRow} :
    NamesRoute subnet nextHop (wordsOf (rows.flatMap TableRow.chars ++ footer)) ↔
      ∃ r ∈ rows, r.network = subnet.trunc ∧ r.nextHop = nextHop := by
  induction rows with
  | nil => simpa using not_namesRoute hfooter
  | cons r rows ih =>
    obtain ⟨before, lead, hbefore, hlead, hwords⟩ :=
      r.exists_wordsOf_chars (rows.flatMap TableRow.chars ++ footer)
    have hhead := isAddressLike_head_rows hfooter rows
    have hcolumns : ∀ w ∈ (wordsOf r.columns ++
        wordsOf (rows.flatMap TableRow.chars ++ footer)).head?, isAddressLike w = false := by
      intro w hw
      cases hcols : wordsOf r.columns with
      | nil => rw [hcols] at hw; exact hhead w hw
      | cons w' columns =>
        obtain rfl : w' = w := by simpa [hcols] using hw
        exact r.columns_plain w' (by rw [hcols]; exact List.mem_cons_self)
    have hfirst : ∀ w ∈ ((lead ++ r.network.chars) :: r.nextHop.chars :: (wordsOf r.columns ++
        wordsOf (rows.flatMap TableRow.chars ++ footer))).head?, isAddressLike w = false := by
      intro w hw
      obtain rfl := Option.some.inj hw
      exact isAddressLike_append_chars lead r.network
    rw [List.flatMap_cons, List.append_assoc, hwords, namesRoute_append hbefore hfirst,
      namesRoute_cons, endsWithNetwork_append_chars_iff hlead, namesRoute_cons_of_head hcolumns,
      namesRoute_append r.columns_plain hhead, ih]
    simp [Ip.chars_injective.eq_iff]

/-- A table of the daemon: rows with text around them in which no word could be an address. -/
structure DaemonTable where
  header : List Char
  rows : List TableRow
  footer : List Char
  header_behind : BlankBehind header
  header_plain : Plain (wordsOf header)
  footer_plain : Plain (wordsOf footer)

namespace DaemonTable

/-- The text of the table. -/
def text (t : DaemonTable) : String :=
  String.ofList (t.header ++ (t.rows.flatMap TableRow.chars ++ t.footer))

theorem route_text_iff (t : DaemonTable) :
    route .bgp subnet nextHop t.text = true ↔
      ∃ r ∈ t.rows, r.network = subnet.trunc ∧ r.nextHop = nextHop := by
  rw [route, bgpTable_iff_namesRoute, text, String.toList_ofList, wordsOf_append t.header_behind,
    namesRoute_append t.header_plain (isAddressLike_head_rows t.footer_plain t.rows),
    namesRoute_rows_iff t.footer_plain]

end DaemonTable

/-- In the table of the daemon a route is found if two neighboring words name it, whatever blanks
stand between them. A word with a longer address or another network at its end does not name it. So
of a table with rows the matcher finds the routes of the rows, and no others. -/
theorem bgpTable_exact (subnet : Subnet) (nextHop : Ip) :
    (∀ table : String, route .bgp subnet nextHop table = true ↔
      ∃ word, EndsWithNetwork subnet word ∧ [word, nextHop.chars] <:+: wordsOf table.toList) ∧
    (∀ lead : List Char, (∀ c ∈ lead.getLast?, c ∉ addressChars) →
      (∀ net : Subnet, EndsWithNetwork subnet (lead ++ net.chars) ↔ net = subnet.trunc) ∧
      ∀ ip : Ip, EndsWithNetwork subnet (lead ++ ip.chars) ↔
        subnet.isHost = true ∧ ip = subnet.trunc.addr) ∧
    ∀ t : DaemonTable, route .bgp subnet nextHop t.text = true ↔
      ∃ r ∈ t.rows, r.network = subnet.trunc ∧ r.nextHop = nextHop := by
  refine ⟨?words, ?ends, ?rows⟩
  case words =>
    intro table
    exact bgpTable_iff_namesRoute
  case ends =>
    intro lead hlead
    exact ⟨fun net => endsWithNetwork_append_chars_iff hlead,
      fun ip => endsWithNetwork_append_addr_iff hlead⟩
  case rows =>
    intro t
    exact t.route_text_iff

example : route .bgp (.v4 ⟨⟨10, 128, 0, 0⟩, 23⟩) (.v4 ⟨192, 168, 111, 20⟩)
    " *>i10.128.0.0/23\n                    192.168.111.20      0    100      0 i\n" = true := by
  decide +kernel

end RouteWatch.Match
