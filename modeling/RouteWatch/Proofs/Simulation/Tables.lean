import RouteWatch.Proofs.Match.KernelTable
import RouteWatch.Proofs.Match.NeighborSections
import RouteWatch.Simulation.Tables

/-!
# The matchers read what the tables say

Every route of a printed table is found in it, and no other one: neither the lines around the routes
nor two routes together look like another route.

* `route_daemonTable_iff`, `route_kernelTable_iff`: the routes that are found;
* `neighbor_neighborPage_iff`: the sessions that are found.
-/

namespace RouteWatch.Simulation

open Text Match

theorem toList_lines (ls : List String) :
    (lines ls).toList = ls.flatMap fun l => l.toList ++ ['\n'] := by
  simp [lines, String.toList_join, List.flatMap_map, String.toList_append]

theorem lines_append (ls more : List String) : lines (ls ++ more) = lines ls ++ lines more := by
  rw [← String.toList_inj, String.toList_append, toList_lines ls, toList_lines more,
    toList_lines (ls ++ more), List.flatMap_append]

theorem wordsOf_lines (ls : List String) :
    wordsOf (lines ls).toList = ls.flatMap fun l => wordsOf l.toList := by
  rw [toList_lines]
  induction ls with
  | nil => rfl
  | cons l ls ih =>
    rw [List.flatMap_cons, List.flatMap_cons, List.append_assoc, List.singleton_append,
      wordsOf_append_cons rfl, ih]

/-! ## The table of the daemon -/

theorem toList_column (width : Nat) (text : String) :
    (column width text).toList = text.toList ++ List.replicate (width - text.length) ' ' := by
  simp [column]

/-- The row of the daemon's table, with its columns told apart. -/
def Row.inTable (r : Row) : TableRow where
  status := [' ', '*', '>', 'i']
  network := r.subnet
  gap := [' ']
  nextHop := r.nextHop
  columns := List.replicate (19 - r.nextHop.text.length) ' ' ++ " 0    100      0 i".toList
  status_last := by
    intro c hc
    obtain rfl : 'i' = c := Option.some.inj hc
    decide
  status_plain := by decide
  gap_ne_nil := by decide
  gap_blank := List.forall_mem_singleton.2 (by decide)
  columns_ahead := by cases 19 - r.nextHop.text.length <;> rfl
  columns_plain := by
    rw [wordsOf_replicate_append rfl, String.toList_ofList]
    decide

theorem chars_inTable (r : Row) : r.inTable.chars = r.daemonLine.toList ++ ['\n'] := by
  simp [Row.daemonLine, toString, toList_column, Subnet.text, Ip.text, TableRow.chars, Row.inTable]

theorem plain_decimal (n : Nat) : Plain [decimal n] := by
  intro w hw
  obtain rfl := List.mem_singleton.1 hw
  rw [isAddressLike, Bool.and_eq_false_iff, List.any_eq_false]
  exact .inr fun c hc => by simp [isMark_of_mem_decimal hc]

theorem wordsOf_footer (count : Nat) : wordsOf s!"Displayed  {count} routes".toList =
    ["Displayed".toList] ++ ([decimal count] ++ ["routes".toList]) := by
  have htext : s!"Displayed  {count} routes".toList =
      "Displayed".toList ++ ' ' :: ' ' :: (decimal count ++ ' ' :: "routes".toList) := by
    simp [toString, decimal]
  have hdisplayed : IsWord "Displayed".toList := by
    rw [String.toList_ofList]
    decide
  rw [htext, wordsOf_word_append hdisplayed (blankAhead_cons rfl _), wordsOf_cons rfl,
    wordsOf_cons rfl, wordsOf_word_append (isWord_decimal count) (blankAhead_cons rfl _)]
  rfl

theorem plain_header : Plain (wordsOf (lines tableHeader).toList) := by
  rw [wordsOf_lines, tableHeader, List.flatMap_cons, List.flatMap_cons, List.flatMap_cons,
    List.flatMap_cons]
  -- The literals are spelled out before they are searched.
  rw [String.toList_ofList, String.toList_ofList, String.toList_ofList, String.toList_ofList]
  decide

theorem plain_footer (count : Nat) :
    Plain (wordsOf (lines ["", s!"Displayed  {count} routes"]).toList) := by
  have hwords : wordsOf (lines ["", s!"Displayed  {count} routes"]).toList =
      wordsOf s!"Displayed  {count} routes".toList := by
    rw [wordsOf_lines, List.flatMap_cons, List.flatMap_singleton]
    rfl
  rw [hwords, wordsOf_footer]
  refine Plain.append ?_ (Plain.append (plain_decimal count) ?_)
  all_goals
    rw [String.toList_ofList]
    decide

theorem blankBehind_lines (ls : List String) : BlankBehind (lines ls).toList := by
  have hlast := startsLine_flatMap (ls.map String.toList)
  rw [List.flatMap_map, ← toList_lines] at hlast
  unfold BlankBehind
  cases h : (lines ls).toList.getLast? with
  | none => rfl
  | some c =>
    rw [h] at hlast
    obtain rfl : c = '\n' := by simpa [startsLine] using hlast
    rfl

/-- The daemon's table, with its rows told apart. -/
def tableOf (rows : List Row) : DaemonTable where
  header := (lines tableHeader).toList
  rows := rows.map Row.inTable
  footer := (lines ["", s!"Displayed  {rows.length} routes"]).toList
  header_behind := blankBehind_lines tableHeader
  header_plain := plain_header
  footer_plain := plain_footer rows.length

theorem daemonTable_eq (rows : List Row) : daemonTable rows = (tableOf rows).text := by
  have hrows : (lines (rows.map Row.daemonLine)).toList =
      (rows.map Row.inTable).flatMap TableRow.chars := by
    rw [toList_lines, List.flatMap_map, List.flatMap_map]
    simp only [chars_inTable]
  rw [← String.toList_inj, DaemonTable.text, String.toList_ofList, daemonTable, lines_append,
    lines_append, String.toList_append, String.toList_append, hrows, List.append_assoc, tableOf]

theorem route_daemonTable_iff {s : Subnet} {nextHop : Ip} {rows : List Row} :
    Match.route .bgp s nextHop (daemonTable rows) = true ↔ ⟨s.trunc, nextHop⟩ ∈ rows := by
  rw [daemonTable_eq, DaemonTable.route_text_iff, tableOf]
  constructor
  · intro h
    obtain ⟨_, hmem, hsubnet, hhop⟩ := h
    obtain ⟨r, hr, rfl⟩ := List.mem_map.1 hmem
    rw [← hsubnet, ← hhop]
    exact hr
  · intro hr
    exact ⟨_, List.mem_map_of_mem hr, rfl, rfl⟩

/-! ## The kernel's table -/

/-- A line of the kernel's table after the network. -/
def Row.kernelRest (r : Row) : List Char :=
  "nhid 42 via ".toList ++ (r.nextHop.chars ++ " dev br-ex proto bgp metric 20".toList)

theorem toList_kernelLine (r : Row) :
    r.kernelLine.toList = r.destination.toList ++ ' ' :: r.kernelRest := by
  unfold Row.kernelLine Row.kernelRest
  simp only [String.toList_append, toString]
  simp [Ip.text]

theorem toList_destination (r : Row) :
    r.destination.toList = if r.subnet.isHost then r.subnet.addr.chars else r.subnet.chars := by
  rw [Row.destination]
  split <;> simp [Ip.text, Subnet.text]

theorem destination_mem_spellings_iff {r : Row} {s : Subnet} :
    r.destination.toList ∈ spellings s ↔ r.subnet = s.trunc := by
  rw [toList_destination]
  split
  next hhost => exact addr_chars_mem_spellings_iff hhost
  next => exact chars_mem_spellings_iff

theorem isWord_destination (r : Row) : IsWord r.destination.toList := by
  rw [toList_destination]
  split
  · exact isWord_chars _
  · exact Subnet.isWord_chars _

theorem wordsOf_kernelRest (r : Row) :
    wordsOf r.kernelRest = ["nhid", "42", "via"].map String.toList ++ r.nextHop.chars ::
      ["dev", "br-ex", "proto", "bgp", "metric", "20"].map String.toList := by
  have hbefore : BlankBehind "nhid 42 via ".toList := by
    rw [String.toList_ofList]
    decide
  have hafter : BlankAhead " dev br-ex proto bgp metric 20".toList := by
    rw [String.toList_ofList]
    decide
  unfold Row.kernelRest
  rw [wordsOf_append hbefore, wordsOf_word_append (isWord_chars r.nextHop) hafter,
    String.toList_ofList, String.toList_ofList]
  rfl

theorem line_feed_not_mem_kernelRest (r : Row) : '\n' ∉ r.kernelRest := by
  unfold Row.kernelRest
  rw [List.mem_append, List.mem_append, not_or, not_or, String.toList_ofList, String.toList_ofList]
  exact ⟨by decide, line_feed_not_mem_chars r.nextHop, by decide⟩

theorem line_feed_not_mem_kernelLine (r : Row) : '\n' ∉ r.kernelLine.toList := by
  have hdestination : '\n' ∉ r.destination.toList :=
    fun h => absurd ((isWord_destination r).not_blank '\n' h) (by decide)
  rw [toList_kernelLine, not_mem_append_cons]
  exact ⟨hdestination, by decide, line_feed_not_mem_kernelRest r⟩

/-- The next hop of a line is the only address in it after the network. -/
theorem eq_of_hop_append {r : Row} {nextHop : Ip} {before rest : List Char} {c : Char}
    (hc : isBlank c = true)
    (h : r.kernelRest = (before ++ ("via ".toList ++ nextHop.chars)) ++ c :: rest) :
    nextHop = r.nextHop := by
  have hmem : nextHop.chars ∈ wordsOf r.kernelRest := by
    rw [h, ← List.append_assoc, List.append_assoc, wordsOf_append (blankBehind_append_via before),
      wordsOf_word_append (isWord_chars nextHop) (blankAhead_cons hc rest)]
    simp
  -- The other words of the line are no addresses.
  have hplain : Plain (["nhid", "42", "via", "dev", "br-ex", "proto", "bgp", "metric",
      "20"].map String.toList) := by
    decide
  rw [wordsOf_kernelRest, List.mem_append, List.mem_cons] at hmem
  rcases hmem with hmem | h | hmem
  · exact absurd rfl (ne_chars (hplain _ (List.mem_append_left _ hmem)) nextHop)
  · exact Ip.chars_injective h
  · exact absurd rfl (ne_chars (hplain _
      (List.mem_append_right (["nhid", "42", "via"].map String.toList) hmem)) nextHop)

theorem says_kernelLine (r : Row) {s : Subnet} (hs : r.subnet = s.trunc) :
    Says s r.nextHop r.destination.toList ("nhid 42 via ".toList ++ r.nextHop.chars)
      "dev br-ex proto bgp metric 20".toList where
  network_eq := mem_spellings_iff.1 (destination_mem_spellings_iff.2 hs)
  hop_eq := by
    have hvia : "nhid 42 via ".toList = "nhid 42 ".toList ++ "via ".toList := by
      rw [String.toList_ofList, String.toList_ofList, String.toList_ofList]
      rfl
    refine ⟨"nhid 42 ".toList, by rw [hvia, List.append_assoc], ?_⟩
    rw [String.toList_ofList]
    decide
  protocol_eq := by
    refine ⟨"dev br-ex ".toList, " metric 20".toList, ?_, ?_⟩
    · rw [String.toList_ofList, String.toList_ofList, String.toList_ofList, String.toList_ofList]
      rfl
    · rw [String.toList_ofList, String.toList_ofList]
      decide

theorem lineShows_kernelLine_iff {r : Row} {s : Subnet} {nextHop : Ip} :
    LineShows s nextHop r.kernelLine.toList ↔ r.subnet = s.trunc ∧ nextHop = r.nextHop := by
  constructor
  · rintro ⟨network, hop, protocol, c₁, c₂, hsays, hc₁, hc₂, hline⟩
    have hnetwork := mem_spellings_iff.2 hsays.network_eq
    rw [toList_kernelLine] at hline
    obtain ⟨rfl, -, hrest⟩ := append_cons_inj (isWord_destination r).not_blank
      (isWord_of_mem_spellings hnetwork).not_blank (by decide) hc₁ hline
    obtain ⟨before, rfl, -⟩ := hsays.hop_eq
    exact ⟨destination_mem_spellings_iff.1 hnetwork, eq_of_hop_append hc₂ hrest⟩
  · rintro ⟨hs, rfl⟩
    have hdevice : " dev br-ex proto bgp metric 20".toList =
        ' ' :: "dev br-ex proto bgp metric 20".toList := by
      rw [String.toList_ofList, String.toList_ofList]
    have hrest : r.kernelRest = ("nhid 42 via ".toList ++ r.nextHop.chars) ++
        ' ' :: "dev br-ex proto bgp metric 20".toList := by
      unfold Row.kernelRest
      rw [hdevice, List.append_assoc]
    refine ⟨_, _, _, ' ', ' ', says_kernelLine r hs, by decide, by decide, ?_⟩
    rw [toList_kernelLine, hrest]

theorem splitBy_lines {ls : List String} (hls : ∀ l ∈ ls, '\n' ∉ l.toList) :
    splitBy (· == '\n') (lines ls).toList = ls.map String.toList ++ [[]] := by
  rw [toList_lines, ← splitBy_flatMap_concat (List.forall_mem_map.2 hls), List.flatMap_map]

theorem splitOn_kernelTable (rows : List Row) : (kernelTable rows).toList.splitOn '\n' =
    rows.map (fun r => r.kernelLine.toList) ++ [[]] := by
  have hrows : ∀ l ∈ rows.map Row.kernelLine, '\n' ∉ l.toList := by
    intro l hl
    obtain ⟨r, -, rfl⟩ := List.mem_map.1 hl
    exact line_feed_not_mem_kernelLine r
  rw [kernelTable, ← splitBy_eq_splitOn, splitBy_lines hrows, List.map_map]
  rfl

/-- Every line goes on after the network and after the next hop. -/
theorem not_spillsOver_kernelTable {s : Subnet} {nextHop : Ip} (rows : List Row) :
    ¬ ∃ ls, ls <:+: (kernelTable rows).toList.splitOn '\n' ∧ SpillsOver s nextHop ls := by
  refine not_spillsOver ?_ ?_
  all_goals
    rw [splitOn_kernelTable]
    intro line hline
    rw [List.mem_append, List.mem_singleton, List.mem_map] at hline
  · rcases hline with ⟨r, -, rfl⟩ | rfl
    · intro hspelling
      have hblank := (isWord_of_mem_spellings hspelling).not_blank ' '
        (by rw [toList_kernelLine]; simp)
      exact absurd hblank (by decide)
    · intro hspelling
      exact (isWord_of_mem_spellings hspelling).ne_nil rfl
  · rcases hline with ⟨r, -, rfl⟩ | rfl
    · intro hlast
      have hplain : isAddressLike "20".toList = false := by decide
      have hwords : (wordsOf r.kernelLine.toList).getLast? = some "20".toList := by
        rw [toList_kernelLine, wordsOf_append_cons (by decide), wordsOf_kernelRest,
          List.getLast?_append, List.getLast?_append, List.getLast?_cons]
        rfl
      rw [hwords] at hlast
      exact ne_chars hplain nextHop (Option.some.inj hlast)
    · simp

theorem route_kernelTable_iff {s : Subnet} {nextHop : Ip} {rows : List Row} :
    Match.route .kernel s nextHop (kernelTable rows) = true ↔ ⟨s.trunc, nextHop⟩ ∈ rows := by
  rw [Match.route, kernelTable_iff_lines, or_iff_left (not_spillsOver_kernelTable rows),
    splitOn_kernelTable]
  constructor
  · rintro ⟨line, hline, hshows⟩
    rw [List.mem_append, List.mem_singleton, List.mem_map] at hline
    rcases hline with ⟨r, hr, rfl⟩ | rfl
    · obtain ⟨hs, rfl⟩ := lineShows_kernelLine_iff.1 hshows
      rw [← hs]
      exact hr
    · obtain ⟨network, hop, protocol, c₁, c₂, -, -, -, hline⟩ := hshows
      simp at hline
  · intro hr
    exact ⟨_, List.mem_append_left _ (List.mem_map_of_mem hr),
      lineShows_kernelLine_iff.2 ⟨rfl, rfl⟩⟩

/-! ## The page about a neighbor -/

/-- The rest of the first line of the page. -/
def neighborLink : String :=
  " remote AS 64512, local AS 64512, internal link"

/-- The second line of the page. -/
def neighborVersion : String :=
  "  BGP version 4, remote router ID 192.0.2.11, local router ID 192.0.2.1"

/-- The third line of the page. -/
def neighborState (up : Bool) : String :=
  s!"  BGP state = {sessionState up}"

/-- What the page says about the neighbor in its header. -/
def neighborBody (up : Bool) : List Char :=
  neighborLink.toList ++ '\n' :: (lines [neighborVersion, neighborState up]).toList

theorem toList_neighborState (up : Bool) :
    (neighborState up).toList = "  BGP state = ".toList ++
      if up then "Established, up for 00:01:00".toList else "Active".toList := by
  cases up
  · exact String.toList_append
  · exact String.toList_append

theorem line_feed_not_mem_neighborLink : '\n' ∉ neighborLink.toList := by
  unfold neighborLink
  rw [String.toList_ofList]
  decide

theorem splitOn_neighborLines (up : Bool) :
    (lines [neighborVersion, neighborState up]).toList.splitOn '\n' =
      [neighborVersion.toList, (neighborState up).toList, []] := by
  have hversion : '\n' ∉ neighborVersion.toList := by
    unfold neighborVersion
    rw [String.toList_ofList]
    decide
  have hstate : '\n' ∉ (neighborState up).toList := by
    rw [toList_neighborState, String.toList_ofList, String.toList_ofList, String.toList_ofList]
    cases up <;> decide
  rw [← splitBy_eq_splitOn, splitBy_lines (by simp [hversion, hstate])]
  rfl

theorem headerFree_neighborLines (up : Bool) :
    HeaderFree (lines [neighborVersion, neighborState up]).toList := by
  have hversion : headerAddress? neighborVersion.toList = none := by
    unfold neighborVersion headerAddress?
    rw [String.toList_ofList, String.toList_ofList]
    decide
  have hstate : headerAddress? (neighborState up).toList = none := by
    unfold headerAddress?
    rw [toList_neighborState, String.toList_ofList, String.toList_ofList, String.toList_ofList,
      String.toList_ofList]
    cases up <;> decide
  rw [headerFree_iff, splitOn_neighborLines]
  simp [hversion, hstate, headerAddress?_nil]

theorem established_infix_neighborBody_iff {up : Bool} :
    established <:+: neighborBody up ↔ up = true := by
  have hlink : containsOf established neighborLink.toList = false := by
    unfold neighborLink established
    rw [String.toList_ofList, String.toList_ofList]
    decide
  have hversion : containsOf established neighborVersion.toList = false := by
    unfold neighborVersion established
    rw [String.toList_ofList, String.toList_ofList]
    decide
  have hstate : containsOf established (neighborState up).toList = up := by
    unfold established
    rw [toList_neighborState, String.toList_ofList, String.toList_ofList, String.toList_ofList,
      String.toList_ofList]
    cases up <;> decide
  have hempty : containsOf established [] = false := by
    unfold established
    rw [String.toList_ofList]
    decide
  have hlines : established <:+: (lines [neighborVersion, neighborState up]).toList ↔ up = true := by
    rw [← exists_infix_splitOn_iff line_feed_not_mem_established, splitOn_neighborLines]
    simp [← containsOf_iff_infix, hversion, hstate, hempty]
  rw [neighborBody, infix_append_cons_iff line_feed_not_mem_established, hlines,
    ← containsOf_iff_infix, hlink]
  simp

/-- The section of the page. -/
def neighborSection (peer : Ip) (up : Bool) : Match.Section where
  address := peer.chars
  body := neighborBody up
  address_ne_nil := (isWord_chars peer).ne_nil
  address_chars _ hc := isAddressChar_iff.1 (isAddressChar_of_mem hc)
  body_free := (headerFreeBehind_lines_iff line_feed_not_mem_neighborLink).2
    (headerFree_neighborLines up)

theorem toList_neighborHeader (peer : Ip) :
    s!"BGP neighbor is {peer}, remote AS 64512, local AS 64512, internal link".toList =
      header peer.chars ++ neighborLink.toList := by
  have hcomma : ", remote AS 64512, local AS 64512, internal link".toList =
      ',' :: neighborLink.toList := by
    unfold neighborLink
    rw [String.toList_ofList, String.toList_ofList]
  have hpeer : peer.text.toList = peer.chars := String.toList_ofList
  have htext : s!"BGP neighbor is {peer}, remote AS 64512, local AS 64512, internal link" =
      "BGP neighbor is " ++ peer.text ++ ", remote AS 64512, local AS 64512, internal link" := rfl
  rw [htext, String.toList_append, String.toList_append, hcomma, hpeer, List.append_assoc]
  exact (header_append _ _).symm

/-- The page, as the one section that it has. -/
def neighborText (peer : Ip) (up : Bool) : NeighborText where
  preamble := []
  sections := [neighborSection peer up]
  preamble_free := headerFree_nil
  preamble_ends _ := rfl
  bodies_end := bodiesEnd_nil.cons fun h => absurd rfl h

theorem text_neighborText (peer : Ip) (up : Bool) :
    (neighborText peer up).text = neighborPage peer up := by
  have hpage : neighborPage peer up =
      lines ([s!"BGP neighbor is {peer}, remote AS 64512, local AS 64512, internal link"] ++
        [neighborVersion, neighborState up]) := rfl
  rw [← String.toList_inj, hpage, lines_append, String.toList_append, toList_lines,
    List.flatMap_singleton, toList_neighborHeader, NeighborText.text, String.toList_ofList]
  simp [NeighborText.chars, neighborText, Section.chars, neighborSection, neighborBody]

/-- The page shows that the sessions are established, and for its own peer only. -/
theorem neighbor_neighborPage_iff {peer query : Ip} {up : Bool} :
    Match.neighbor query (neighborPage peer up) = true ↔ peer = query ∧ up = true := by
  have hparse : Ip.parse? (String.ofList peer.chars) = some peer := Ip.parse?_text peer
  rw [← text_neighborText, (neighborText peer up).neighbor_text_iff (List.cons_ne_nil _ _)]
  simp [neighborText, neighborSection, Section.IsAbout, hparse, established_infix_neighborBody_iff]

end RouteWatch.Simulation
