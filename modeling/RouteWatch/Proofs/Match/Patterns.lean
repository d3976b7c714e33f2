import RouteWatch.Proofs.Match.Headers

/-!
# The patterns of the matchers

What the matchers look for is a regular expression: characters, classes of characters, and places
such as the start of a line, one after the other. `Pattern.Matches` says which pieces of a text match
such a pattern. The matchers go through a text from left to right instead, and find the same:

* `Pattern.foundIn_iff`: a pattern is looked for from left to right;
* `route_iff_foundIn`: the routes of both tables;
* `mentions_iff_foundIn`, `matches_sectionHeader_iff`: the addresses of neighbors.
-/

namespace RouteWatch.Match

open Text

/-- What a piece of text can look like. -/
inductive Pattern where
  | literal (cs : List Char)
  /-- One character that passes the test. -/
  | one (test : Char → Bool)
  /-- Any number of characters that pass the test. -/
  | many (test : Char → Bool)
  /-- Nothing, at a place that passes the test. It is seen as the character before it and the text
  behind it. -/
  | place (test : Option Char → List Char → Bool)
  | seq (p q : Pattern)
  | alt (p q : Pattern)

namespace Pattern

/-- The piece of text matches the pattern where the character stands before it and the rest of the
text behind it. -/
def Matches : Pattern → Option Char → List Char → List Char → Prop
  | literal cs, _, piece, _ => piece = cs
  | one test, _, piece, _ => ∃ c, test c = true ∧ piece = [c]
  | many test, _, piece, _ => ∀ c ∈ piece, test c = true
  | place test, prev, piece, rest => piece = [] ∧ test prev rest = true
  | seq p q, prev, piece, rest =>
    ∃ a b, piece = a ++ b ∧ p.Matches prev a (b ++ rest) ∧ q.Matches (lastOr prev a) b rest
  | alt p q, prev, piece, rest => p.Matches prev piece rest ∨ q.Matches prev piece rest

/-- Some piece of the text matches the pattern. -/
def FoundIn (p : Pattern) (text : List Char) : Prop :=
  ∃ before piece rest, text = before ++ (piece ++ rest) ∧ p.Matches before.getLast? piece rest

/-! ## The parts of the patterns -/

/-- The patterns one after the other. -/
def inTurn (ps : List Pattern) : Pattern :=
  ps.foldr seq (literal [])

def lineStart : Pattern :=
  place fun prev _ => startsLine prev

def lineEnd : Pattern :=
  place fun _ rest => endsLine rest

def textStart : Pattern :=
  place fun prev _ => prev.isNone

def textEnd : Pattern :=
  place fun _ rest => rest.isEmpty

/-- A word character on one side, and none on the other. -/
def wordBoundary : Pattern :=
  place fun prev rest => prev.any isWordChar != rest.head?.any isWordChar

def blank : Pattern :=
  one isBlank

def noAddressChar : Pattern :=
  one fun c => !isAddressChar c

def untilLineEnd : Pattern :=
  many (· != '\n')

/-- One character that passes the test, and more of them. -/
def oneOrMore (test : Char → Bool) : Pattern :=
  seq (one test) (many test)

def optional (p : Pattern) : Pattern :=
  alt p (literal [])

/-- The network. The length of the network of one address may be left out. -/
def network (subnet : Subnet) : Pattern :=
  let net := subnet.trunc
  if net.isHost then
    seq (literal net.addr.chars) (optional (literal ('/' :: decimal net.length)))
  else literal net.chars

/-- The route in one of the tables. -/
def route (subnet : Subnet) (nextHop : Ip) : View → Pattern
  | .bgp => inTurn [alt lineStart noAddressChar, network subnet, oneOrMore isBlank,
      literal nextHop.chars, alt blank lineEnd]
  | .kernel => inTurn [lineStart, network subnet, blank, untilLineEnd,
      wordBoundary, literal ("via ".toList ++ nextHop.chars), blank, untilLineEnd,
      wordBoundary, literal "proto bgp".toList, wordBoundary]

/-- The address of the peer, where no other characters of addresses stand around it. -/
def mention (peer : Ip) : Pattern :=
  inTurn [alt textStart noAddressChar, literal peer.chars, alt noAddressChar textEnd]

/-- The header of a section. What stands before the comma is the address. -/
def sectionHeader : Pattern :=
  inTurn [lineStart, literal headerLead, oneOrMore isAddressChar, literal [',']]

/-! ## From left to right -/

/-- A piece at the start of the text matches the pattern, and what is behind it passes the test. -/
def AndThen (p : Pattern) (k : Option Char → List Char → Prop) (prev : Option Char)
    (text : List Char) : Prop :=
  ∃ piece rest, text = piece ++ rest ∧ p.Matches prev piece rest ∧ k (lastOr prev piece) rest

variable {p q : Pattern} {ps : List Pattern} {k : Option Char → List Char → Prop}
  {prev : Option Char} {text : List Char}

theorem foundIn_iff :
    p.FoundIn text ↔ ∃ before rest, text = before ++ rest ∧
      p.AndThen (fun _ _ => True) (lastOr none before) rest := by
  simp only [FoundIn, AndThen, lastOr, Option.or_none, and_true]
  constructor
  · rintro ⟨before, piece, rest, rfl, h⟩
    exact ⟨before, _, rfl, piece, rest, rfl, h⟩
  · rintro ⟨before, _, rfl, piece, rest, rfl, h⟩
    exact ⟨before, piece, rest, rfl, h⟩

theorem andThen_literal {cs : List Char} : (literal cs).AndThen k prev text ↔
    ∃ rest, text = cs ++ rest ∧ k (lastOr prev cs) rest := by
  simp only [AndThen, Matches]
  constructor
  · rintro ⟨_, rest, rfl, rfl, h⟩
    exact ⟨rest, rfl, h⟩
  · rintro ⟨rest, rfl, h⟩
    exact ⟨cs, rest, rfl, rfl, h⟩

theorem andThen_one {test : Char → Bool} : (one test).AndThen k prev text ↔
    ∃ c rest, text = c :: rest ∧ test c = true ∧ k (some c) rest := by
  simp only [AndThen, Matches]
  constructor
  · rintro ⟨_, rest, rfl, ⟨c, hc, rfl⟩, h⟩
    exact ⟨c, rest, rfl, hc, h⟩
  · rintro ⟨c, rest, rfl, hc, h⟩
    exact ⟨[c], rest, rfl, ⟨c, hc, rfl⟩, h⟩

theorem andThen_place {test : Option Char → List Char → Bool} :
    (place test).AndThen k prev text ↔ test prev text = true ∧ k prev text := by
  simp only [AndThen, Matches]
  constructor
  · rintro ⟨_, rest, rfl, ⟨rfl, htest⟩, h⟩
    exact ⟨htest, h⟩
  · rintro ⟨htest, h⟩
    exact ⟨[], text, rfl, ⟨rfl, htest⟩, h⟩

theorem andThen_seq : (seq p q).AndThen k prev text ↔ p.AndThen (q.AndThen k) prev text := by
  have hlast : ∀ a b, lastOr prev (a ++ b) = lastOr (lastOr prev a) b := by
    intro a b
    rw [lastOr, lastOr, lastOr, List.getLast?_append, Option.or_assoc]
  simp only [AndThen, Matches]
  constructor
  · rintro ⟨_, rest, rfl, ⟨a, b, rfl, ha, hb⟩, h⟩
    exact ⟨a, b ++ rest, List.append_assoc a b rest, ha, b, rest, rfl, hb, hlast a b ▸ h⟩
  · rintro ⟨a, _, rfl, ha, b, rest, rfl, hb, h⟩
    exact ⟨a ++ b, rest, (List.append_assoc a b rest).symm, ⟨a, b, rfl, ha, hb⟩,
      (hlast a b).symm ▸ h⟩

theorem andThen_alt : (alt p q).AndThen k prev text ↔
    p.AndThen k prev text ∨ q.AndThen k prev text := by
  simp only [AndThen, Matches]
  constructor
  · rintro ⟨piece, rest, rfl, hp | hq, h⟩
    · exact .inl ⟨piece, rest, rfl, hp, h⟩
    · exact .inr ⟨piece, rest, rfl, hq, h⟩
  · rintro (⟨piece, rest, rfl, hp, h⟩ | ⟨piece, rest, rfl, hq, h⟩)
    · exact ⟨piece, rest, rfl, .inl hp, h⟩
    · exact ⟨piece, rest, rfl, .inr hq, h⟩

theorem andThen_inTurn_nil : (inTurn []).AndThen k = k := by
  ext prev text
  rw [inTurn, List.foldr_nil, andThen_literal]
  simp

theorem andThen_inTurn_cons :
    (inTurn (p :: ps)).AndThen k prev text ↔ p.AndThen ((inTurn ps).AndThen k) prev text :=
  andThen_seq

/-! ## The parts of the patterns, from left to right -/

variable {subnet : Subnet} {nextHop : Ip} {piece rest : List Char} {test : List Char → Bool}

theorem matches_network : (network subnet).Matches prev piece rest ↔ piece ∈ spellings subnet := by
  rw [mem_spellings_iff, Subnet.chars_eq, ← isHost_trunc, network]
  split
  case isTrue hhost =>
    simp only [Matches, optional, hhost, true_and]
    constructor
    · rintro ⟨_, _, rfl, rfl, rfl | rfl⟩
      · exact .inl rfl
      · exact .inr (List.append_nil _)
    · rintro (rfl | rfl)
      · exact ⟨_, _, rfl, rfl, .inl rfl⟩
      · exact ⟨_, [], (List.append_nil _).symm, rfl, .inr rfl⟩
  case isFalse hhost =>
    simp [Matches, Subnet.chars_eq, hhost]

theorem matches_oneOrMore {test : Char → Bool} : (oneOrMore test).Matches prev piece rest ↔
    piece ≠ [] ∧ ∀ c ∈ piece, test c = true := by
  simp only [oneOrMore, Matches]
  constructor
  · rintro ⟨_, more, rfl, ⟨c, hc, rfl⟩, hmore⟩
    exact ⟨List.cons_ne_nil c more, List.forall_mem_cons.2 ⟨hc, hmore⟩⟩
  · rintro ⟨hne, hpiece⟩
    obtain ⟨c, more, rfl⟩ := List.exists_cons_of_ne_nil hne
    obtain ⟨hc, hmore⟩ := List.forall_mem_cons.1 hpiece
    exact ⟨[c], more, rfl, ⟨c, hc, rfl⟩, hmore⟩

theorem andThen_network
    (hps : ∀ prev rest, (inTurn ps).AndThen k prev rest ↔ test rest = true) :
    (inTurn (network subnet :: ps)).AndThen k prev text ↔
      startsWithNetwork subnet test text = true := by
  rw [andThen_inTurn_cons, AndThen, startsWithNetwork_iff]
  simp only [matches_network, hps]
  constructor
  · rintro ⟨spelling, rest, rfl, hmem, h⟩
    exact ⟨spelling, hmem, rest, rfl, h⟩
  · rintro ⟨spelling, hmem, rest, rfl, h⟩
    exact ⟨spelling, rest, rfl, hmem, h⟩

/-- A pattern is found behind a character of no address, or at the start, if no address goes on
where it begins. -/
theorem foundIn_lead_iff {start : Option Char → List Char → Bool}
    (hnone : ∀ rest, start none rest = true)
    (hstart : ∀ c rest, start (some c) rest = true → isAddressChar c = false)
    (hps : ∀ prev rest, (inTurn ps).AndThen (fun _ _ => True) prev rest ↔ test rest = true) :
    (inTurn (alt (place start) noAddressChar :: ps)).FoundIn text ↔
      anywhere (fun prev rest => startsAddress prev && test rest) none text = true := by
  simp only [foundIn_iff, andThen_inTurn_cons, andThen_alt, andThen_place, noAddressChar,
    andThen_one, hps, anywhere_iff, Bool.and_eq_true]
  constructor
  · rintro ⟨before, rest, rfl, ⟨hplace, htest⟩ | ⟨c, rest, rfl, hc, htest⟩⟩
    · refine ⟨before, rest, rfl, ?_, htest⟩
      cases hlast : lastOr none before with
      | none => rfl
      | some c =>
        rw [hlast] at hplace
        simp [startsAddress, hstart c rest hplace]
    · refine ⟨before ++ [c], rest, by simp, ?_, htest⟩
      simpa [lastOr, startsAddress] using hc
  · rintro ⟨before, rest, rfl, hlast, htest⟩
    rcases List.eq_nil_or_concat before with rfl | ⟨before, c, rfl⟩
    · exact ⟨[], rest, rfl, .inl ⟨hnone rest, htest⟩⟩
    · refine ⟨before, c :: rest, by simp, .inr ⟨c, rest, rfl, ?_, htest⟩⟩
      simpa [lastOr, startsAddress] using hlast

theorem andThen_columnEnd :
    (alt blank lineEnd).AndThen (fun _ _ => True) prev text ↔ endsColumn text = true := by
  rw [andThen_alt, blank, andThen_one, lineEnd, andThen_place, endsColumn]
  cases text with
  | nil => simp [endsLine]
  | cons c rest =>
    have hblank : c = '\n' → isBlank c = true := by
      rintro rfl
      decide
    simpa [endsLine] using hblank

theorem andThen_nextColumn :
    (inTurn [oneOrMore isBlank, literal nextHop.chars, alt blank lineEnd]).AndThen
        (fun _ _ => True) prev text ↔ nextColumnIs nextHop text = true := by
  rw [andThen_inTurn_cons, AndThen]
  simp only [matches_oneOrMore, andThen_inTurn_cons, andThen_inTurn_nil, andThen_literal,
    andThen_columnEnd, nextColumnIs, Bool.and_eq_true, Option.any_eq_true, after?_eq_some_iff]
  constructor
  · rintro ⟨blanks, _, rfl, ⟨hne, hblanks⟩, rest, rfl, hrest⟩
    obtain ⟨c, more, rfl⟩ := List.exists_cons_of_ne_nil hne
    refine ⟨⟨c, rfl, hblanks c List.mem_cons_self⟩, rest, ?_, hrest⟩
    rw [List.dropWhile_append_of_pos hblanks, (isWord_chars nextHop).dropWhile]
  · rintro ⟨⟨c, hhead, hc⟩, rest, hdrop, hrest⟩
    obtain ⟨text, rfl⟩ := List.head?_eq_some_iff.1 hhead
    refine ⟨_, _, List.takeWhile_append_dropWhile.symm, ⟨?_, List.all_eq_true.1 List.all_takeWhile⟩,
      rest, hdrop, hrest⟩
    rw [List.takeWhile_cons_of_pos hc]
    exact List.cons_ne_nil _ _

/-- Behind a word boundary, a word is there from its start on. -/
theorem andThen_wordStart {c : Char} {cs : List Char} (hc : isWordChar c = true) :
    (inTurn (wordBoundary :: literal (c :: cs) :: ps)).AndThen k prev text ↔
      startsWord prev = true ∧ ∃ rest, text = c :: cs ++ rest ∧
        (inTurn ps).AndThen k (lastOr (some c) cs) rest := by
  -- A word character comes here, so the place is a boundary if none stands before it.
  have hboundary : ∀ rest, (prev.any isWordChar != (c :: rest).head?.any isWordChar) =
      startsWord prev := by
    intro rest
    cases prev <;> simp [startsWord, hc]
  simp only [andThen_inTurn_cons, wordBoundary, andThen_place, andThen_literal, lastOr_cons]
  constructor
  · rintro ⟨hprev, rest, rfl, h⟩
    exact ⟨hboundary _ ▸ hprev, rest, rfl, h⟩
  · rintro ⟨hprev, rest, rfl, h⟩
    exact ⟨(hboundary _).trans hprev, rest, rfl, h⟩

theorem andThen_wordEnd {c : Char} (hc : isWordChar c = true) :
    wordBoundary.AndThen k (some c) text ↔ endsWord text = true ∧ k (some c) text := by
  rw [wordBoundary, andThen_place]
  cases text <;> simp [hc, endsWord]

theorem andThen_blankThen {test : Option Char → List Char → Bool}
    (hps : ∀ prev rest, (inTurn ps).AndThen k prev rest ↔ test prev rest = true) :
    (inTurn (blank :: untilLineEnd :: ps)).AndThen k prev text ↔ blankThen test text = true := by
  have hline : ∀ prev rest, untilLineEnd.AndThen ((inTurn ps).AndThen k) prev rest ↔
      alongLine test prev rest = true := by
    intro prev rest
    simp only [AndThen, untilLineEnd, Matches, alongLine, someplace_iff, ← hps]
  simp only [andThen_inTurn_cons, blank, andThen_one, hline]
  cases text with
  | nil => simp [blankThen]
  | cons c rest =>
    rw [blankThen, Bool.and_eq_true]
    constructor
    · rintro ⟨_, _, ⟨⟩, h⟩
      exact h
    · exact fun h => ⟨c, rest, rfl, h⟩

theorem andThen_protocolIsBgp :
    (inTurn [wordBoundary, literal "proto bgp".toList, wordBoundary]).AndThen
        (fun _ _ => True) prev text ↔ protocolIsBgp prev text = true := by
  have hword : "proto bgp".toList = 'p' :: "roto bgp".toList := rfl
  have hlast : lastOr (some 'p') "roto bgp".toList = some 'p' := rfl
  have hp : isWordChar 'p' = true := by decide
  simp only [hword, andThen_wordStart hp, hlast, andThen_inTurn_cons, andThen_inTurn_nil,
    andThen_wordEnd hp, and_true, protocolIsBgp, Bool.and_eq_true, Option.any_eq_true,
    after?_eq_some_iff]

theorem andThen_viaNextHop :
    (inTurn [wordBoundary, literal ("via ".toList ++ nextHop.chars), blank, untilLineEnd,
        wordBoundary, literal "proto bgp".toList, wordBoundary]).AndThen
        (fun _ _ => True) prev text ↔ viaNextHop nextHop prev text = true := by
  have hword : "via ".toList ++ nextHop.chars = 'v' :: ("ia ".toList ++ nextHop.chars) := rfl
  have hv : isWordChar 'v' = true := by decide
  simp only [hword, andThen_wordStart hv, andThen_blankThen fun _ _ => andThen_protocolIsBgp,
    viaNextHop, Bool.and_eq_true, Option.any_eq_true, after?_eq_some_iff]

end Pattern

/-! ## The matchers -/

variable {view : View} {subnet : Subnet} {nextHop peer : Ip}

/-- A route is in a table if its pattern is found there. -/
theorem route_iff_foundIn {table : String} : route view subnet nextHop table = true ↔
    (Pattern.route subnet nextHop view).FoundIn table.toList := by
  symm
  cases view with
  | bgp =>
    refine Pattern.foundIn_lead_iff (fun _ => rfl) (fun c _ hc => ?_) fun _ _ => ?_
    · obtain rfl : c = '\n' := by simpa [startsLine] using hc
      rfl
    · exact Pattern.andThen_network fun _ _ => Pattern.andThen_nextColumn
  | kernel =>
    have hroute : ∀ prev rest, (Pattern.route subnet nextHop .kernel).AndThen (fun _ _ => True)
          prev rest ↔
        (startsLine prev && startsWithNetwork subnet (blankThen (viaNextHop nextHop)) rest) =
          true := by
      intro prev rest
      rw [Pattern.route, Pattern.andThen_inTurn_cons, Pattern.lineStart, Pattern.andThen_place,
        Pattern.andThen_network fun _ _ => Pattern.andThen_blankThen fun _ _ =>
          Pattern.andThen_viaNextHop, Bool.and_eq_true]
    simp only [Pattern.foundIn_iff, hroute, route, kernelTable, anywhere_iff]

/-- An address is mentioned in a text if its pattern is found there. -/
theorem mentions_iff_foundIn {text : List Char} : mentions peer text = true ↔
    (Pattern.mention peer).FoundIn text := by
  symm
  refine Pattern.foundIn_lead_iff (fun _ => rfl) (fun _ _ hc => ?_) fun _ rest => ?_
  · cases hc
  · rw [Pattern.andThen_inTurn_cons, Pattern.andThen_literal, Option.any_eq_true]
    simp only [after?_eq_some_iff]
    refine exists_congr fun rest => and_congr_right fun _ => ?_
    rw [Pattern.andThen_inTurn_cons, Pattern.andThen_inTurn_nil, Pattern.andThen_alt,
      Pattern.noAddressChar, Pattern.andThen_one, Pattern.textEnd, Pattern.andThen_place]
    cases rest <;> simp

/-- The pattern of a header matches the headers at the start of a line, each with its address. -/
theorem matches_sectionHeader_iff {prev : Option Char} {piece rest : List Char} :
    Pattern.sectionHeader.Matches prev piece rest ↔ startsLine prev = true ∧
      ∃ address, piece = header address ∧ headerAddress? (piece ++ rest) = some address := by
  simp only [headerAddress?_eq_some_iff, Pattern.sectionHeader, Pattern.inTurn, List.foldr,
    Pattern.lineStart, Pattern.Matches, Pattern.matches_oneOrMore]
  constructor
  · rintro ⟨_, _, rfl, ⟨rfl, hstart⟩, _, _, rfl, rfl, address, _, rfl, ⟨hne, haddress⟩, _, _, rfl,
      rfl, rfl⟩
    exact ⟨hstart, address, rfl, hne, fun c hc => isAddressChar_iff.1 (haddress c hc),
      List.prefix_append _ _⟩
  · rintro ⟨hstart, address, rfl, hne, haddress, -⟩
    exact ⟨[], _, rfl, ⟨rfl, hstart⟩, headerLead, _, rfl, rfl, address, [','], rfl,
      ⟨hne, fun c hc => isAddressChar_iff.2 (haddress c hc)⟩, [','], [], rfl, rfl, rfl⟩

end RouteWatch.Match
