import RouteWatch.Proofs.Ip.Networks
import RouteWatch.Proofs.Match.Addresses
import RouteWatch.Router.Document

/-!
# Reading the configuration of a router

The configuration is read as the daemon reads it: line by line, and each line by its words. A name
without blanks is one word, so what is written in front of it and behind it stays what it is.

* `ofWords?_words`: what the words of a statement say;
* `Statement.ofText?_lines`: the statements of a configuration.
-/

namespace RouteWatch

open Text

/-- The number of a system with this text. -/
def Asn.parse? (s : String) : Option Asn :=
  (Ip.whole? (Ip.number? 10 10 4294967296 false) s).map UInt32.ofNat

theorem Asn.toList_toString (asn : Asn) : (toString asn).toList = decimal asn.toNat := by
  simp [toString, decimal]

theorem Asn.parse?_toString (asn : Asn) : Asn.parse? (toString asn) = some asn := by
  have hread : Ip.number? 10 10 4294967296 false (decimal asn.toNat ++ []) = some (asn.toNat, []) :=
    Ip.number?_decimal ((Nat.length_toDigits_le_iff (by decide) (by decide)).2
      (Nat.lt_trans asn.toNat_lt (by decide))) asn.toNat_lt false (Ip.stops_nil 10)
  rw [List.append_nil] at hread
  rw [Asn.parse?, Ip.whole?, toList_toString, hread]
  simp

namespace Statement

/-- What the words of a line say. A mark alone separates statements where it is indented, and routing
instances where it is not. -/
def ofWords? (indented : Bool) : List String → Option Statement
  | ["router", "bgp", asn] => (Asn.parse? asn).map (router · none)
  | ["router", "bgp", asn, "vrf", vrf] => (Asn.parse? asn).map (router · (some vrf))
  | ["bgp", "router-id", id] => (Ipv4.parse? id).map routerId
  | ["no", "bgp", "default", "ipv4-unicast"] => some (noDefault .v4)
  | ["no", "bgp", "default", "ipv6-unicast"] => some (noDefault .v6)
  | ["no", "bgp", "network", "import-check"] => some noImportCheck
  | ["neighbor", peer, "remote-as", asn] => do return remoteAs (← Ip.parse? peer) (← Asn.parse? asn)
  | ["neighbor", peer, "route-reflector-client"] => (Ip.parse? peer).map reflectorClient
  | ["neighbor", peer, "activate"] => (Ip.parse? peer).map activate
  | ["neighbor", peer, "next-hop-self"] => (Ip.parse? peer).map nextHopSelf
  | ["address-family", "ipv4", "unicast"] => some (addressFamily .v4)
  | ["address-family", "ipv6", "unicast"] => some (addressFamily .v6)
  | ["network", net] => (Subnet.parse? net).map network
  | ["exit-address-family"] => some endFamily
  | ["exit"] => some endRouter
  | ["!"] => some (if indented then separator else endMark)
  | _ => none

/-- What a line says. -/
def ofLine? (line : List Char) : Option Statement :=
  ofWords? (line.head? == some ' ') ((wordsOf line).map String.ofList)

/-- The statements of a configuration, if every line is one. -/
def ofText? (text : String) : Option (List Statement) :=
  (linesOf text.toList).mapM ofLine?

/-! ## The words of a statement -/

/-- The words of the line. -/
def words : Statement → List String
  | router asn none => ["router", "bgp", toString asn]
  | router asn (some vrf) => ["router", "bgp", toString asn, "vrf", vrf]
  | routerId id => ["bgp", "router-id", id.text]
  | noDefault family => ["no", "bgp", "default", family.name ++ "-unicast"]
  | noImportCheck => ["no", "bgp", "network", "import-check"]
  | remoteAs peer asn => ["neighbor", peer.text, "remote-as", toString asn]
  | separator | endMark => ["!"]
  | addressFamily family => ["address-family", family.name, "unicast"]
  | network net => ["network", net.text]
  | reflectorClient peer => ["neighbor", peer.text, "route-reflector-client"]
  | activate peer => ["neighbor", peer.text, "activate"]
  | nextHopSelf peer => ["neighbor", peer.text, "next-hop-self"]
  | endFamily => ["exit-address-family"]
  | endRouter => ["exit"]

/-- The blanks before the words. -/
def indent : Statement → List Char
  | router .. | endRouter | endMark => []
  | network _ | reflectorClient _ | activate _ | nextHopSelf _ => [' ', ' ']
  | _ => [' ']

/-- The words of the line can be told apart: a VRF is named by one word. -/
def IsPlain : Statement → Prop
  | router _ (some vrf) => IsWord vrf.toList
  | _ => True

variable {s : Statement}

theorem toList_text (s : Statement) :
    s.text.toList = s.indent ++ [' '].intercalate (s.words.map String.toList) := by
  rcases s with ⟨asn, _ | vrf⟩ | id | _ | _ | _ | _ | _ | _ | _ | _ | _ | _ | _ | _
  all_goals unfold text
  all_goals simp [indent, words, List.intercalate, toString]

theorem isWord_of_mem_words (h : s.IsPlain) : ∀ w ∈ s.words.map String.toList, IsWord w := by
  have hpeer (peer : Ip) : IsWord peer.text.toList := by
    simpa [Ip.text] using Match.isWord_chars peer
  have hid (id : Ipv4) : IsWord id.text.toList := hpeer (.v4 id)
  have hnet (net : Subnet) : IsWord net.text.toList := by
    simpa [Subnet.text] using net.isWord_chars
  have hasn (asn : Asn) : IsWord (toString asn).toList := by
    rw [Asn.toList_toString]
    exact Match.isWord_decimal asn.toNat
  rcases s with ⟨asn, _ | vrf⟩ | id | (_ | _) | _ | _ | _ | (_ | _) | _ | _ | _ | _ | _ | _
  case router.some =>
    have hvrf : IsWord vrf.toList := h
    simp +decide [words, hasn, hvrf]
  all_goals simp +decide [words, hpeer, hid, hnet, hasn]

theorem wordsOf_text (h : s.IsPlain) : wordsOf s.text.toList = s.words.map String.toList := by
  have hindent : wordsOf s.indent = [] ∧ BlankBehind s.indent := by
    rcases s with ⟨asn, _ | vrf⟩ | id | _ | _ | _ | _ | _ | _ | _ | _ | _ | _ | _
    all_goals exact ⟨rfl, rfl⟩
  rw [toList_text, wordsOf_append hindent.2, hindent.1, List.nil_append,
    wordsOf_intercalate rfl (isWord_of_mem_words h)]

/-! ## What the words say -/

theorem ofWords?_words (s : Statement) : ofWords? (!s.indent.isEmpty) s.words = some s := by
  cases s with
  | router asn vrf =>
    cases vrf with
    | none => exact congrArg (·.map (router · none)) asn.parse?_toString
    | some vrf => exact congrArg (·.map (router · (some vrf))) asn.parse?_toString
  | routerId id => exact congrArg (·.map routerId) id.parse?_text
  | remoteAs peer asn =>
    change (do return remoteAs (← Ip.parse? peer.text) (← Asn.parse? (toString asn))) = _
    rw [Ip.parse?_text, Asn.parse?_toString]
    rfl
  | network net => exact congrArg (·.map network) net.parse?_text
  | reflectorClient peer => exact congrArg (·.map reflectorClient) peer.parse?_text
  | activate peer => exact congrArg (·.map activate) peer.parse?_text
  | nextHopSelf peer => exact congrArg (·.map nextHopSelf) peer.parse?_text
  | noDefault family | addressFamily family => cases family <;> rfl
  | noImportCheck | separator | endFamily | endRouter | endMark => rfl

theorem ofLine?_text (h : s.IsPlain) : ofLine? s.text.toList = some s := by
  have hhead : (s.text.toList.head? == some ' ') = !s.indent.isEmpty := by
    rw [toList_text]
    rcases s with ⟨asn, _ | vrf⟩ | id | (_ | _) | _ | _ | _ | (_ | _) | _ | _ | _ | _ | _ | _
    all_goals rfl
  rw [ofLine?, hhead, wordsOf_text h, List.map_map]
  simpa using ofWords?_words s

theorem line_feed_not_mem_text (h : s.IsPlain) : '\n' ∉ s.text.toList := by
  have hindent : '\n' ∉ s.indent := by
    rcases s with ⟨asn, _ | vrf⟩ | id | _ | _ | _ | _ | _ | _ | _ | _ | _ | _ | _
    all_goals simp [indent]
  have hwords : ∀ w ∈ s.words.map String.toList, '\n' ∉ w := by
    intro w hw hmem
    have hblank := (isWord_of_mem_words h w hw).not_blank _ hmem
    revert hblank
    decide
  rw [toList_text, List.mem_append, not_or]
  exact ⟨hindent, not_mem_intercalate (by decide) hwords⟩

/-! ## Configurations -/

theorem toList_lines (doc : List Statement) :
    (lines doc).toList = (doc.map (·.text.toList)).flatMap (· ++ ['\n']) := by
  simp [lines, String.toList_join, List.flatMap_map, String.toList_append]

/-- Every line of a configuration is read as what it says. -/
theorem ofText?_lines {doc : List Statement} (h : ∀ s ∈ doc, s.IsPlain) :
    ofText? (lines doc) = some doc := by
  have hlines : ∀ l ∈ doc.map (·.text.toList), '\n' ∉ l :=
    List.forall_mem_map.2 fun s hs => line_feed_not_mem_text (h s hs)
  rw [ofText?, toList_lines, linesOf_flatMap_concat hlines, List.mapM_map]
  induction doc with
  | nil => rfl
  | cons s doc ih =>
    obtain ⟨hs, hdoc⟩ := List.forall_mem_cons.1 h
    have hrest := ih hdoc (List.forall_mem_map.2 fun s hs => line_feed_not_mem_text (hdoc s hs))
    simp [List.mapM_cons, ofLine?_text hs, hrest]

/-- A line says one thing only. -/
theorem text_inj {t : Statement} (hs : s.IsPlain) (ht : t.IsPlain) : s.text = t.text ↔ s = t := by
  constructor
  · intro htext
    have hread := ofLine?_text hs
    rw [htext, ofLine?_text ht] at hread
    exact (Option.some.inj hread).symm
  · exact congrArg text

end Statement

end RouteWatch
