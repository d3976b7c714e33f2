import RouteWatch.NetworkName

/-!
# The keys and texts of networks

Keys and texts are read in one way: the reserved word is the default network, and any other text is
split at its first separator. No network is read from another text than its own, and it is read from
that one if and only if its parts can be told apart there.

* `read?_eq_user_iff`: what is read around a separator;
* `ofKey?_eq_some_iff`, `parse?_eq_some_iff`: the networks that are read, of keys and of texts;
* `round_trips`: all of it, and the networks that clusters define.
-/

namespace RouteWatch.NetworkName

/-! ## Two parts around a separator -/

/-- The network that a text names: the reserved word is the default one, and any other text is a
namespace and a name around its first separator, unless the two are refused. -/
def read? (sep : Char) (refused : String → String → Bool) (s : String) : Option NetworkName :=
  if s = "default" then some .default
  else
    match Text.splitOnce sep s with
    | some (space, name) => if refused space name then none else some (.user space name)
    | none => none

theorem ofKey?_eq (key : String) :
    ofKey? key = read? '_' (fun space name => space.isEmpty || name.isEmpty) key :=
  rfl

theorem parse?_eq (s : String) :
    parse? s = read? '/'
      (fun space name => space.isEmpty || name.isEmpty || name.toList.contains '/') s :=
  rfl

variable {sep : Char} {refused : String → String → Bool} {s key space name : String}
  {network : NetworkName}

theorem read?_eq_default_iff : read? sep refused s = some .default ↔ s = "default" := by
  by_cases hs : s = "default"
  · simp [read?, hs]
  · rw [read?, if_neg hs]
    cases Text.splitOnce sep s with
    | none => simp [hs]
    | some parts => simp [hs]

/-- The reserved word has no separator, so it is in the way of no other network. -/
theorem read?_eq_user_iff (hsep : sep ∉ "default".toList) :
    read? sep refused s = some (.user space name) ↔
      s.toList = space.toList ++ sep :: name.toList ∧ sep ∉ space.toList ∧
        refused space name = false := by
  by_cases hs : s = "default"
  · subst hs
    constructor
    · intro h
      rw [read?, if_pos rfl] at h
      cases h
    · rintro ⟨hsplit, -⟩
      rw [hsplit] at hsep
      simp at hsep
  · rw [read?, if_neg hs, ← and_assoc, ← Text.splitOnce_eq_some_iff]
    cases Text.splitOnce sep s with
    | none => simp
    | some parts =>
      constructor
      · intro h
        dsimp only at h
        split at h
        next => cases h
        next hparts =>
          cases h
          exact ⟨rfl, by simpa using hparts⟩
      · rintro ⟨h, hparts⟩
        cases h
        simp [hparts]

/-! ## Keys -/

theorem key_user_eq_iff :
    (user space name).key = key ↔ key.toList = space.toList ++ '_' :: name.toList := by
  have hchars : (user space name).key.toList = space.toList ++ '_' :: name.toList := by
    simp only [NetworkName.key, String.toList_append, List.append_assoc]
    rfl
  rw [← String.toList_inj, hchars, eq_comm]

/-- What comes after the first underscore is the name, so the namespace has none. -/
theorem ofKey?_eq_some_iff :
    ofKey? key = some network ↔ network.key = key ∧
      (network = .default ∨
        network.space ≠ "" ∧ '_' ∉ network.space.toList ∧ network.name ≠ "") := by
  rw [ofKey?_eq]
  cases network with
  | default =>
    rw [read?_eq_default_iff]
    exact ⟨fun h => ⟨h.symm, .inl rfl⟩, fun h => h.1.symm⟩
  | user space name =>
    rw [read?_eq_user_iff (by decide), key_user_eq_iff]
    simp [NetworkName.space, NetworkName.name, and_left_comm]

example : ofKey? (user "a_b" "c").key = some (user "a" "b_c") := by
  decide

/-- The key from which a network is read is the one that it has. -/
theorem key_of_ofKey? (h : ofKey? key = some network) : network.key = key :=
  (ofKey?_eq_some_iff.1 h).1

theorem ofKey?_inj {key' : String} (h : ofKey? key = some network)
    (h' : ofKey? key' = some network) : key = key' := by
  rw [← key_of_ofKey? h, ← key_of_ofKey? h']

/-! ## Texts -/

theorem text_user_eq_iff :
    (user space name).text = s ↔ s.toList = space.toList ++ '/' :: name.toList := by
  have hchars : (user space name).text.toList = space.toList ++ '/' :: name.toList := by
    simp only [text, String.toList_append, List.append_assoc]
    rfl
  rw [← String.toList_inj, hchars, eq_comm]

/-- A name with a slash is refused, so neither part has one. -/
theorem parse?_eq_some_iff :
    parse? s = some network ↔ network.text = s ∧
      (network = .default ∨
        (network.space ≠ "" ∧ '/' ∉ network.space.toList) ∧
          network.name ≠ "" ∧ '/' ∉ network.name.toList) := by
  rw [parse?_eq]
  cases network with
  | default =>
    rw [read?_eq_default_iff]
    exact ⟨fun h => ⟨h.symm, .inl rfl⟩, fun h => h.1.symm⟩
  | user space name =>
    rw [read?_eq_user_iff (by decide), text_user_eq_iff]
    simp [NetworkName.space, NetworkName.name, and_left_comm, and_assoc]

/-! ## Networks that clusters define -/

theorem underscore_mem_name_ofClusterWide (c : String) :
    '_' ∈ (ofClusterWide c).name.toList := by
  have hname : (ofClusterWide c).name = "udn_" ++ c := rfl
  simp [hname]

/-- The namespace has no underscore, so it does not matter that the name has one. -/
theorem ofKey?_key_ofClusterWide (c : String) :
    ofKey? (ofClusterWide c).key = some (ofClusterWide c) := by
  have hname := underscore_mem_name_ofClusterWide c
  refine ofKey?_eq_some_iff.2 ⟨rfl, .inr ⟨?_, ?_, ?_⟩⟩
  · simp [ofClusterWide, NetworkName.space]
  · simp [ofClusterWide, NetworkName.space]
  · rintro hempty
    simp [hempty] at hname

/-- A network is read from its own key only, so different keys are those of different networks. The
key is read back if and only if it is that of the default network, or of one with a name and with a
namespace without underscores. The same holds of texts, where neither part may have a slash. The key
of a network that the cluster defines is read back, though there are underscores in its name. -/
theorem round_trips :
    (∀ key network, ofKey? key = some network → network.key = key) ∧
    (∀ network, ofKey? network.key = some network ↔
      network = .default ∨
        network.space ≠ "" ∧ '_' ∉ network.space.toList ∧ network.name ≠ "") ∧
    (∀ s network, parse? s = some network → network.text = s) ∧
    (∀ network, parse? network.text = some network ↔
      network = .default ∨
        (network.space ≠ "" ∧ '/' ∉ network.space.toList) ∧
          network.name ≠ "" ∧ '/' ∉ network.name.toList) ∧
    (∀ key key' network network', ofKey? key = some network → ofKey? key' = some network' →
      key ≠ key' → network ≠ network') ∧
    ∀ c, '_' ∈ (ofClusterWide c).name.toList ∧
      ofKey? (ofClusterWide c).key = some (ofClusterWide c) := by
  refine ⟨fun _ _ => key_of_ofKey?, fun network => ?_, fun s network h => ?_, fun network => ?_,
    ?_, fun c => ⟨underscore_mem_name_ofClusterWide c, ofKey?_key_ofClusterWide c⟩⟩
  · rw [ofKey?_eq_some_iff, eq_self, true_and]
  · exact (parse?_eq_some_iff.1 h).1
  · rw [parse?_eq_some_iff, eq_self, true_and]
  · rintro key key' network network' h h' hne rfl
    exact hne (ofKey?_inj h h')

end RouteWatch.NetworkName
