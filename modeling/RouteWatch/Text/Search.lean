/-!
# Looking for text within text
-/

namespace RouteWatch.Text

/-- What follows the piece at the start of the text, if the text starts with it. -/
def after? : List Char → List Char → Option (List Char)
  | [], text => some text
  | _ :: _, [] => none
  | p :: piece, c :: text => if p = c then after? piece text else none

theorem after?_eq_some_iff {piece text rest : List Char} :
    after? piece text = some rest ↔ text = piece ++ rest := by
  fun_induction after? piece text with
  | case1 text => simp [eq_comm]
  | case2 => simp
  | case3 p piece text ih => simp [ih]
  | case4 p piece c text h => simp [Ne.symm h]

/-- The text contains the piece. -/
def containsOf (piece : List Char) : List Char → Bool
  | [] => piece.isEmpty
  | c :: rest => (after? piece (c :: rest)).isSome || containsOf piece rest

theorem containsOf_iff {piece text : List Char} :
    containsOf piece text = true ↔ ∃ before rest, text = before ++ piece ++ rest := by
  induction text with
  | nil => simp [containsOf, List.isEmpty_iff]
  | cons c text ih =>
    simp only [containsOf, Bool.or_eq_true, Option.isSome_iff_exists, after?_eq_some_iff, ih]
    constructor
    · rintro (⟨rest, h⟩ | ⟨before, rest, rfl⟩)
      · exact ⟨[], rest, by simpa using h⟩
      · exact ⟨c :: before, rest, by simp⟩
    · rintro ⟨before, rest, h⟩
      cases before with
      | nil => exact .inl ⟨rest, by simpa using h⟩
      | cons b before =>
        simp only [List.cons_append, List.cons.injEq] at h
        exact .inr ⟨before, rest, h.2⟩

def contains (text piece : String) : Bool :=
  containsOf piece.toList text.toList

/-- The text before and after the first separator, if there is one. -/
def splitOnceOf (sep : Char) : List Char → Option (List Char × List Char)
  | [] => none
  | c :: rest =>
    if c = sep then some ([], rest) else (splitOnceOf sep rest).map fun p => (c :: p.1, p.2)

theorem splitOnceOf_eq_some_iff {sep : Char} {cs before rest : List Char} :
    splitOnceOf sep cs = some (before, rest) ↔ cs = before ++ sep :: rest ∧ sep ∉ before := by
  induction cs generalizing before with
  | nil => simp [splitOnceOf]
  | cons c cs ih =>
    by_cases h : c = sep
    · subst h
      cases before with
      | nil => simp [splitOnceOf]
      | cons b before =>
        simp only [splitOnceOf, if_true, Option.some.injEq, Prod.mk.injEq, List.cons_append,
          List.cons.injEq, List.mem_cons, not_or]
        constructor
        · rintro ⟨h', _⟩
          cases h'
        · rintro ⟨⟨rfl, _⟩, h', _⟩
          exact absurd rfl h'
    · cases before with
      | nil => simp [splitOnceOf, h]
      | cons b before =>
        simp only [splitOnceOf, h, if_false, Option.map_eq_some_iff, Prod.exists, Prod.mk.injEq,
          List.cons.injEq, List.cons_append, List.mem_cons, not_or]
        constructor
        · rintro ⟨a, b', hs, ⟨rfl, rfl⟩, rfl⟩
          obtain ⟨rfl, hm⟩ := ih.1 hs
          exact ⟨⟨rfl, rfl⟩, Ne.symm h, hm⟩
        · rintro ⟨⟨rfl, rfl⟩, _, hm⟩
          exact ⟨before, rest, ih.2 ⟨rfl, hm⟩, ⟨rfl, rfl⟩, rfl⟩

def splitOnce (sep : Char) (s : String) : Option (String × String) :=
  (splitOnceOf sep s.toList).map fun p => (String.ofList p.1, String.ofList p.2)

theorem splitOnce_eq_some_iff {sep : Char} {s before rest : String} :
    splitOnce sep s = some (before, rest) ↔
      s.toList = before.toList ++ sep :: rest.toList ∧ sep ∉ before.toList := by
  rw [← splitOnceOf_eq_some_iff, splitOnce, Option.map_eq_some_iff]
  constructor
  · rintro ⟨⟨cs, cs'⟩, hparts, hstrings⟩
    obtain ⟨rfl, rfl⟩ := Prod.mk.inj hstrings
    rw [hparts, String.toList_ofList, String.toList_ofList]
  · intro h
    exact ⟨_, h, by simp⟩

end RouteWatch.Text
