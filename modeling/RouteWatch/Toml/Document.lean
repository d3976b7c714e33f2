import RouteWatch.Toml.Section

/-!
# TOML documents

The sections of a document make one table. Its pairs stand in the order in which a reader of the
document comes to them: where a header first names a key, all that the document says about that key
is told at once. A section with the same header as one before it is never told; that it is there is
noted at the end of what is told.
-/

namespace RouteWatch.Toml

namespace Section

/-- The section within the table under the key, if it lies there. -/
def within? (key : String) (s : Section) : Option Section :=
  match s.path with
  | k :: path => if k = key then some { s with path } else none
  | [] => none

/-- The sections within the table under the key. -/
def inside (key : String) (sections : List Section) : List Section :=
  sections.filterMap (within? key)

/-- The sections outside of the table under the key. -/
def outside (key : String) (sections : List Section) : List Section :=
  sections.filter fun s => s.path.head? != some key

/-- The size of sections, which becomes less when some are left out or enter a table. -/
def size : List Section → Nat
  | [] => 0
  | s :: rest => s.path.length + 1 + size rest

@[simp] theorem size_cons (s : Section) (l : List Section) :
    size (s :: l) = s.path.length + 1 + size l :=
  rfl

theorem size_outside_le (key : String) (l : List Section) : size (outside key l) ≤ size l := by
  induction l with
  | nil => simp [outside]
  | cons s l ih =>
    simp only [outside, List.filter_cons] at ih ⊢
    split <;> simp only [size_cons] <;> omega

theorem size_inside_le (key : String) (l : List Section) : size (inside key l) ≤ size l := by
  induction l with
  | nil => simp [inside]
  | cons s l ih =>
    simp only [inside, List.filterMap_cons, within?] at ih ⊢
    rcases hs : s.path with _ | ⟨k, path⟩
    · simp only [size_cons]; omega
    · by_cases hk : k = key
      · simp only [hk, if_true, size_cons, hs, List.length_cons]; omega
      · simp only [hk, if_false, size_cons]; omega

end Section

/-- The pairs that the sections tell, and whether a header is there again. `told` says that the
pairs without a further header are told already. -/
def ofSections (told : Bool) : List Section → List (String × Toml) × Bool
  | [] => ([], false)
  | ⟨[], isItem, pairs⟩ :: rest =>
    if told || isItem then ([], true)
    else
      let later := ofSections true rest
      (pairs ++ later.1, later.2)
  | ⟨key :: path, isItem, pairs⟩ :: rest =>
    -- a table is told where its first header stands, with all that lies in it
    let inner := ofSections false (⟨path, isItem, pairs⟩ :: Section.inside key rest)
    let table := Toml.table (.headed inner.2) inner.1
    let value := if isItem && path.isEmpty then .array [table] else table
    let later := ofSections told (Section.outside key rest)
    ((key, value) :: later.1, later.2)
termination_by sections => Section.size sections
decreasing_by
  · simp only [Section.size_cons]; omega
  · have := Section.size_inside_le key rest
    simp only [Section.size_cons, List.length_cons] at this ⊢
    omega
  · have := Section.size_outside_le key rest
    simp only [Section.size_cons] at this ⊢
    omega

/-- The table that the document is. -/
def parse? (s : String) : Option Toml := do
  let (pairs, again) := ofSections false (← Section.ofText? s)
  return .table (.headed again) pairs

end RouteWatch.Toml
