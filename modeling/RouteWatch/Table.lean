/-!
# Tables

A table holds values under keys, each key once and in ascending order. The order makes equality of
tables the equality of their contents, and fixes the order in which a table is listed. A table is
seen through `get?`; `get?_insert` and `get?_erase` say what the operations do to that view, and
`ext_get?` that a table is determined by it.
-/

namespace RouteWatch

/-- Keys may be compared by a part of them and then by what is left. Such a comparison tells all keys
apart if the two determine a key. -/
theorem lawfulEqCmp_compareLex {κ π : Type} [Ord π] [Std.LawfulEqOrd π] {part : κ → π}
    {rest : κ → κ → Ordering} [Std.ReflCmp rest]
    (h : ∀ a b, part a = part b → rest a b = .eq → a = b) :
    Std.LawfulEqCmp (compareLex (compareOn part) rest) where
  eq_of_compare hcompare := by
    obtain ⟨hpart, hrest⟩ := Ordering.then_eq_eq.1 hcompare
    exact h _ _ (Std.LawfulEqOrd.eq_of_compare hpart) hrest

/-- Values under keys in ascending order. -/
structure Table (κ ν : Type) [Ord κ] where
  entries : List (κ × ν)
  /-- Each key stands before the greater ones. -/
  sorted : entries.Pairwise fun a b => compare a.1 b.1 = .lt

namespace Table

variable {κ ν : Type} [Ord κ]

/-- The entries with the value under the key, in the place of the former one or at its own. -/
def insertInto (key : κ) (value : ν) : List (κ × ν) → List (κ × ν)
  | [] => [(key, value)]
  | entry :: rest =>
    match compare key entry.1 with
    | .lt => (key, value) :: entry :: rest
    | .eq => (key, value) :: rest
    | .gt => entry :: insertInto key value rest

theorem mem_insertInto {key : κ} {value : ν} {e : κ × ν} {l : List (κ × ν)}
    (h : e ∈ insertInto key value l) : e = (key, value) ∨ e ∈ l := by
  induction l with
  | nil => simpa [insertInto] using h
  | cons a l ih =>
    rw [insertInto] at h
    split at h <;> grind

theorem sorted_insertInto [Std.TransOrd κ] (key : κ) (value : ν) {l : List (κ × ν)}
    (h : l.Pairwise fun a b => compare a.1 b.1 = .lt) :
    (insertInto key value l).Pairwise fun a b => compare a.1 b.1 = .lt := by
  induction l with
  | nil => simp [insertInto]
  | cons a l ih =>
    obtain ⟨ha, hl⟩ := List.pairwise_cons.1 h
    rw [insertInto]
    split
    next hlt =>
      refine List.pairwise_cons.2 ⟨fun e he => ?_, h⟩
      rcases List.mem_cons.1 he with rfl | he
      · exact hlt
      · exact Std.TransCmp.lt_trans hlt (ha e he)
    next heq => exact List.pairwise_cons.2 ⟨fun e he => Std.TransCmp.lt_of_eq_of_lt heq (ha e he), hl⟩
    next hgt =>
      refine List.pairwise_cons.2 ⟨fun e he => ?_, ih hl⟩
      rcases mem_insertInto he with rfl | he
      · exact Std.OrientedCmp.gt_iff_lt.1 hgt
      · exact ha e he

def empty : Table κ ν :=
  ⟨[], .nil⟩

instance : EmptyCollection (Table κ ν) :=
  ⟨empty⟩

instance : Inhabited (Table κ ν) :=
  ⟨empty⟩

instance [DecidableEq κ] [DecidableEq ν] : DecidableEq (Table κ ν) := fun a b =>
  decidable_of_iff (a.entries = b.entries) ⟨fun h => by cases a; cases b; cases h; rfl, fun h => h ▸ rfl⟩

def get? (t : Table κ ν) (key : κ) : Option ν :=
  (t.entries.find? fun e => compare key e.1 == .eq).map (·.2)

def contains (t : Table κ ν) (key : κ) : Bool :=
  (t.get? key).isSome

def keys (t : Table κ ν) : List κ :=
  t.entries.map (·.1)

/-- The table with the value under the key, whether or not it had one there. -/
def insert [Std.TransOrd κ] (t : Table κ ν) (key : κ) (value : ν) : Table κ ν :=
  ⟨insertInto key value t.entries, sorted_insertInto key value t.sorted⟩

def erase (t : Table κ ν) (key : κ) : Table κ ν :=
  ⟨t.entries.filter fun e => compare key e.1 != .eq, t.sorted.filter _⟩

/-- The table of a list of entries; of two with one key, the later one stays. -/
def ofList [Std.TransOrd κ] (entries : List (κ × ν)) : Table κ ν :=
  entries.foldl (fun t e => t.insert e.1 e.2) empty

@[simp] theorem get?_empty (key : κ) : (empty : Table κ ν).get? key = none := rfl

theorem find?_insertInto [Std.TransOrd κ] (key k : κ) (value : ν) (l : List (κ × ν)) :
    (insertInto key value l).find? (fun e => compare k e.1 == .eq)
      = if compare k key = .eq then some (key, value)
        else l.find? (fun e => compare k e.1 == .eq) := by
  induction l with
  | nil => simp [insertInto, List.find?_cons]; split <;> simp_all
  | cons a l ih =>
    rw [insertInto]
    split
    next hlt => simp only [List.find?_cons]; split <;> simp_all
    next heq =>
      have : compare k key = compare k a.1 := Std.TransCmp.congr_right heq
      by_cases h : compare k a.1 = .eq <;> simp [this, h]
    next hgt =>
      rw [List.find?_cons, ih, List.find?_cons]
      split
      next h =>
        have hka : compare k a.1 = .eq := by simpa using h
        have : compare k key = compare a.1 key := Std.TransCmp.congr_left hka
        have hlt : compare a.1 key = .lt := Std.OrientedCmp.gt_iff_lt.1 hgt
        simp [this, hlt]
      next => rfl

theorem get?_insert [Std.TransOrd κ] (t : Table κ ν) (key k : κ) (value : ν) :
    (t.insert key value).get? k = if compare k key = .eq then some value else t.get? k := by
  simp only [get?, insert, find?_insertInto]
  split <;> rfl

theorem get?_erase [Std.TransOrd κ] (t : Table κ ν) (key k : κ) :
    (t.erase key).get? k = if compare k key = .eq then none else t.get? k := by
  simp only [get?, erase]
  generalize t.entries = l
  induction l with
  | nil => simp
  | cons a l ih =>
    by_cases ha : compare key a.1 = .eq
    · have : compare k key = compare k a.1 := Std.TransCmp.congr_right ha
      by_cases hk : compare k key = .eq
      · simpa [List.filter_cons, List.find?_cons, ha, hk] using ih
      · have hka : (compare k a.1 == .eq) = false := by simpa [← this] using hk
        simpa [List.filter_cons, List.find?_cons, ha, hk, hka] using ih
    · by_cases hk : compare k key = .eq
      · have : compare key a.1 = compare k a.1 := (Std.TransCmp.congr_left hk).symm
        have hka : (compare k a.1 == .eq) = false := by simpa [← this] using ha
        simpa [List.filter_cons, List.find?_cons, ha, hk, hka] using ih
      · simp only [List.filter_cons, bne_iff_ne, ne_eq, ha, not_false_eq_true, if_true,
          List.find?_cons]
        split
        · simp [hk]
        · simpa [hk] using ih

theorem mem_entries_iff [Std.TransOrd κ] [Std.LawfulEqOrd κ] (t : Table κ ν) {key : κ} {value : ν} :
    (key, value) ∈ t.entries ↔ t.get? key = some value := by
  obtain ⟨entries, sorted⟩ := t
  simp only [get?]
  induction entries with
  | nil => simp
  | cons e rest ih =>
    obtain ⟨he, hrest⟩ := List.pairwise_cons.1 sorted
    by_cases hkey : key = e.1
    · subst hkey
      have hnot : ∀ v, (e.1, v) ∉ rest := fun v hv => by
        have := he _ hv
        simp at this
      simp [hnot, Prod.ext_iff, eq_comm]
    · have hne : (key, value) ≠ e := fun h => hkey (by rw [← h])
      simpa [List.find?_cons, hkey, hne] using ih hrest

theorem ext_get? [Std.TransOrd κ] [Std.LawfulEqOrd κ] {t t' : Table κ ν}
    (h : t.get? = t'.get?) : t = t' := by
  have nodup : ∀ t : Table κ ν, t.entries.Nodup := fun t =>
    t.sorted.imp fun hlt heq => by simp [heq] at hlt
  have hperm : t.entries.Perm t'.entries :=
    (List.perm_ext_iff_of_nodup (nodup t) (nodup t')).2 fun e => by
      rw [mem_entries_iff, mem_entries_iff, h]
  have hentries : t.entries = t'.entries :=
    hperm.eq_of_pairwise (fun a b _ _ hab hba => by
      have hgt := Std.OrientedCmp.gt_iff_lt.2 hab
      simp [hba] at hgt) t.sorted t'.sorted
  cases t; cases t'; cases hentries; rfl

theorem mem_keys_iff [Std.TransOrd κ] [Std.LawfulEqOrd κ] (t : Table κ ν) {key : κ} :
    key ∈ t.keys ↔ ∃ value, t.get? key = some value := by
  simp [keys, ← mem_entries_iff]

/-- A list of entries gives a table with just their keys. -/
theorem mem_keys_ofList [Std.TransOrd κ] [Std.LawfulEqOrd κ] {entries : List (κ × ν)} {key : κ} :
    key ∈ (ofList entries).keys ↔ key ∈ entries.map (·.1) := by
  have hfold : ∀ t : Table κ ν, key ∈ (entries.foldl (fun t e => t.insert e.1 e.2) t).keys ↔
      key ∈ t.keys ∨ key ∈ entries.map (·.1) := by
    induction entries with
    | nil => simp
    | cons e entries ih =>
      intro t
      have hinsert : key ∈ (t.insert e.1 e.2).keys ↔ key = e.1 ∨ key ∈ t.keys := by
        by_cases hkey : key = e.1
        · simp [mem_keys_iff, get?_insert, hkey]
        · simp [mem_keys_iff, get?_insert, hkey]
      rw [List.foldl_cons, ih, hinsert]
      grind
  have hempty : key ∉ (empty : Table κ ν).keys := List.not_mem_nil
  rw [ofList, hfold, or_iff_right hempty]

theorem get?_ofList [Std.TransOrd κ] [Std.LawfulEqOrd κ] [BEq κ] [LawfulBEq κ]
    (entries : List (κ × ν)) (key : κ) :
    (ofList entries).get? key = entries.reverse.lookup key := by
  have hfold : ∀ (entries : List (κ × ν)) (t : Table κ ν),
      (entries.foldl (fun t e => t.insert e.1 e.2) t).get? key =
        (entries.reverse.lookup key).or (t.get? key) := by
    intro entries
    induction entries with
    | nil => intro t; rfl
    | cons e entries ih =>
      intro t
      rw [List.foldl_cons, ih, get?_insert, List.reverse_cons, List.lookup_append, Option.or_assoc]
      by_cases h : key = e.1
      · have hlast : [e].lookup key = some e.2 := h ▸ List.lookup_cons_self
        rw [hlast, if_pos (h ▸ Std.ReflCmp.compare_self)]
        rfl
      · have hlast : [e].lookup key = none := by simpa using h
        rw [hlast, if_neg fun hcompare => h (Std.LawfulEqCmp.eq_of_compare hcompare)]
        rfl
  rw [ofList, hfold]
  exact Option.or_none

end Table

end RouteWatch
