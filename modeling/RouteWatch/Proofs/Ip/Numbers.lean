import RouteWatch.Ip.Printer
import RouteWatch.Ip.Reader

/-!
# Numbers are read as they are printed

The digits that the printers of addresses write are those that the readers take: a number that is
followed by something else than a digit is read back, and nothing of what follows.

* `exists_digits`: the digits that are printed, as values;
* `number?_toDigits`: the number that is read.
-/

namespace RouteWatch.Ip

/-- No digit of the base comes first. -/
def Stops (base : Nat) (rest : List Char) : Prop :=
  ∀ c, rest.head? = some c → digitValue? base c = none

@[simp] theorem stops_nil (base : Nat) : Stops base [] :=
  nofun

theorem stops_cons {base : Nat} {c : Char} (rest : List Char) (h : digitValue? base c = none) :
    Stops base (c :: rest) := by
  rintro d hd
  cases hd
  exact h

/-! ## Digits -/

theorem hexValue?_digitChar {d : Nat} (h : d < 16) : hexValue? d.digitChar = some d := by
  have hall : ∀ d : Fin 16, hexValue? (Nat.digitChar d) = some d.val := by decide
  exact hall ⟨d, h⟩

theorem digitValue?_digitChar {base d : Nat} (h : d < base) (hb : base ≤ 16) :
    digitValue? base d.digitChar = some d := by
  rw [digitValue?, hexValue?_digitChar (Nat.lt_of_lt_of_le h hb)]
  simp [h]

theorem digitRun_append {base : Nat} {digits rest : List Char}
    (hdigits : ∀ c ∈ digits, (digitValue? base c).isSome = true) (hrest : Stops base rest) :
    digitRun base (digits ++ rest) = (digits.filterMap (digitValue? base), rest) := by
  induction digits with
  | nil =>
    cases rest with
    | nil => rfl
    | cons c rest => simp [digitRun, hrest c rfl]
  | cons c digits ih =>
    obtain ⟨hc, hdigits⟩ := List.forall_mem_cons.1 hdigits
    obtain ⟨d, hd⟩ := Option.isSome_iff_exists.1 hc
    simp [digitRun, hd, ih hdigits]

theorem filterMap_digitChar {base : Nat} (hb : base ≤ 16) {ds : List Nat}
    (hds : ∀ d ∈ ds, d < base) : (ds.map Nat.digitChar).filterMap (digitValue? base) = ds := by
  induction ds with
  | nil => rfl
  | cons d ds ih =>
    obtain ⟨hd, hds⟩ := List.forall_mem_cons.1 hds
    simp [digitValue?_digitChar hd hb, ih hds]

theorem isSome_digitValue?_of_mem {base : Nat} (hb : base ≤ 16) {ds : List Nat}
    (hds : ∀ d ∈ ds, d < base) {c : Char} (h : c ∈ ds.map Nat.digitChar) :
    (digitValue? base c).isSome = true := by
  obtain ⟨d, hd, rfl⟩ := List.mem_map.1 h
  rw [digitValue?_digitChar (hds d hd) hb]
  rfl

theorem digitRun_map_digitChar {base : Nat} (hb : base ≤ 16) {ds : List Nat} {rest : List Char}
    (hds : ∀ d ∈ ds, d < base) (hrest : Stops base rest) :
    digitRun base (ds.map Nat.digitChar ++ rest) = (ds, rest) := by
  rw [digitRun_append (fun _ => isSome_digitValue?_of_mem hb hds) hrest,
    filterMap_digitChar hb hds]

/-- What is printed of a number: digits of the base that denote it, the first of them not zero
unless it is the only one. -/
theorem exists_digits {base : Nat} (hb : 1 < base) (n : Nat) :
    ∃ ds : List Nat, Nat.toDigits base n = ds.map Nat.digitChar ∧ (∀ d ∈ ds, d < base) ∧
      numeral base ds = n ∧ ds ≠ [] ∧ (n ≠ 0 → ds.head? ≠ some 0) := by
  induction n using Nat.strongRecOn with
  | ind n ih =>
    by_cases hn : n < base
    · exact ⟨[n], by simp [Nat.toDigits_of_lt_base hn], by simpa using hn, by simp [numeral],
        by simp, by simp⟩
    · have hpos : 0 < n / base := Nat.div_pos (Nat.le_of_not_lt hn) (by lia)
      obtain ⟨ds, hdigits, hds, hvalue, hne, hhead⟩ :=
        ih (n / base) (Nat.div_lt_self (by lia) hb)
      refine ⟨ds ++ [n % base], ?_, ?_, ?_, by simp, fun _ => ?_⟩
      · rw [Nat.toDigits_of_base_le hb (Nat.le_of_not_lt hn), hdigits, List.map_append]
        rfl
      · exact List.forall_mem_append.2 ⟨hds, by simpa using Nat.mod_lt n (by lia)⟩
      · rw [numeral, List.foldl_append, ← numeral, hvalue]
        exact Nat.div_add_mod' n base
      · rw [List.head?_append, Option.or_of_isSome (List.isSome_head?.2 hne)]
        exact hhead (Nat.pos_iff_ne_zero.1 hpos)

/-! ## Numbers -/

/-- A number that fits is read as it was printed, whether or not leading zeros are accepted. -/
theorem number?_toDigits {base width bound n : Nat} (hb : 1 < base) (hb' : base ≤ 16)
    (hwidth : (Nat.toDigits base n).length ≤ width) (hbound : n < bound) (leadingZeros : Bool)
    {rest : List Char} (hrest : Stops base rest) :
    number? base width bound leadingZeros (Nat.toDigits base n ++ rest) = some (n, rest) := by
  obtain ⟨ds, hdigits, hds, hvalue, hne, hhead⟩ := exists_digits hb n
  have hlength : ds.length ≤ width := by rwa [hdigits, List.length_map] at hwidth
  have hzeros : ¬ (1 < ds.length ∧ ds.head? = some 0) := by
    rintro ⟨hlong, hzero⟩
    refine hhead (fun h => ?_) hzero
    subst h
    have h : (ds.map Nat.digitChar).length = 1 := by rw [← hdigits, Nat.toDigits_zero]; rfl
    rw [List.length_map] at h
    lia
  rw [hdigits, number?, digitRun_map_digitChar hb' hds hrest]
  have hfits : (ds.isEmpty || decide (width < ds.length) || decide (bound ≤ n)) = false := by
    simp [hne, hlength, hbound]
  have hstrict : (!leadingZeros && decide (1 < ds.length) && ds.head? == some 0) = false := by
    rw [Bool.and_assoc, Bool.and_eq_false_imp]
    intro _
    simpa using hzeros
  simp only [hvalue, hfits, hstrict, Bool.false_eq_true, if_false]

/-- Digits are read as the number that they denote, whatever they are. -/
theorem number?_append {base width bound : Nat} {digits rest : List Char}
    (hdigits : ∀ c ∈ digits, (digitValue? base c).isSome = true) (hne : digits ≠ [])
    (hwidth : digits.length ≤ width)
    (hbound : numeral base (digits.filterMap (digitValue? base)) < bound)
    (hrest : Stops base rest) :
    number? base width bound true (digits ++ rest) =
      some (numeral base (digits.filterMap (digitValue? base)), rest) := by
  have hlength : (digits.filterMap (digitValue? base)).length = digits.length :=
    List.filterMap_length_eq_length.2 hdigits
  have hvalues : digits.filterMap (digitValue? base) ≠ [] := by
    rw [← List.length_pos_iff, hlength]
    exact List.length_pos_iff.2 hne
  rw [number?, digitRun_append hdigits hrest]
  simp [hvalues, hlength, hwidth, hbound]

/-- Where no digit comes first, there is no number. -/
theorem number?_of_stops {base width bound : Nat} {leadingZeros : Bool} {rest : List Char}
    (h : Stops base rest) : number? base width bound leadingZeros rest = none := by
  have hrun : digitRun base rest = ([], rest) := by
    cases rest with
    | nil => rfl
    | cons c rest => simp [digitRun, h c rfl]
  rw [number?, hrun]
  rfl

/-- The characters of a number are digits. -/
theorem isSome_hexValue?_of_mem_toDigits {base n : Nat} (hb : 1 < base) (hb' : base ≤ 16)
    {c : Char} (h : c ∈ Nat.toDigits base n) : (hexValue? c).isSome = true := by
  obtain ⟨ds, hdigits, hds, -⟩ := exists_digits hb n
  rw [hdigits] at h
  exact Option.isSome_of_isSome_filter _ _ (isSome_digitValue?_of_mem hb' hds h)

end RouteWatch.Ip
