import RouteWatch.Text.Blank

/-!
# The words of a text

A text is put together from blanks and words (`words_induction`), and its words are read off from
left to right. A word that is found in the list stands in the text with blanks or the ends of the
text around it (`exists_of_wordsOf_eq`).
-/

namespace RouteWatch.Text

/-- The text is a word: it has characters, and none of them is blank. -/
structure IsWord (w : List Char) : Prop where
  ne_nil : w ≠ []
  /-- None of them is blank. -/
  not_blank : ∀ c ∈ w, isBlank c = false

/-- No word goes on here: a blank comes, or the text is over. -/
def BlankAhead (rest : List Char) : Prop :=
  rest.head?.all isBlank = true

/-- No word goes on after this: a blank comes last, or this is empty. -/
def BlankBehind (before : List Char) : Prop :=
  before.getLast?.all isBlank = true

instance : DecidablePred IsWord := fun w =>
  decidable_of_iff (w ≠ [] ∧ w.any isBlank = false)
    ⟨fun h => ⟨h.1, by simpa using h.2⟩, fun h => ⟨h.ne_nil, by simpa using h.not_blank⟩⟩

instance : DecidablePred BlankAhead :=
  fun _ => inferInstanceAs (Decidable (_ = true))

instance : DecidablePred BlankBehind :=
  fun _ => inferInstanceAs (Decidable (_ = true))

theorem IsWord.append {a b : List Char} (ha : IsWord a) (hb : ∀ c ∈ b, isBlank c = false) :
    IsWord (a ++ b) :=
  ⟨by simp [ha.ne_nil], List.forall_mem_append.2 ⟨ha.not_blank, hb⟩⟩

theorem IsWord.not_blankAhead {w : List Char} (h : IsWord w) (rest : List Char) :
    ¬ BlankAhead (w ++ rest) := by
  cases w with
  | nil => exact absurd rfl h.ne_nil
  | cons c w => simp [BlankAhead, h.not_blank c]

theorem IsWord.dropWhile {w : List Char} (h : IsWord w) (rest : List Char) :
    (w ++ rest).dropWhile isBlank = w ++ rest := by
  cases w with
  | nil => exact absurd rfl h.ne_nil
  | cons c w => exact List.dropWhile_cons_of_neg (by simp [h.not_blank c])

theorem blankAhead_nil : BlankAhead [] := rfl

theorem blankAhead_cons {c : Char} (h : isBlank c = true) (rest : List Char) :
    BlankAhead (c :: rest) := by
  simpa [BlankAhead] using h

/-! ## Pieces -/

variable {sep : Char → Bool} {c : Char} {a b cs w rest : List Char}

theorem splitBy_eq_splitOnP (sep : Char → Bool) (cs : List Char) :
    splitBy sep cs = cs.splitOnP sep := by
  induction cs with
  | nil => rw [splitBy, List.splitOnP_nil]
  | cons c cs ih =>
    rw [splitBy, List.splitOnP_cons_eq_if_modifyHead, ih]
    split
    · rfl
    · cases h : cs.splitOnP sep with
      | nil => exact absurd h (List.splitOnP_ne_nil sep cs)
      | cons piece pieces => rfl

theorem splitBy_eq_splitOn (stop : Char) (cs : List Char) :
    splitBy (· == stop) cs = cs.splitOn stop := by
  rw [splitBy_eq_splitOnP, List.splitOn_eq_splitOnP]

theorem splitBy_append_cons (hc : sep c = true) :
    splitBy sep (a ++ c :: b) = splitBy sep a ++ splitBy sep b := by
  simp only [splitBy_eq_splitOnP]
  exact List.splitOnP_append_cons a b hc

theorem splitBy_eq_singleton (h : ∀ d ∈ cs, sep d = false) : splitBy sep cs = [cs] := by
  rw [splitBy_eq_splitOnP]
  exact List.splitOnP_eq_singleton h

/-- Pieces that each end with a character, which none of them has, are told apart by it. -/
theorem splitBy_flatMap_concat {stop : Char} {pieces : List (List Char)}
    (h : ∀ piece ∈ pieces, stop ∉ piece) :
    splitBy (· == stop) (pieces.flatMap (· ++ [stop])) = pieces ++ [[]] := by
  rw [splitBy_eq_splitOn]
  induction pieces with
  | nil => rw [List.flatMap_nil, List.splitOn_nil, List.nil_append]
  | cons piece pieces ih =>
    obtain ⟨hpiece, hpieces⟩ := List.forall_mem_cons.1 h
    rw [List.flatMap_cons, List.append_assoc, List.singleton_append,
      List.splitOn_append_cons_self_of_not_mem hpiece, ih hpieces, List.cons_append]

theorem linesOf_flatMap_concat {ls : List (List Char)} (h : ∀ l ∈ ls, '\n' ∉ l) :
    linesOf (ls.flatMap (· ++ ['\n'])) = ls := by
  rw [linesOf, splitBy_flatMap_concat h]
  simp

/-- What comes before the first separator, and what comes after it, is told by the text. -/
theorem append_cons_inj {d : Char} {a' b' : List Char} (ha : ∀ e ∈ a, sep e = false)
    (ha' : ∀ e ∈ a', sep e = false) (hc : sep c = true) (hd : sep d = true)
    (h : a ++ c :: b = a' ++ d :: b') : a = a' ∧ c = d ∧ b = b' := by
  induction a generalizing a' with
  | nil =>
    cases a' with
    | nil => simpa using h
    | cons e a' =>
      obtain ⟨rfl, -⟩ := List.cons.inj h
      simp [ha' c] at hc
  | cons e a ih =>
    cases a' with
    | nil =>
      obtain ⟨rfl, -⟩ := List.cons.inj h
      simp [ha e] at hd
    | cons e' a' =>
      simp only [List.cons_append, List.cons.injEq] at h
      obtain ⟨rfl, h⟩ := h
      obtain ⟨rfl, hcd⟩ := ih (List.forall_mem_cons.1 ha).2 (List.forall_mem_cons.1 ha').2 h
      exact ⟨rfl, hcd⟩

/-! ## Words -/

@[simp] theorem wordsOf_nil : wordsOf [] = [] := rfl

theorem wordsOf_append_cons (hc : isBlank c = true) :
    wordsOf (a ++ c :: b) = wordsOf a ++ wordsOf b := by
  rw [wordsOf, splitBy_append_cons hc, List.filter_append]
  rfl

theorem wordsOf_cons (hc : isBlank c = true) : wordsOf (c :: b) = wordsOf b :=
  wordsOf_append_cons (a := []) hc

theorem wordsOf_word (hw : IsWord w) : wordsOf w = [w] := by
  simp [wordsOf, splitBy_eq_singleton hw.not_blank, hw.ne_nil]

theorem wordsOf_word_append (hw : IsWord w) (hrest : BlankAhead rest) :
    wordsOf (w ++ rest) = w :: wordsOf rest := by
  cases rest with
  | nil => rw [List.append_nil, wordsOf_word hw, wordsOf_nil]
  | cons c rest =>
    have hc : isBlank c = true := by simpa [BlankAhead] using hrest
    rw [wordsOf_append_cons hc, wordsOf_word hw, wordsOf_cons hc, List.singleton_append]

theorem not_mem_intercalate {d : Char} (hd : d ≠ c) {ws : List (List Char)}
    (hws : ∀ w ∈ ws, d ∉ w) : d ∉ [c].intercalate ws := by
  induction ws with
  | nil => simp [List.intercalate]
  | cons w ws ih =>
    obtain ⟨hw, hws⟩ := List.forall_mem_cons.1 hws
    cases ws with
    | nil => simpa [List.intercalate] using hw
    | cons w' ws => simpa [List.intercalate_cons_cons, hw, hd] using ih hws

/-- Words with a blank between neighbours. -/
theorem wordsOf_intercalate (hc : isBlank c = true) {ws : List (List Char)}
    (hws : ∀ w ∈ ws, IsWord w) : wordsOf ([c].intercalate ws) = ws := by
  induction ws with
  | nil => rfl
  | cons w ws ih =>
    obtain ⟨hw, hws⟩ := List.forall_mem_cons.1 hws
    cases ws with
    | nil => simpa [List.intercalate] using wordsOf_word hw
    | cons w' ws =>
      rw [List.intercalate_cons_cons, List.append_assoc, List.singleton_append,
        wordsOf_append_cons hc, wordsOf_word hw, ih hws,
        List.singleton_append]

theorem wordsOf_append (ha : BlankBehind a) : wordsOf (a ++ b) = wordsOf a ++ wordsOf b := by
  rcases List.eq_nil_or_concat a with rfl | ⟨a, c, rfl⟩
  · rfl
  · have hc : isBlank c = true := by simpa [BlankBehind] using ha
    rw [List.concat_eq_append, List.append_assoc, List.singleton_append, wordsOf_append_cons hc,
      wordsOf_append_cons hc, wordsOf_nil, List.append_nil]

theorem wordsOf_replicate_append (hc : isBlank c = true) (n : Nat) :
    wordsOf (List.replicate n c ++ b) = wordsOf b := by
  induction n with
  | zero => rfl
  | succ n ih => rw [List.replicate_succ, List.cons_append, wordsOf_cons hc, ih]

theorem wordsOf_blanks_append (ha : ∀ c ∈ a, isBlank c = true) : wordsOf (a ++ b) = wordsOf b := by
  induction a with
  | nil => rfl
  | cons c a ih =>
    obtain ⟨hc, ha⟩ := List.forall_mem_cons.1 ha
    rw [List.cons_append, wordsOf_cons hc, ih ha]

theorem wordsOf_append_blanks (hb : ∀ c ∈ b, isBlank c = true) : wordsOf (a ++ b) = wordsOf a := by
  cases b with
  | nil => rw [List.append_nil]
  | cons c b =>
    obtain ⟨hc, hb⟩ := List.forall_mem_cons.1 hb
    have hnone : wordsOf (b ++ []) = [] := wordsOf_blanks_append hb
    rw [List.append_nil] at hnone
    rw [wordsOf_append_cons hc, hnone, List.append_nil]

/-- The blanks around a text do not count for its words. -/
theorem words_trim (s : String) : words (trim s) = words s := by
  have hblank : ∀ cs : List Char, ∀ c ∈ cs.takeWhile isBlank, isBlank c = true := by
    intro cs
    exact List.all_eq_true.1 List.all_takeWhile
  have hstart : ∀ cs : List Char, wordsOf (cs.dropWhile isBlank) = wordsOf cs := by
    intro cs
    rw [← wordsOf_blanks_append (hblank cs), List.takeWhile_append_dropWhile]
  have hend : ∀ cs : List Char, wordsOf (trimEndOf cs) = wordsOf cs := by
    intro cs
    have hcs : trimEndOf cs ++ (cs.reverse.takeWhile isBlank).reverse = cs := by
      rw [trimEndOf, ← List.reverse_append, List.takeWhile_append_dropWhile, List.reverse_reverse]
    rw [← wordsOf_append_blanks fun c hc => hblank _ c (List.mem_reverse.1 hc), hcs]
  rw [words, words, trim, String.toList_ofList, trimOf, hend, hstart]

/-- The start of the text up to the first blank. -/
theorem exists_word (cs : List Char) :
    ∃ w rest, cs = w ++ rest ∧ (∀ c ∈ w, isBlank c = false) ∧ BlankAhead rest := by
  induction cs with
  | nil => exact ⟨[], [], rfl, by simp, blankAhead_nil⟩
  | cons c cs ih =>
    by_cases hc : isBlank c = true
    · exact ⟨[], c :: cs, rfl, by simp, blankAhead_cons hc cs⟩
    · obtain ⟨w, rest, rfl, hw, hrest⟩ := ih
      exact ⟨c :: w, rest, rfl, List.forall_mem_cons.2 ⟨by simpa using hc, hw⟩, hrest⟩

/-- The end of the text after the last blank. -/
theorem exists_lead (cs : List Char) :
    ∃ before lead, cs = before ++ lead ∧ BlankBehind before ∧ ∀ c ∈ lead, isBlank c = false := by
  obtain ⟨w, rest, hcs, hw, hrest⟩ := exists_word cs.reverse
  refine ⟨rest.reverse, w.reverse, ?_, ?_, by simpa using hw⟩
  · rw [← List.reverse_append, ← hcs, List.reverse_reverse]
  · rwa [BlankBehind, List.getLast?_reverse]

/-- The text is over, or goes on with a blank, or with a word that ends there. -/
theorem words_induction {motive : List Char → Prop} (nil : motive [])
    (blank : ∀ c rest, isBlank c = true → motive rest → motive (c :: rest))
    (word : ∀ w rest, IsWord w → BlankAhead rest → motive rest → motive (w ++ rest)) (cs) :
    motive cs := by
  induction hn : cs.length using Nat.strongRecOn generalizing cs with
  | ind n ih =>
    subst hn
    obtain ⟨w, rest, rfl, hw, hrest⟩ := exists_word cs
    by_cases hne : w = []
    · subst hne
      rcases rest with - | ⟨c, rest⟩
      · exact nil
      · exact blank c rest (by simpa [BlankAhead] using hrest) (ih _ (by simp) rest rfl)
    · have hlength := List.length_pos_iff.2 hne
      exact word w rest ⟨hne, hw⟩ hrest (ih _ (by simp; lia) rest rfl)

theorem isWord_of_mem_wordsOf (h : w ∈ wordsOf cs) : IsWord w := by
  induction cs using words_induction with
  | nil => cases h
  | blank c rest hc ih => exact ih (by rwa [wordsOf_cons hc] at h)
  | word w' rest hw' hrest ih =>
    rw [wordsOf_word_append hw' hrest, List.mem_cons] at h
    rcases h with rfl | h
    · exact hw'
    · exact ih h

/-- The text around one of its words. -/
theorem exists_of_wordsOf_eq {ws ws' : List (List Char)} (h : wordsOf cs = ws ++ w :: ws') :
    ∃ before after, cs = before ++ w ++ after ∧ BlankBehind before ∧ BlankAhead after ∧
      wordsOf before = ws ∧ wordsOf after = ws' := by
  induction cs using words_induction generalizing ws with
  | nil => simp at h
  | blank c rest hc ih =>
    rw [wordsOf_cons hc] at h
    obtain ⟨before, after, rfl, hbefore, hafter, hws, hws'⟩ := ih h
    refine ⟨c :: before, after, rfl, ?_, hafter, by rw [wordsOf_cons hc, hws], hws'⟩
    cases before with
    | nil => simpa [BlankBehind] using hc
    | cons b before => simpa [BlankBehind] using hbefore
  | word w' rest hw' hrest ih =>
    rw [wordsOf_word_append hw' hrest] at h
    cases ws with
    | nil =>
      obtain ⟨rfl, rfl⟩ := List.cons.inj h
      exact ⟨[], rest, rfl, rfl, hrest, rfl, rfl⟩
    | cons _ ws =>
      simp only [List.cons_append, List.cons.injEq] at h
      obtain ⟨rfl, h⟩ := h
      obtain ⟨before, after, rfl, hbefore, hafter, rfl, hws'⟩ := ih h
      have hw : IsWord w := isWord_of_mem_wordsOf (by rw [h]; simp)
      cases before with
      | nil => exact absurd hrest (hw.not_blankAhead after)
      | cons b before =>
        refine ⟨w' ++ b :: before, after, by simp, ?_, hafter, wordsOf_word_append hw' hrest, hws'⟩
        rw [BlankBehind, List.getLast?_append, Option.or_of_isSome (by simp)]
        exact hbefore

end RouteWatch.Text
