import RouteWatch.Proofs.Text.Words
import RouteWatch.Text.Place

/-!
# The lines of a text

A line feed stands between two lines, so a text is taken apart from its first line on
(`lines_induction`), and a piece without a line feed stands in one line (`exists_infix_splitOn_iff`).
A run of lines is a part of the text that starts a line and that ends one, and only then:
`infix_splitOn`, `exists_of_infix_splitOn`.
-/

namespace RouteWatch.Text

/-- The line is over: a line feed comes, or nothing does. -/
def endsLine (rest : List Char) : Bool :=
  rest.head?.all (· == '\n')

variable {text before mid after line : List Char} {ls : List (List Char)}

/-- The rest of the line, and what comes after it. -/
theorem exists_endsLine (cs : List Char) :
    ∃ line after, cs = line ++ after ∧ '\n' ∉ line ∧ endsLine after = true := by
  induction cs with
  | nil => exact ⟨[], [], rfl, List.not_mem_nil, rfl⟩
  | cons c cs ih =>
    by_cases hc : c = '\n'
    · subst hc
      exact ⟨[], '\n' :: cs, rfl, List.not_mem_nil, rfl⟩
    · obtain ⟨line, after, rfl, hline, hafter⟩ := ih
      exact ⟨c :: line, after, rfl,
        List.not_mem_cons_of_ne_of_not_mem (Ne.symm hc) hline, hafter⟩

/-- The text is one line, or a line and then the rest of the text. -/
theorem lines_induction {motive : List Char → Prop} (line : ∀ line, '\n' ∉ line → motive line)
    (lines : ∀ line rest, '\n' ∉ line → motive rest → motive (line ++ '\n' :: rest)) (cs) :
    motive cs := by
  induction hn : cs.length using Nat.strongRecOn generalizing cs with
  | ind n ih =>
    subst hn
    obtain ⟨first, after, rfl, hfirst, hafter⟩ := exists_endsLine cs
    cases after with
    | nil =>
      rw [List.append_nil]
      exact line first hfirst
    | cons c rest =>
      obtain rfl : c = '\n' := by simpa [endsLine] using hafter
      exact lines first rest hfirst (ih _ (by simp; lia) rest rfl)

theorem not_mem_of_mem_splitOn (h : line ∈ text.splitOn '\n') : '\n' ∉ line := by
  induction text using lines_induction with
  | line first hfirst =>
    rw [List.splitOn_eq_singleton hfirst, List.mem_singleton] at h
    rwa [h]
  | lines first rest hfirst ih =>
    rw [List.splitOn_append_cons_self_of_not_mem hfirst, List.mem_cons] at h
    rcases h with rfl | h
    · exact hfirst
    · exact ih h

/-! ## Pieces within one line -/

theorem containsOf_iff_infix {piece : List Char} : containsOf piece text = true ↔ piece <:+: text := by
  rw [containsOf_iff]
  constructor
  · rintro ⟨before, rest, rfl⟩
    exact ⟨before, rest, rfl⟩
  · rintro ⟨before, rest, rfl⟩
    exact ⟨before, rest, rfl⟩

theorem prefix_append_cons_iff {stop : Char} {piece a b : List Char} (h : stop ∉ piece) :
    piece <+: a ++ stop :: b ↔ piece <+: a := by
  constructor
  · rintro ⟨rest, hrest⟩
    rcases List.append_eq_append_iff.1 hrest with ⟨more, rfl, -⟩ | ⟨more, rfl, hmore⟩
    · exact List.prefix_append piece more
    · cases more with
      | nil => simp
      | cons c more =>
        obtain ⟨rfl, -⟩ := List.cons.inj hmore
        simp at h
  · exact fun hprefix => hprefix.trans (List.prefix_append a _)

/-- A piece without the character stands on one side of it. -/
theorem infix_append_cons_iff {stop : Char} {piece a b : List Char} (h : stop ∉ piece) :
    piece <:+: a ++ stop :: b ↔ piece <:+: a ∨ piece <:+: b := by
  induction a with
  | nil =>
    have hprefix := prefix_append_cons_iff (a := []) (b := b) h
    rw [List.nil_append] at hprefix
    rw [List.nil_append, List.infix_cons_iff, hprefix, List.prefix_nil, List.infix_nil]
  | cons c a ih =>
    rw [List.cons_append, List.infix_cons_iff, ← List.cons_append, prefix_append_cons_iff h, ih,
      List.infix_cons_iff, or_assoc]

/-- A piece without a line feed stands in one line. -/
theorem exists_infix_splitOn_iff {piece : List Char} (h : '\n' ∉ piece) :
    (∃ line ∈ text.splitOn '\n', piece <:+: line) ↔ piece <:+: text := by
  induction text using lines_induction with
  | line line hline => simp [List.splitOn_eq_singleton hline]
  | lines line rest hline ih =>
    rw [List.splitOn_append_cons_self_of_not_mem hline, infix_append_cons_iff h, ← ih]
    simp

/-! ## Starts of lines -/

/-- Behind whole lines, a place is the start of a line as if nothing came before. -/
theorem startsLine_append (h : startsLine before.getLast? = true) :
    startsLine (before ++ after).getLast? = startsLine after.getLast? := by
  rw [List.getLast?_append]
  cases after.getLast? with
  | none => exact h
  | some c => rfl

theorem getLast?_append_cons_of_startsLine (h : startsLine text.getLast? = true) :
    (line ++ '\n' :: text).getLast? = some '\n' := by
  rw [List.getLast?_append, List.getLast?_cons, Option.some_or]
  cases hlast : text.getLast? with
  | none => rfl
  | some c =>
    obtain rfl : c = '\n' := by simpa [hlast, startsLine] using h
    rfl

theorem exists_getLast?_take {n : Nat} (hn : 0 < n) (hne : text ≠ []) :
    ∃ c ∈ text, (text.take n).getLast? = some c := by
  cases hlast : (text.take n).getLast? with
  | none =>
    rw [List.getLast?_eq_none_iff, List.take_eq_nil_iff] at hlast
    rcases hlast with rfl | rfl
    · cases hn
    · exact absurd rfl hne
  | some c => exact ⟨c, List.mem_of_mem_take (List.mem_of_getLast? hlast), rfl⟩

/-! ## Runs of lines -/

theorem splitOn_append (h : startsLine before.getLast? = true) :
    (before ++ after).splitOn '\n' = (before.splitOn '\n').dropLast ++ after.splitOn '\n' := by
  rcases List.eq_nil_or_concat before with rfl | ⟨before, c, rfl⟩
  · simp
  · obtain rfl : c = '\n' := by simpa [startsLine] using h
    rw [List.concat_eq_append, List.append_assoc, List.singleton_append,
      List.splitOn_append_cons_self, List.splitOn_append_cons_self, List.splitOn_nil,
      List.dropLast_concat]

theorem startsLine_flatMap (ls : List (List Char)) :
    startsLine (ls.flatMap fun l => l ++ ['\n']).getLast? = true := by
  rcases List.eq_nil_or_concat ls with rfl | ⟨ls, l, rfl⟩
  · rfl
  · rw [List.concat_eq_append, List.flatMap_append, List.flatMap_singleton, ← List.append_assoc,
      List.getLast?_concat]
    rfl

theorem intercalate_append (stop : Char) (before : List (List Char)) (hls : ls ≠ []) :
    [stop].intercalate (before ++ ls) =
      (before.flatMap fun l => l ++ [stop]) ++ [stop].intercalate ls := by
  induction before with
  | nil => rfl
  | cons l before ih =>
    have hne : before ++ ls ≠ [] := by simp [hls]
    rw [List.cons_append, List.intercalate_cons_of_ne_nil hne, ih, List.flatMap_cons,
      List.append_assoc, List.append_assoc, List.append_assoc]

theorem flatMap_eq_intercalate (stop : Char) (hls : ls ≠ []) :
    (ls.flatMap fun l => l ++ [stop]) = [stop].intercalate ls ++ [stop] := by
  rcases List.eq_nil_or_concat ls with rfl | ⟨ls, l, rfl⟩
  · exact absurd rfl hls
  · rw [List.concat_eq_append, intercalate_append stop ls (List.cons_ne_nil l []),
      List.flatMap_append, List.flatMap_singleton, List.intercalate_singleton, List.append_assoc]

/-- What starts a line and ends one is made of lines. -/
theorem infix_splitOn (hstart : startsLine before.getLast? = true) (hend : endsLine after = true) :
    mid.splitOn '\n' <:+: (before ++ (mid ++ after)).splitOn '\n' := by
  have hafter : mid.splitOn '\n' <+: (mid ++ after).splitOn '\n' := by
    cases after with
    | nil => simp
    | cons c after =>
      obtain rfl : c = '\n' := by simpa [endsLine] using hend
      rw [List.splitOn_append_cons_self]
      exact List.prefix_append _ _
  rcases List.eq_nil_or_concat before with rfl | ⟨before, c, rfl⟩
  · exact List.IsPrefix.isInfix hafter
  · obtain rfl : c = '\n' := by simpa [startsLine] using hstart
    rw [List.concat_eq_append, List.append_assoc, List.singleton_append,
      List.splitOn_append_cons_self]
    exact List.IsInfix.trans (List.IsPrefix.isInfix hafter)
      (List.IsSuffix.isInfix (List.suffix_append _ _))

/-- A run of lines starts a line and ends one. -/
theorem exists_of_infix_splitOn (hls : ls ≠ []) (h : ls <:+: text.splitOn '\n') :
    ∃ before after, text = before ++ (['\n'].intercalate ls ++ after) ∧
      startsLine before.getLast? = true ∧ endsLine after = true := by
  obtain ⟨above, below, hlines⟩ := h
  have htext : text = (above.flatMap fun l => l ++ ['\n']) ++ ['\n'].intercalate (ls ++ below) := by
    have hne : ls ++ below ≠ [] := by simp [hls]
    rw [← intercalate_append '\n' above hne, ← List.append_assoc, hlines, List.intercalate_splitOn]
  cases below with
  | nil =>
    rw [List.append_nil] at htext
    exact ⟨_, [], by rw [List.append_nil]; exact htext, startsLine_flatMap above, rfl⟩
  | cons l below =>
    rw [intercalate_append '\n' ls (List.cons_ne_nil l below), flatMap_eq_intercalate '\n' hls,
      List.append_assoc, List.singleton_append] at htext
    exact ⟨_, _, htext, startsLine_flatMap above, rfl⟩

end RouteWatch.Text
