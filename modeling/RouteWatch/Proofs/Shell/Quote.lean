import RouteWatch.Proofs.Shell.Line
import RouteWatch.Shell.Quote

/-!
# What a shell makes of quoted arguments

Quoted arguments with single blanks between them are read as they were. An argument that is left
bare stands for itself. In any other one the quotes are open from its first character to its last,
but for each single quote of its own, for which they are closed and opened again.
-/

namespace RouteWatch.Shell

theorem role_of_isPlain {c : Char} (h : isPlain c) : role c = .itself := by
  unfold role
  split <;> first
    | rfl
    | exact absurd h (by decide)

theorem isLiteral_of_isPlain {word : String} (hne : word.toList ≠ [])
    (h : ∀ c ∈ word.toList, isPlain c) : IsLiteral word := by
  refine ⟨fun c hc => .inl (role_of_isPlain (h c hc)), ?_⟩
  obtain ⟨c, cs, hchars⟩ := List.exists_cons_of_ne_nil hne
  rw [hchars] at h ⊢
  exact congrArg some (role_of_isPlain (h c List.mem_cons_self))

/-- Within the quotes, each character of the argument is one of the word. -/
theorem run_quotedChars {tokens : List Token} {word cs : List Char} (h : '\x00' ∉ cs) :
    Scan.run ⟨tokens, some word, .single⟩ (quotedChars cs) =
      some ⟨tokens, some (word ++ cs), .single⟩ := by
  induction cs generalizing word with
  | nil => simp [quotedChars, Scan.run]
  | cons c cs ih =>
    obtain ⟨hc, hcs⟩ := List.ne_and_not_mem_of_not_mem_cons h
    have hchar : Scan.run ⟨tokens, some word, .single⟩
        (if c = '\'' then ['\'', '\\', '\'', '\''] else [c]) =
          some ⟨tokens, some (word ++ [c]), .single⟩ := by
      by_cases hquote : c = '\''
      · subst hquote
        rfl
      · simp [hquote, Scan.run, Scan.step, Scan.push, Scan.chars, Ne.symm hc]
    have hcons : quotedChars (c :: cs) =
        (if c = '\'' then ['\'', '\\', '\'', '\''] else [c]) ++ quotedChars cs := rfl
    rw [hcons, Scan.run_append, hchar, Option.bind_some, ih hcs, List.append_assoc,
      List.singleton_append]

theorem words?_quote {arg : String} (h : '\x00' ∉ arg.toList) :
    words? (quote arg) = some [arg] := by
  unfold quote quoteOf
  split
  next hplain =>
    rw [Bool.and_eq_true, List.all_eq_true] at hplain
    rw [String.ofList_toList]
    exact words?_of_isLiteral (isLiteral_of_isPlain (by simpa using hplain.1) hplain.2)
  next =>
    rw [words?_eq_some_iff, tokens?_eq_some_iff, String.toList_ofList]
    refine ⟨⟨[], some arg.toList, .none⟩, ?_, rfl, rfl⟩
    have hopen : (Scan.past []).step '\'' = some ⟨[], some [], .single⟩ := rfl
    rw [List.cons_append, Scan.run_cons, hopen, Option.bind_some, Scan.run_append,
      run_quotedChars h]
    rfl

/-- The blanks between quoted arguments are the only ones that separate words. -/
theorem words?_quoted_args {args : List String} (h : ∀ arg ∈ args, '\x00' ∉ arg.toList) :
    words? (" ".intercalate (args.map quote)) = some args := by
  induction args with
  | nil => rfl
  | cons arg args ih =>
    obtain ⟨harg, hargs⟩ := List.forall_mem_cons.1 h
    exact words?_intercalate_cons (words?_quote harg) (ih hargs)

end RouteWatch.Shell
