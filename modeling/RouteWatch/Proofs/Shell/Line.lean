import RouteWatch.Proofs.Items

/-!
# What a shell makes of a line

A POSIX shell cuts a line into words and into commands, and takes the quotes away. This is said here
for the lines that mean the same on every host: those without redirections, pipes, expansions and
patterns, and without reserved words and assignments in front of a command. Any other line is not
read at all.

The characters are taken one after the other, and what was read so far stands in a `Scan`. A word
never has more characters than the part of the line that it was read from, and it has as many only
if each of them stands for itself there.

* `Scan.run_after`: what was read before does not matter for what comes;
* `tokens?_append_blank`, `goesOn_blank`: two parts of a line with a blank between them;
* `Scan.total_run`, `isLiteral_of_length`: characters are lost unless they all stand for themselves;
* `commands?_operand_iff`: when a text is the only operand of a command that ends with it.
-/

namespace RouteWatch.Shell

/-! ## The reader -/

/-- A part of a line. -/
inductive Token where
  /-- A word, without its quotes. -/
  | word (cs : List Char)
  /-- The end of a command that has to be there. -/
  | semicolon
  /-- The end of a command, if there is one. -/
  | lineFeed
  deriving DecidableEq

/-- The word that the part is. -/
def Token.word? : Token → Option String
  | .word cs => some (String.ofList cs)
  | .semicolon | .lineFeed => none

/-- The quotes in which a character stands. -/
inductive Quotes where
  | none
  | single
  | double
  /-- After a backslash without quotes around it. -/
  | escaped
  /-- After a backslash in double quotes. -/
  | doubleEscaped
  deriving DecidableEq

/-- What a character means where it stands without quotes. -/
inductive Role where
  /-- It is a part of a word. -/
  | itself
  /-- It is a part of a word, but means something else at its start. -/
  | inner
  | blank
  | semicolon
  | lineFeed
  | singleQuote
  | doubleQuote
  | backslash
  /-- It stands for what is found or done on the host. -/
  | active
  deriving DecidableEq

/-- What the character means where it stands without quotes. -/
def role (c : Char) : Role :=
  match c with
  | ' ' | '\t' => .blank
  | ';' => .semicolon
  | '\n' => .lineFeed
  | '\'' => .singleQuote
  | '"' => .doubleQuote
  | '\\' => .backslash
  | '|' | '&' | '<' | '>' | '(' | ')' | '$' | '\x60' | '*' | '?' | '[' | '\x00' => .active
  | '~' | '#' => .inner
  | _ => .itself

/-- How far a line has been read. -/
structure Scan where
  /-- What is complete. -/
  tokens : List Token
  /-- The word so far, if one was begun. -/
  word? : Option (List Char)
  quotes : Quotes

namespace Scan

/-- Nothing has been read since the tokens. -/
def past (tokens : List Token) : Scan :=
  ⟨tokens, .none, .none⟩

/-- The characters of the word so far. -/
def chars (s : Scan) : List Char :=
  s.word?.getD []

/-- One more character of the word. -/
def push (s : Scan) (c : Char) : Scan :=
  { s with word? := some (s.chars ++ [c]) }

/-- The tokens if the word ends here. -/
def flushed (s : Scan) : List Token :=
  s.tokens ++ (s.word?.map Token.word).toList

/-- A character without quotes. -/
def bare (s : Scan) (c : Char) : Option Scan :=
  match role c with
  | .itself => some (s.push c)
  | .inner => if s.word?.isSome then some (s.push c) else none
  | .blank => some (past s.flushed)
  | .semicolon => some (past (s.flushed ++ [.semicolon]))
  | .lineFeed => some (past (s.flushed ++ [.lineFeed]))
  | .singleQuote => some { s with word? := some s.chars, quotes := .single }
  | .doubleQuote => some { s with word? := some s.chars, quotes := .double }
  | .backslash => some { s with quotes := .escaped }
  | .active => none

/-- A character in double quotes. -/
def inDouble (s : Scan) (c : Char) : Option Scan :=
  match c with
  | '"' => some { s with quotes := .none }
  | '\\' => some { s with quotes := .doubleEscaped }
  | '$' | '\x60' => none
  | c => some (s.push c)

/-- One more character. -/
def step (s : Scan) (c : Char) : Option Scan :=
  if c = '\x00' then none
  else
    match s.quotes with
    | .none => s.bare c
    | .single => some (if c = '\'' then { s with quotes := .none } else s.push c)
    | .double => s.inDouble c
    | .escaped =>
      let s := { s with quotes := .none }
      some (if c = '\n' then s else s.push c)
    | .doubleEscaped =>
      let s := { s with quotes := .double }
      some (if c = '\n' then s
        else if ['$', '\x60', '"', '\\'].contains c then s.push c
        else (s.push '\\').push c)

/-- All characters, one after the other. -/
def run (s : Scan) (cs : List Char) : Option Scan :=
  cs.foldlM step s

/-- The tokens, if no quote is open. -/
def finish? (s : Scan) : Option (List Token) :=
  if s.quotes = .none then some s.flushed else none

end Scan

/-- The tokens of the line. -/
def tokens? (line : String) : Option (List Token) := do
  (← (Scan.past []).run line.toList).finish?

/-- The words of a line within a command. -/
def words? (line : String) : Option (List String) := do
  (← tokens? line).mapM Token.word?

/-- The words that introduce something else than a command. -/
def reserved : List String :=
  ["!", "\x7b", "\x7d", "case", "do", "done", "elif", "else", "esac", "fi", "for", "if", "in",
    "then", "until", "while"]

/-- The word sets a variable if it stands in front of a command. -/
def isAssignment (word : String) : Bool :=
  let name := word.toList.takeWhile (· ≠ '=')
  word.toList.contains '=' && name.all (fun c => c.isAlphanum || c = '_') &&
    name.head?.any (!·.isDigit)

/-- The words are a command with its arguments. -/
def isCommand : List String → Bool
  | [] => false
  | word :: _ => !reserved.contains word && !isAssignment word

/-- The commands of the tokens, where the words belong to the first one. -/
def commandsAfter? (words : List String) : List Token → Option (List (List String))
  | [] => some (if words.isEmpty then [] else [words])
  | .word cs :: rest => commandsAfter? (words ++ [String.ofList cs]) rest
  | .semicolon :: rest =>
    if words.isEmpty then none else (commandsAfter? [] rest).map (words :: ·)
  | .lineFeed :: rest =>
    (commandsAfter? [] rest).map ((if words.isEmpty then [] else [words]) ++ ·)

/-- The commands that the line runs, one after the other. -/
def commands? (line : String) : Option (List (List String)) := do
  let commands ← commandsAfter? [] (← tokens? line)
  if commands.all isCommand then some commands else none

/-- The argument is an option, or ends the options. -/
def isOption (arg : String) : Bool :=
  arg.toList.head? = some '-' && arg ≠ "-"

/-- The arguments after the options. -/
def operands : List String → List String
  | [] => []
  | arg :: rest =>
    if arg = "--" then rest else if isOption arg then operands rest else arg :: rest

/-- The word is what it is, without quotes. -/
def IsLiteral (word : String) : Prop :=
  (∀ c ∈ word.toList, role c = .itself ∨ role c = .inner) ∧
    word.toList.head?.map role = some .itself

instance (word : String) : Decidable (IsLiteral word) :=
  @instDecidableAnd _ _ (word.toList.decidableBAll _) inferInstance

/-- The text is an operand as it stands: it means nothing else to the shell, and is no option. -/
def IsOperand (word : String) : Prop :=
  IsLiteral word ∧ ¬ isOption word

instance (word : String) : Decidable (IsOperand word) :=
  inferInstanceAs (Decidable (_ ∧ _))

namespace Scan

variable {s s' : Scan} {c : Char} {cs ds : List Char} {before : List Token}

/-! ## What was read before -/

theorem run_cons : s.run (c :: cs) = (s.step c).bind fun s' => s'.run cs :=
  List.foldlM_cons

theorem run_append : s.run (cs ++ ds) = (s.run cs).bind fun s' => s'.run ds :=
  List.foldlM_append

/-- The scan, with more tokens before it. -/
def after (before : List Token) (s : Scan) : Scan :=
  { s with tokens := before ++ s.tokens }

theorem flushed_after : (s.after before).flushed = before ++ s.flushed :=
  List.append_assoc ..

theorem past_after (tokens : List Token) : (past tokens).after before = past (before ++ tokens) :=
  rfl

theorem bare_after : (s.after before).bare c = (s.bare c).map (after before) := by
  unfold bare
  cases role c with
  | itself | singleQuote | doubleQuote | backslash | active => rfl
  | inner =>
    dsimp only
    rw [apply_ite (Option.map (after before))]
    rfl
  | blank | semicolon | lineFeed =>
    simp [flushed_after, past_after]

theorem inDouble_after : (s.after before).inDouble c = (s.inDouble c).map (after before) := by
  unfold inDouble
  split <;> rfl

theorem step_after : (s.after before).step c = (s.step c).map (after before) := by
  unfold step
  by_cases hnull : c = '\x00'
  · rw [if_pos hnull, if_pos hnull]
    rfl
  · rw [if_neg hnull, if_neg hnull]
    obtain ⟨tokens, word?, quotes⟩ := s
    cases quotes with
    | none => exact bare_after
    | double => exact inDouble_after
    | single | escaped =>
      dsimp only [after]
      split <;> rfl
    | doubleEscaped =>
      dsimp only [after]
      split
      · rfl
      · split <;> rfl

theorem run_after : (s.after before).run cs = (s.run cs).map (after before) := by
  induction cs generalizing s with
  | nil => rfl
  | cons c cs ih =>
    rw [run_cons, run_cons, step_after]
    cases s.step c with
    | none => rfl
    | some s' => exact ih

theorem finish?_after : (s.after before).finish? = s.finish?.map (before ++ ·) := by
  unfold finish?
  rw [flushed_after, apply_ite (Option.map (before ++ ·))]
  rfl

theorem finish?_eq_some_iff {tokens : List Token} :
    s.finish? = some tokens ↔ s.quotes = .none ∧ s.flushed = tokens := by
  simp [finish?]

end Scan

variable {line rest : String} {tokens : List Token} {words : List String}

theorem tokens?_eq_some_iff : tokens? line = some tokens ↔
    ∃ s, (Scan.past []).run line.toList = some s ∧ s.quotes = .none ∧ s.flushed = tokens := by
  rw [tokens?, Option.bind_eq_bind, Option.bind_eq_some_iff]
  simp only [Scan.finish?_eq_some_iff]

/-- After a character that ends a word, a line is read like one of its own. -/
theorem finish?_run_of_step {s : Scan} {mark : Char} {more : List Token}
    (hmark : s.step mark = some (.past (s.flushed ++ more))) (rest : String) :
    (s.run (mark :: rest.toList)).bind Scan.finish? =
      (tokens? rest).map (s.flushed ++ more ++ ·) := by
  have hpast : Scan.past (s.flushed ++ more) = (Scan.past []).after (s.flushed ++ more) := by
    rw [Scan.past_after, List.append_nil]
  unfold tokens?
  rw [Scan.run_cons, hmark, Option.bind_some, hpast, Scan.run_after]
  cases (Scan.past []).run rest.toList with
  | none => rfl
  | some s' => exact Scan.finish?_after

/-- Such a character may stand between two parts of a line. -/
theorem tokens?_append_of_step {mark : Char} {more : List Token}
    (hmark : ∀ s : Scan, s.quotes = .none → s.step mark = some (.past (s.flushed ++ more)))
    (h : tokens? line = some tokens) :
    tokens? (line ++ String.singleton mark ++ rest) =
      (tokens? rest).map (tokens ++ more ++ ·) := by
  obtain ⟨s, hrun, hquotes, rfl⟩ := tokens?_eq_some_iff.1 h
  rw [← finish?_run_of_step (hmark s hquotes), tokens?, String.toList_append, String.toList_append,
    String.toList_singleton, List.append_assoc, List.singleton_append, Scan.run_append, hrun]
  rfl

theorem Scan.step_blank {s : Scan} (hquotes : s.quotes = .none) :
    s.step ' ' = some (.past (s.flushed ++ [])) := by
  obtain ⟨tokens, word?, quotes⟩ := s
  subst hquotes
  rw [List.append_nil]
  rfl

theorem tokens?_append_blank (h : tokens? line = some tokens) :
    tokens? (line ++ " " ++ rest) = (tokens? rest).map (tokens ++ ·) := by
  have hsingle : String.singleton ' ' = " " := by decide
  rw [← hsingle, tokens?_append_of_step (fun _ => Scan.step_blank) h, List.append_nil]

theorem tokens?_append_semicolon (h : tokens? line = some tokens) :
    tokens? (line ++ ";" ++ rest) = (tokens? rest).map (tokens ++ [.semicolon] ++ ·) := by
  have hends : ∀ s : Scan, s.quotes = .none →
      s.step ';' = some (.past (s.flushed ++ [.semicolon])) := by
    rintro ⟨tokens, word?, quotes⟩ rfl
    rfl
  have hsingle : String.singleton ';' = ";" := by decide
  rw [← hsingle, tokens?_append_of_step hends h]

theorem words?_eq_some_iff :
    words? line = some words ↔ tokens? line = some (words.map fun w => .word w.toList) := by
  have hword : ∀ (t : Token) (w : String), t.word? = some w ↔ t = .word w.toList := by
    intro t w
    cases t with
    | word cs => simp [Token.word?, ← String.toList_inj]
    | semicolon | lineFeed => simp [Token.word?]
  have hwords : ∀ tokens, tokens.mapM Token.word? = some words ↔
      tokens = words.map fun w => .word w.toList := by
    intro tokens
    rw [mapM_eq_some_iff, ← List.forall₂_eq_eq_eq, List.forall₂_map_right_iff]
    simp only [hword]
  rw [words?, Option.bind_eq_bind, Option.bind_eq_some_iff]
  simp only [hwords, exists_eq_right]

/-- The text goes on with the words from any place within a command that is not within quotes. What was
read until then may be any tokens, and a word that ends here. -/
def GoesOn (text : String) (words : List String) : Prop :=
  ∀ s : Scan, s.quotes = .none →
    (s.run text.toList).bind Scan.finish? = some (s.flushed ++ words.map fun w => .word w.toList)

theorem goesOn_blank (h : words? rest = some words) : GoesOn (" " ++ rest) words := by
  intro s hquotes
  have hread := finish?_run_of_step (Scan.step_blank hquotes) rest
  rw [words?_eq_some_iff.1 h, List.append_nil] at hread
  rw [String.toList_append]
  exact hread

theorem words?_append_blank {more : List String} (h : words? line = some words)
    (hrest : words? rest = some more) : words? (line ++ " " ++ rest) = some (words ++ more) := by
  rw [words?_eq_some_iff] at h hrest ⊢
  rw [tokens?_append_blank h, hrest, List.map_append]
  rfl

theorem words?_intercalate_append {args more args' more' : List String}
    (h : words? (" ".intercalate args) = some args')
    (hmore : words? (" ".intercalate more) = some more') :
    words? (" ".intercalate (args ++ more)) = some (args' ++ more') := by
  by_cases hargs : args = []
  · subst hargs
    obtain rfl : [] = args' := Option.some.inj h
    exact hmore
  · by_cases hnone : more = []
    · subst hnone
      obtain rfl : [] = more' := Option.some.inj hmore
      rw [List.append_nil, List.append_nil]
      exact h
    · rw [String.intercalate_append_of_ne_nil hargs hnone]
      exact words?_append_blank h hmore

theorem words?_intercalate_cons {arg : String} {args args' : List String}
    (h : words? arg = some words) (hargs : words? (" ".intercalate args) = some args') :
    words? (" ".intercalate (arg :: args)) = some (words ++ args') := by
  rw [← List.singleton_append]
  apply words?_intercalate_append _ hargs
  rw [String.intercalate_singleton]
  exact h

/-! ## Characters that are lost -/

/-- The characters of the word, if the part is one. -/
def Token.chars : Token → List Char
  | .word cs => cs
  | .semicolon | .lineFeed => []

namespace Scan

variable {s s' : Scan} {c : Char} {cs : List Char}

/-- The number of characters that were kept. A backslash in double quotes may still be. -/
def total (s : Scan) : Nat :=
  (s.tokens.flatMap Token.chars).length + s.chars.length +
    if s.quotes = .doubleEscaped then 1 else 0

theorem total_push (s : Scan) (c : Char) : (s.push c).total = s.total + 1 := by
  have hlength : (s.push c).chars.length = s.chars.length + 1 := List.length_append
  unfold total
  rw [hlength, ← Nat.add_assoc, Nat.add_right_comm]
  rfl

theorem total_past_flushed (s : Scan) (mark : List Token) (hmark : mark.flatMap Token.chars = []) :
    (past (s.flushed ++ mark)).total ≤ s.total := by
  have hword : (s.word?.map Token.word).toList.flatMap Token.chars = s.chars := by
    unfold chars
    cases s.word? <;> simp [Token.chars]
  simp only [total, past, flushed, List.flatMap_append, hword, hmark, List.length_append]
  simp [chars]

/-- Without quotes, a character stands for itself or adds nothing. -/
theorem bare_cases (hquotes : s.quotes = .none) (h : s.bare c = some s') :
    (s' = s.push c ∧ (role c = .itself ∨ role c = .inner ∧ s.word?.isSome)) ∨
      s'.total ≤ s.total := by
  unfold bare at h
  cases hrole : role c <;> rw [hrole] at h <;> dsimp only at h
  case itself =>
    cases h
    exact .inl ⟨rfl, .inl rfl⟩
  case inner =>
    split at h
    next hbegun =>
      cases h
      exact .inl ⟨rfl, .inr ⟨rfl, hbegun⟩⟩
    next => cases h
  case blank =>
    cases h
    have hflushed := s.total_past_flushed [] rfl
    rw [List.append_nil] at hflushed
    exact .inr hflushed
  case semicolon | lineFeed =>
    cases h
    exact .inr (s.total_past_flushed _ rfl)
  case singleQuote | doubleQuote | backslash =>
    cases h
    exact .inr (by simp [total, hquotes, chars])
  case active => cases h

theorem total_inDouble (hquotes : s.quotes = .double) (h : s.inDouble c = some s') :
    s'.total ≤ s.total + 1 := by
  unfold inDouble at h
  split at h
  · cases h
    simp [total, hquotes, chars]
  · cases h
    simp [total, hquotes, chars]
  · cases h
  · cases h
  · cases h
    exact Nat.le_of_eq (total_push s c)

theorem total_step (h : s.step c = some s') : s'.total ≤ s.total + 1 := by
  unfold step at h
  split at h
  · cases h
  · split at h
    next hquotes =>
      rcases bare_cases hquotes h with ⟨rfl, -⟩ | hle
      · exact Nat.le_of_eq (total_push s c)
      · exact Nat.le_succ_of_le hle
    next hquotes =>
      split at h
      · cases h
        simp [total, hquotes, chars]
      · cases h
        exact Nat.le_of_eq (total_push s c)
    next hquotes => exact total_inDouble hquotes h
    next hquotes =>
      dsimp only at h
      split at h
      · cases h
        simp [total, hquotes, chars]
      · cases h
        rw [total_push]
        simp [total, hquotes, chars]
    next hquotes =>
      -- a backslash that escapes nothing between quotes goes onto the word with its character
      have hdouble : ({ s with quotes := .double } : Scan).total + 1 = s.total := by
        simp [total, hquotes, chars]
      dsimp only at h
      split at h
      · cases h
        omega
      · split at h
        · cases h
          rw [total_push]
          omega
        · cases h
          rw [total_push, total_push]
          omega

theorem total_run (h : s.run cs = some s') : s'.total ≤ s.total + cs.length := by
  induction cs generalizing s with
  | nil =>
    cases h
    exact Nat.le_refl _
  | cons c cs ih =>
    rw [run_cons] at h
    obtain ⟨next, hnext, hrun⟩ := Option.bind_eq_some_iff.1 h
    have hstep := total_step hnext
    have hrest := ih hrun
    rw [List.length_cons]
    omega

/-- If no character is lost, each stands for itself. -/
theorem ordinary_of_total (hquotes : s.quotes = .none) (h : s.run cs = some s')
    (htotal : s.total + cs.length ≤ s'.total) :
    (∀ c ∈ cs, role c = .itself ∨ role c = .inner) ∧
      (s.word? = none → ∀ c ∈ cs.head?, role c = .itself) := by
  induction cs generalizing s with
  | nil => simp
  | cons c cs ih =>
    rw [run_cons] at h
    obtain ⟨next, hnext, hrun⟩ := Option.bind_eq_some_iff.1 h
    have hrest := total_run hrun
    rw [List.length_cons] at htotal
    have hbare : s.bare c = some next := by
      unfold step at hnext
      rw [hquotes] at hnext
      split at hnext
      · cases hnext
      · exact hnext
    rcases bare_cases hquotes hbare with ⟨rfl, hrole⟩ | hlost
    · rw [total_push] at hrest
      have hothers := ih (s := s.push c) hquotes hrun (by rw [total_push]; omega)
      refine ⟨List.forall_mem_cons.2 ⟨hrole.imp_right And.left, hothers.1⟩, ?_⟩
      intro hbegins d hd
      obtain rfl : c = d := by simpa using hd
      rcases hrole with hrole | ⟨-, hbegun⟩
      · exact hrole
      · rw [hbegins] at hbegun
        cases hbegun
    · omega

theorem length_flushed_le (s : Scan) : (s.flushed.flatMap Token.chars).length ≤ s.total := by
  have hpast := s.total_past_flushed [] rfl
  rw [List.append_nil] at hpast
  exact Nat.le_trans (Nat.le_add_right _ _) hpast

/-! ## Characters that stand for themselves -/

theorem step_ordinary (hquotes : s.quotes = .none)
    (h : role c = .itself ∨ role c = .inner ∧ s.word?.isSome) : s.step c = some (s.push c) := by
  have hnull : c ≠ '\x00' := by
    rintro rfl
    rcases h with h | ⟨h, -⟩ <;> cases h
  unfold step
  rw [if_neg hnull, hquotes]
  unfold bare
  rcases h with h | ⟨h, hbegun⟩
  · rw [h]
  · rw [h]
    exact if_pos hbegun

theorem run_ordinary (hquotes : s.quotes = .none) (hbegun : s.word?.isSome)
    (h : ∀ c ∈ cs, role c = .itself ∨ role c = .inner) :
    s.run cs = some { s with word? := some (s.chars ++ cs) } := by
  induction cs generalizing s with
  | nil =>
    obtain ⟨tokens, word?, quotes⟩ := s
    obtain ⟨cs, rfl⟩ := Option.isSome_iff_exists.1 hbegun
    simp [run, chars]
  | cons c cs ih =>
    obtain ⟨hc, hcs⟩ := List.forall_mem_cons.1 h
    have hstep : s.step c = some (s.push c) :=
      step_ordinary hquotes (hc.imp_right fun hinner => ⟨hinner, hbegun⟩)
    rw [run_cons, hstep, Option.bind_some, ih (s := s.push c) hquotes rfl hcs]
    simp [push, chars]

end Scan

theorem words?_of_isLiteral {word : String} (h : IsLiteral word) : words? word = some [word] := by
  obtain ⟨hall, hfirst⟩ := h
  rw [words?_eq_some_iff, tokens?_eq_some_iff]
  cases hchars : word.toList with
  | nil =>
    rw [hchars] at hfirst
    cases hfirst
  | cons c cs =>
    rw [hchars] at hall hfirst
    have hstep := Scan.step_ordinary (s := .past []) rfl (.inl (Option.some.inj hfirst))
    refine ⟨⟨[], some (c :: cs), .none⟩, ?_, rfl, by simp [Scan.flushed, hchars]⟩
    rw [Scan.run_cons, hstep, Option.bind_some]
    exact Scan.run_ordinary (s := (Scan.past []).push c) rfl rfl fun d hd =>
      hall d (List.mem_cons_of_mem c hd)

theorem isLiteral_of_length (h : tokens? line = some tokens) (hne : line ≠ "")
    (hlength : line.toList.length ≤ (tokens.flatMap Token.chars).length) : IsLiteral line := by
  obtain ⟨s, hrun, hquotes, rfl⟩ := tokens?_eq_some_iff.1 h
  have htotal : (Scan.past []).total + line.toList.length ≤ s.total := by
    have hflushed := s.length_flushed_le
    have hnone : (Scan.past []).total = 0 := rfl
    omega
  obtain ⟨hall, hfirst⟩ := Scan.ordinary_of_total rfl hrun htotal
  refine ⟨hall, ?_⟩
  cases hchars : line.toList with
  | nil => exact absurd (String.toList_eq_nil_iff.1 hchars) hne
  | cons c cs =>
    rw [hchars] at hfirst
    exact congrArg some (hfirst rfl c rfl)

/-- A text that is one of its own words stands for itself. -/
theorem isLiteral_of_mem (h : tokens? line = some tokens)
    (hmem : line ∈ tokens.filterMap Token.word?) : IsLiteral line := by
  have hne : line ≠ "" := by
    rintro rfl
    cases h
    cases hmem
  obtain ⟨token, htoken, hword⟩ := List.mem_filterMap.1 hmem
  cases token with
  | word cs =>
    obtain rfl : String.ofList cs = line := Option.some.inj hword
    obtain ⟨before, rest, rfl⟩ := List.append_of_mem htoken
    refine isLiteral_of_length h hne ?_
    rw [String.toList_ofList, List.flatMap_append, List.flatMap_cons, List.length_append,
      List.length_append, Token.chars]
    omega
  | semicolon | lineFeed => cases hword

/-! ## Commands -/

theorem commands?_eq_some_iff {commands : List (List String)} : commands? line = some commands ↔
    ∃ tokens, tokens? line = some tokens ∧ commandsAfter? [] tokens = some commands ∧
      ∀ words ∈ commands, isCommand words := by
  have hall : ∀ found : List (List String),
      (if found.all isCommand then some found else none) = some commands ↔
        found = commands ∧ ∀ words ∈ commands, isCommand words := by
    intro found
    rw [ite_eq_iff, List.all_eq_true]
    constructor
    · rintro (⟨h, hsome⟩ | ⟨-, hnone⟩)
      · cases hsome
        exact ⟨rfl, h⟩
      · cases hnone
    · rintro ⟨rfl, h⟩
      exact .inl ⟨h, rfl⟩
  unfold commands?
  simp only [Option.bind_eq_bind, Option.bind_eq_some_iff, hall]
  constructor
  · rintro ⟨tokens, htokens, _, hcommands, rfl, hall⟩
    exact ⟨tokens, htokens, hcommands, hall⟩
  · rintro ⟨tokens, htokens, hcommands, hall⟩
    exact ⟨tokens, htokens, commands, hcommands, rfl, hall⟩

theorem flatten_commandsAfter? {commands : List (List String)}
    (h : commandsAfter? words tokens = some commands) :
    commands.flatten = words ++ tokens.filterMap Token.word? := by
  have hwords : ∀ words : List String,
      (if words.isEmpty then [] else [words]).flatten = words := by
    intro words
    cases words <;> simp
  induction tokens generalizing words commands with
  | nil =>
    cases h
    rw [hwords]
    simp
  | cons token tokens ih =>
    unfold commandsAfter? at h
    cases token with
    | word cs =>
      rw [ih h]
      simp [Token.word?]
    | semicolon =>
      dsimp only at h
      split at h
      · cases h
      · obtain ⟨more, hmore, rfl⟩ := Option.map_eq_some_iff.1 h
        rw [List.flatten_cons, ih hmore, List.nil_append]
        rfl
    | lineFeed =>
      obtain ⟨more, hmore, rfl⟩ := Option.map_eq_some_iff.1 h
      rw [List.flatten_append, hwords, ih hmore, List.nil_append]
      rfl

theorem commandsAfter?_words (words more : List String) (rest : List Token) :
    commandsAfter? words ((more.map fun w => .word w.toList) ++ rest) =
      commandsAfter? (words ++ more) rest := by
  induction more generalizing words with
  | nil => simp
  | cons w more ih =>
    rw [List.map_cons, List.cons_append, commandsAfter?, ih, String.ofList_toList,
      List.append_assoc]
    rfl

theorem isCommand_append {more : List String} (hne : words ≠ []) :
    isCommand (words ++ more) = isCommand words := by
  cases words with
  | nil => exact absurd rfl hne
  | cons word words => rfl

theorem ne_nil_of_isCommand (h : isCommand words) : words ≠ [] := by
  rintro rfl
  cases h

theorem commands?_of_words? (h : words? line = some words) (hcommand : isCommand words) :
    commands? line = some [words] := by
  have hafter := commandsAfter?_words [] words []
  rw [List.append_nil, List.nil_append, commandsAfter?,
    if_neg (by simp [ne_nil_of_isCommand hcommand])] at hafter
  exact commands?_eq_some_iff.2 ⟨_, words?_eq_some_iff.1 h, hafter, by simp [hcommand]⟩

/-- One command, and then those of the rest of the line. -/
theorem commands?_append_semicolon {commands : List (List String)} (h : words? line = some words)
    (hcommand : isCommand words) (hrest : commands? rest = some commands) :
    commands? (line ++ ";" ++ rest) = some (words :: commands) := by
  obtain ⟨tokens, htokens, hcommands, hall⟩ := commands?_eq_some_iff.1 hrest
  have hafter := commandsAfter?_words [] words (.semicolon :: tokens)
  rw [List.nil_append, commandsAfter?, if_neg (by simp [ne_nil_of_isCommand hcommand]),
    hcommands] at hafter
  refine commands?_eq_some_iff.2 ⟨_, ?_, hafter, List.forall_mem_cons.2 ⟨hcommand, hall⟩⟩
  rw [tokens?_append_semicolon (words?_eq_some_iff.1 h), htokens]
  simp

theorem operands_singleton (arg : String) : operands [arg] = [arg] ↔ ¬ isOption arg := by
  unfold operands
  by_cases hends : arg = "--"
  · subst hends
    simp
    decide
  · rw [if_neg hends]
    split
    next h => simp [h, operands]
    next h => simp [h]

theorem subset_operands (args : List String) : operands args ⊆ args := by
  induction args with
  | nil => exact List.Subset.refl _
  | cons arg rest ih =>
    unfold operands
    split
    · exact List.subset_cons_self arg rest
    · split
      · exact List.subset_cons_of_subset arg ih
      · exact List.Subset.refl _

/-- A text is the only operand of the command that ends with it, if it is one as it stands. -/
theorem commands?_operand_iff {name : String} (h : words? line = some words) (hne : words ≠ []) :
    (∃ args, commands? (line ++ " " ++ name) = some [words ++ args] ∧ operands args = [name]) ↔
      isCommand words ∧ IsOperand name := by
  constructor
  · rintro ⟨args, hcommands, hoperands⟩
    obtain ⟨tokens, htokens, hafter, hall⟩ := commands?_eq_some_iff.1 hcommands
    rw [tokens?_append_blank (words?_eq_some_iff.1 h)] at htokens
    obtain ⟨more, hmore, rfl⟩ := Option.map_eq_some_iff.1 htokens
    -- All words after those of the line were read from the text, which is one of them.
    have hargs : args = more.filterMap Token.word? := by
      rw [commandsAfter?_words] at hafter
      simpa using flatten_commandsAfter? hafter
    have hliteral : IsLiteral name := by
      refine isLiteral_of_mem hmore ?_
      rw [← hargs]
      exact subset_operands args (hoperands ▸ List.mem_singleton_self name)
    rw [words?_eq_some_iff.1 (words?_of_isLiteral hliteral)] at hmore
    cases hmore
    have hsingle : args = [name] := by simpa [Token.word?] using hargs
    rw [hsingle] at hoperands
    have hcommand := hall _ (List.mem_singleton_self _)
    rw [isCommand_append hne] at hcommand
    exact ⟨hcommand, hliteral, (operands_singleton name).1 hoperands⟩
  · rintro ⟨hcommand, hliteral, hoption⟩
    refine ⟨[name], ?_, (operands_singleton name).2 hoption⟩
    apply commands?_of_words? (words?_append_blank h (words?_of_isLiteral hliteral))
    rw [isCommand_append hne]
    exact hcommand

end RouteWatch.Shell
