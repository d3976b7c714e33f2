import RouteWatch.Text.Search

/-!
# Places in a text

A place in a text is seen as the character before it, if there is one, and what follows it. The
functions here ask whether some place has a property: any place, a place on the same line, or the
start of a line. The `iff` lemmas say so in terms of the two parts of the text.
-/

namespace RouteWatch.Text

/-- The character before a place that `cs` lead to, where `prev` stands before them. -/
def lastOr (prev : Option Char) (cs : List Char) : Option Char :=
  cs.getLast?.or prev

@[simp] theorem lastOr_nil (prev : Option Char) : lastOr prev [] = prev := rfl

@[simp] theorem lastOr_cons (prev : Option Char) (c : Char) (cs : List Char) :
    lastOr prev (c :: cs) = lastOr (some c) cs := by
  cases cs <;> simp [lastOr, List.getLast?_cons]

/-- Some place of the text passes the test to which only such characters lead. -/
def someplace (leads : Char → Bool) (test : Option Char → List Char → Bool) (prev : Option Char) :
    List Char → Bool
  | [] => test prev []
  | c :: rest => test prev (c :: rest) || leads c && someplace leads test (some c) rest

theorem someplace_iff {leads : Char → Bool} {test : Option Char → List Char → Bool}
    {prev : Option Char} {text : List Char} :
    someplace leads test prev text = true ↔
      ∃ before rest, text = before ++ rest ∧ (∀ c ∈ before, leads c = true) ∧
        test (lastOr prev before) rest = true := by
  induction text generalizing prev with
  | nil => simp [someplace, and_assoc]
  | cons c text ih =>
    simp only [someplace, Bool.or_eq_true, Bool.and_eq_true, ih]
    constructor
    · rintro (h | ⟨hc, before, rest, rfl, hbefore, h⟩)
      · exact ⟨[], c :: text, rfl, by simp, h⟩
      · exact ⟨c :: before, rest, rfl, List.forall_mem_cons.2 ⟨hc, hbefore⟩, by simpa using h⟩
    · rintro ⟨before, rest, h, hbefore, ht⟩
      cases before with
      | nil => obtain rfl := h; exact .inl ht
      | cons b before =>
        simp only [List.cons_append, List.cons.injEq] at h
        obtain ⟨rfl, rfl⟩ := h
        obtain ⟨hc, hbefore⟩ := List.forall_mem_cons.1 hbefore
        exact .inr ⟨hc, before, rest, rfl, hbefore, by simpa using ht⟩

variable {test : Option Char → List Char → Bool} {prev : Option Char} {text : List Char}

/-- Some place of the text passes the test. -/
def anywhere (test : Option Char → List Char → Bool) (prev : Option Char) (text : List Char) : Bool :=
  someplace (fun _ => true) test prev text

theorem anywhere_iff :
    anywhere test prev text = true ↔
      ∃ before rest, text = before ++ rest ∧ test (lastOr prev before) rest = true := by
  simp [anywhere, someplace_iff]

/-- Some place of the text passes the test that is not after a line feed in it. -/
def alongLine (test : Option Char → List Char → Bool) (prev : Option Char) (text : List Char) : Bool :=
  someplace (· != '\n') test prev text

theorem alongLine_iff :
    alongLine test prev text = true ↔
      ∃ before rest, text = before ++ rest ∧ '\n' ∉ before ∧
        test (lastOr prev before) rest = true := by
  have hline : ∀ before : List Char, (∀ c ∈ before, (c != '\n') = true) ↔ '\n' ∉ before := by
    intro before
    simp only [bne_iff_ne]
    exact ⟨fun h hmem => h _ hmem rfl, fun h c hc heq => h (heq ▸ hc)⟩
  simp only [alongLine, someplace_iff, hline]

/-- The place is the start of a line. -/
def startsLine (prev : Option Char) : Bool :=
  prev.all (· == '\n')

end RouteWatch.Text
