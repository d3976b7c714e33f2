import RouteWatch.LabSampling
import RouteWatch.Poll

/-!
# Scripted attempts and samples

Two small worlds for polling. In one, each attempt does what the next entry of a script says. In the
other, samples are what a script says that they are by then. Both keep what they were asked.
-/

namespace RouteWatch.Simulation

/-- What a scripted attempt does: it takes a while and then ends like this. -/
structure AttemptEntry (α : Type) where
  delay : Millis
  result : Except String (Poll.Attempt String α)

/-- The attempts of a script, the last of which is repeated. -/
structure AttemptScript (α : Type) where
  first : AttemptEntry α
  others : List (AttemptEntry α)

/-- What the attempt with this index does. -/
def AttemptScript.entry {α : Type} (s : AttemptScript α) : Nat → AttemptEntry α
  | 0 => s.first
  | i + 1 => (s.others[i]?).getD (s.others.getLast?.getD s.first)

/-- One attempt. The world keeps when each of them started. -/
def AttemptScript.attempt {α : Type} (s : AttemptScript α) :
    Action (List Millis) String (Poll.Attempt String α) := do
  let entry ← Action.time <| Timed.act fun now starts => (s.entry starts.length, starts ++ [now])
  Action.time (Timed.wait entry.delay)
  Action.ofExcept entry.result

/-- What a sample is from some moment on. -/
structure SampleEntry where
  target : Target
  query : Query
  /-- The moment from which this holds. -/
  since : Millis
  delay : Millis
  /-- The text, unless the sample cannot be taken. -/
  text : Option String

/-- A sample that was asked for. -/
structure SampleCall where
  at_ : Millis
  target : Target
  query : Query

/-- The last entry about the sample that holds by now. -/
def entryFor? (script : List SampleEntry) (now : Millis) (target : Target) (query : Query) :
    Option SampleEntry :=
  script.reverse.find? fun e => e.target == target && e.query == query && e.since ≤ now

/-- The sampler that follows a script. The world keeps what was asked for. -/
def scriptedSampler (script : List SampleEntry) : Sampler (List SampleCall) SampleError :=
  fun target query => do
    let entry ← Action.time <| Timed.act fun now calls =>
      (entryFor? script now target query, calls ++ [⟨now, target, query⟩])
    Action.time (Timed.wait (entry.elim 0 (·.delay)))
    match entry.bind (·.text) with
    | some text => return ⟨target, query.command.text, text⟩
    | none => throw (.unknownTarget target)

end RouteWatch.Simulation
