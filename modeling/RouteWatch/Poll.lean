import RouteWatch.Time.Timed

/-!
# Polling

A poll makes attempts, one each interval, until one is ready or the timeout has passed. The last
attempt starts at the deadline itself, and each attempt is cut off when the remaining time is over,
but gets at least one interval. `poll` returns the history of the attempts; what a caller wants to
know about a poll is read off it.
-/

namespace RouteWatch

namespace Poll

/-- How often and for how long to try. -/
structure Settings where
  /-- The time from the start of an attempt to the start of the next one. -/
  interval : Millis
  /-- The time after which no attempt starts. -/
  timeout : Millis
  deriving DecidableEq

namespace Settings

def ofSeconds (interval timeout : Nat) : Settings :=
  ⟨1000 * interval, 1000 * timeout⟩

/-- For a routing session to be established. -/
def neighbor : Settings := ofSeconds 5 30

/-- For routes to spread across the full mesh. -/
def routePropagation : Settings := ofSeconds 15 120

/-- For an egress address to move to another node. -/
def failover : Settings := ofSeconds 10 360

/-- For an object to be declared while the cluster may still refuse it. -/
def resourceCreate : Settings := ofSeconds 5 20

/-- For an object to reach a condition. -/
def resourceCondition : Settings := ofSeconds 5 30

/-- For pods to be ready. -/
def podsReady : Settings := ofSeconds 5 300

/-- For a cluster operator to roll out a change. -/
def operatorRollout : Settings := ofSeconds 30 1080

/-- The number of attempts without an interval between them that may take no time at all. Such a
poll need not end by itself. -/
def maxIdle : Nat := 65536

/-- A number of attempts that no poll with an interval reaches. -/
def maxTries (s : Settings) : Nat :=
  if s.interval = 0 then s.timeout + 2 + maxIdle else s.timeout / s.interval + 2

end Settings

/-- What an attempt finds. -/
inductive Attempt (ο α : Type) where
  | ready (a : α)
  /-- It is not there; this is what there is instead. -/
  | pending (o : ο)

/-- How an attempt ended. -/
inductive Result (ε ο α : Type) where
  /-- It found what is awaited. -/
  | ready (a : α)
  /-- It found something else. -/
  | pending (o : ο)
  | failed (e : ε)
  /-- It was cut off. -/
  | unfinished

/-- An attempt that was made. -/
structure Try (ε ο α : Type) where
  /-- Its number, counted from 1. -/
  number : Nat
  start : Millis
  /-- For how long it was allowed to run. -/
  budget : Millis
  finish : Millis
  result : Result ε ο α

/-- The attempts of a poll. -/
structure History (ε ο α : Type) where
  start : Millis
  tries : List (Try ε ο α)

variable {σ ε ο α : Type}

/-- How an attempt ended that gave this by the end of its budget. -/
def Result.of : Option (Except ε (Attempt ο α)) → Result ε ο α
  | some (.ok (.ready a)) => .ready a
  | some (.ok (.pending o)) => .pending o
  | some (.error e) => .failed e
  | none => .unfinished

/-- The attempt with this number, made now. -/
def tryOnce (s : Settings) (deadline : Millis) (attempt : Action σ ε (Attempt ο α))
    (number : Nat) : Timed σ (Try ε ο α) := do
  let start ← Timed.now
  -- an attempt that starts just before the deadline still has an interval
  let budget := max (deadline - start) s.interval
  let outcome ← Timed.within budget attempt.run
  return { number, start, budget, finish := ← Timed.now, result := .of outcome }

/-- The attempts from this number on. -/
def triesFrom (s : Settings) (deadline : Millis) (attempt : Action σ ε (Attempt ο α)) :
    (fuel : Nat) → (number : Nat) → Timed σ (List (Try ε ο α))
  | 0, _ => return []
  | fuel + 1, number => do
    let t ← tryOnce s deadline attempt number
    match t.result with
    | .ready _ => return [t]
    | _ =>
      if deadline ≤ t.finish then return [t]
      else
        -- an attempt that outlasts the interval is followed at once
        Timed.waitUntil (min (t.start + s.interval) deadline)
        return t :: (← triesFrom s deadline attempt fuel (number + 1))

namespace History

def attempts (h : History ε ο α) : Nat :=
  h.tries.length

/-- The time from the start of the poll to the end of its last attempt. -/
def elapsed (h : History ε ο α) : Millis :=
  (h.tries.getLast?.elim h.start (·.finish)) - h.start

/-- What the poll waited for, if it found it. -/
def value? (h : History ε ο α) : Option α :=
  h.tries.findSome? fun t =>
    match t.result with
    | .ready a => some a
    | _ => none

/-- What the last attempt found that found something else. -/
def lastObservation? (h : History ε ο α) : Option ο :=
  h.tries.reverse.findSome? fun t =>
    match t.result with
    | .pending o => some o
    | _ => none

/-- Why the last attempt failed that failed or was cut off. -/
def lastError? (message : ε → String) (h : History ε ο α) : Option String :=
  h.tries.reverse.findSome? fun t =>
    match t.result with
    | .failed e => some (message e)
    | .unfinished => some s!"attempt {t.number} did not finish within {t.budget.text}"
    | _ => none

end History

end Poll

open Poll in
/-- The attempts of a poll that starts now. -/
def poll {σ ε ο α : Type} (s : Settings) (attempt : Action σ ε (Attempt ο α)) :
    Timed σ (History ε ο α) := do
  let start ← Timed.now
  return { start, tries := ← triesFrom s (start + s.timeout) attempt s.maxTries 1 }

namespace Poll

/-- A poll that found what it waited for. -/
structure Polled (α : Type) where
  value : α
  /-- The number of attempts, with the last one. -/
  attempts : Nat
  elapsed : Millis

/-- A poll that did not find what it waited for. -/
structure TimedOut (ο : Type) where
  what : String
  attempts : Nat
  elapsed : Millis
  /-- What it found instead at last. -/
  lastObservation : Option ο
  /-- Why an attempt failed at last. -/
  lastError : Option String

/-- That the poll gave up, in words. -/
def TimedOut.message (t : TimedOut ο) : String :=
  s!"Timeout while waiting for {t.what} after {t.attempts} attempts ({t.elapsed.text})"

/-- The last thing that the poll saw. An observation tells more than an error. -/
def TimedOut.last (describe : ο → String) (t : TimedOut ο) : String :=
  match t.lastObservation, t.lastError with
  | some o, _ => describe o
  | none, some e => e
  | none, none => "nothing observed"

/-- How a poll went that waited for this. -/
def History.outcome (what : String) (message : ε → String) (h : History ε ο α) :
    Except (TimedOut ο) (Polled α) :=
  match h.value? with
  | some value => .ok { value, attempts := h.attempts, elapsed := h.elapsed }
  | none => .error {
      what, attempts := h.attempts, elapsed := h.elapsed
      lastObservation := h.lastObservation?, lastError := h.lastError? message }

end Poll

end RouteWatch
