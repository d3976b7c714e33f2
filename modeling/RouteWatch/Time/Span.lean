import RouteWatch.Ip.Printer

/-!
# Spans of time

Time is counted in whole milliseconds. A message shows a span in seconds from one second on, and in
milliseconds below, with as many decimals as it has.
-/

namespace RouteWatch

/-- A clock reading or a span, in milliseconds. -/
abbrev Millis := Nat

namespace Millis

/-- The thousandths in decimal, without the zeros at their end. -/
def fraction (n : Nat) : List Char :=
  let digits := [n / 100 % 10, n / 10 % 10, n % 10]
  (digits.reverse.dropWhile (· == 0)).reverse.map Nat.digitChar

/-- The span as messages show it. -/
def text (t : Millis) : String :=
  if t = 0 then "0ns"
  else if t < 1000 then s!"{t}ms"
  else
    let decimals := fraction (t % 1000)
    let point := if decimals.isEmpty then [] else '.' :: decimals
    String.ofList (decimal (t / 1000) ++ point ++ ['s'])

/-- The whole seconds of the span. -/
def seconds (t : Millis) : Nat :=
  t / 1000

end Millis

end RouteWatch
