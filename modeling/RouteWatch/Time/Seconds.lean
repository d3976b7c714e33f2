import RouteWatch.Time.Span

/-!
# Seconds as binary fractions

Reports give a span in seconds as a binary fraction of 53 bits: the whole seconds and the rest are
rounded each, and then their sum. Its text is the shortest decimal that no other such fraction is
nearer to. The rounding shows: 1118 milliseconds are 1.1179999999999999 seconds.
-/

namespace RouteWatch.Seconds

/-- The whole number nearest to a quotient. A tie goes to the even one. -/
def roundDiv (num den : Nat) : Nat :=
  let q := num / den
  let r := num % den
  if 2 * r < den then q else if den < 2 * r then q + 1 else q + q % 2

/-- A number `mantissa * num / den`, where `num` and `den` are powers of two and one of them is 1. -/
structure Dyadic where
  mantissa : Nat
  /-- The factor of a large number. -/
  num : Nat
  /-- The divisor of a small number. -/
  den : Nat

/-- The binary fraction of 53 bits that is nearest to a quotient. -/
def Dyadic.nearest (num den : Nat) : Dyadic :=
  if num = 0 then ⟨0, 1, 1⟩
  else
    let up := 53 + den.log2 - num.log2
    let down := num.log2 - (53 + den.log2)
    let num' := num <<< up
    let den' := den <<< down
    if num' / den' < 1 <<< 53 then ⟨roundDiv num' den', 1 <<< down, 1 <<< up⟩
    else if 0 < up then ⟨roundDiv num' (2 * den'), 1, 1 <<< (up - 1)⟩
    else ⟨roundDiv num' (2 * den'), 1 <<< (down + 1), 1⟩

/-- The span in seconds. -/
def ofMillis (t : Millis) : Dyadic :=
  let whole := Dyadic.nearest (t / 1000) 1
  let rest := Dyadic.nearest (t % 1000) 1000
  Dyadic.nearest (whole.mantissa * whole.num * rest.den + rest.mantissa * rest.num * whole.den)
    (whole.den * rest.den)

/-- The least power of ten among the decimals that are tried. -/
def finest : Nat := 20

/-- A decimal `digits * 10 ^ (exponent - finest)`. -/
structure Digits where
  digits : Nat
  /-- The power of ten, counted from the finest one. -/
  exponent : Nat

/-- The multiple of the power of ten nearest to the number, if no other binary fraction is nearer to
it than the number is. -/
def Dyadic.onGrid? (x : Dyadic) (exponent : Nat) : Option Digits :=
  -- all in quarters of the last bit, as the next fraction below a power of two is half as far away
  let value := 4 * x.mantissa * x.num * Nat.pow 10 finest
  let unit := x.num * Nat.pow 10 finest
  let above := value + 2 * unit
  let below := value - (if x.mantissa = 1 <<< 52 then 1 else 2) * unit
  let step := 4 * x.den * Nat.pow 10 exponent
  let admits := fun n =>
    if x.mantissa % 2 = 0 then below ≤ n * step && n * step ≤ above
    else below < n * step && n * step < above
  let low := value / step
  let high := low + 1
  let nearest := roundDiv value step
  if admits nearest then some ⟨nearest, exponent⟩
  else if admits low then some ⟨low, exponent⟩
  else if admits high then some ⟨high, exponent⟩
  else none

/-- The first of the decimals on ever finer grids that the number admits. -/
def Dyadic.shortest (x : Dyadic) : Nat → Digits
  | 0 => (x.onGrid? 0).getD ⟨0, 0⟩
  | exponent + 1 => (x.onGrid? (exponent + 1)).getD (x.shortest exponent)

/-- Digits with a point before the last `places` of them, and with at least one on either side. -/
def pointed (digits : List Char) (places : Nat) : List Char :=
  let padded := List.replicate (places + 1 - digits.length) '0' ++ digits
  let whole := padded.take (padded.length - places)
  let rest := padded.drop (padded.length - places)
  whole ++ '.' :: (if rest.isEmpty then ['0'] else rest)

/-- The decimal in positional notation, or from 10 ^ 16 on with an exponent. -/
def Digits.chars (d : Digits) : List Char :=
  let digits := decimal d.digits
  let zeros := List.replicate (d.exponent - finest) '0'
  if digits.length + d.exponent ≤ finest + 16 then
    pointed (digits ++ zeros) (finest - d.exponent)
  else
    let rest := digits.tail
    digits.take 1 ++ (if rest.isEmpty then [] else '.' :: rest)
      ++ 'e' :: decimal (digits.length - 1 + d.exponent - finest)

/-- The span in seconds, as reports give it. -/
def text (t : Millis) : String :=
  if t = 0 then "0.0" else String.ofList ((ofMillis t).shortest (finest + 17)).chars

end RouteWatch.Seconds
