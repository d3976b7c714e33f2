import RouteWatch.Toml.Token
import RouteWatch.Text.Search

/-!
# Numbers in TOML text

Digits may be separated by single underscores. Whole numbers have 64 bits; in base ten they may have
a sign but no zero in front of other digits. Other numbers must be finite.
-/

namespace RouteWatch.Toml.Number

/-- The digits at the start of a word after its sign, and the rest. `first` says that no digit came
before, and `line` that an underscore did. -/
def digitsFrom? (base : Nat) (first line : Bool) : List Char → Option (List Nat × List Char)
  | [] => if first || line then none else some ([], [])
  | c :: rest =>
    match Ip.digitValue? base c with
    | some d => (digitsFrom? base false false rest).map fun p => (d :: p.1, p.2)
    | none =>
      if c = '_' && !first && !line then digitsFrom? base false true rest
      else if first || line then none
      else some ([], c :: rest)

/-- A whole number at the start of a word, and the rest. -/
structure Whole where
  negative : Bool
  digits : List Nat
  rest : List Char

/-- The whole number at the start of a word. -/
def whole? (base : Nat) (signed leadingZeros : Bool) (word : List Char) : Option Whole := do
  let sign := if signed then word.head?.filter fun c => c == '-' || c == '+' else none
  let body := if sign.isSome then word.tail else word
  let (digits, rest) ← digitsFrom? base true false body
  if !leadingZeros && 1 < digits.length && digits.head? == some 0 then none
  return ⟨sign == some '-', digits, rest⟩

/-- The whole number that the word is. -/
def integer? (base : Nat) (word : List Char) : Option Int := do
  let w ← whole? base (base == 10) (base != 10) word
  let n : Int := Ip.numeral base w.digits
  let n := if w.negative then -n else n
  if w.rest.isEmpty && -9223372036854775808 ≤ n && n ≤ 9223372036854775807 then some n else none

/-- The number with these digits before an exponent of ten rounds to a finite one of 64 bits. -/
def isFinite (digits : List Nat) (exponent : Int) : Bool :=
  let n := Ip.numeral 10 digits
  let bound := 1 <<< 1024 - 1 <<< 970
  let size := (Nat.toDigits 10 n).length + exponent
  if n = 0 || size < 300 then true
  else if 320 < size then false
  else if exponent < 0 then n < bound * Nat.pow 10 exponent.natAbs
  else n * Nat.pow 10 exponent.toNat < bound

end RouteWatch.Toml.Number
