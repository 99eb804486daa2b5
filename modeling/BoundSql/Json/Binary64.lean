/-! Double-precision numbers, held as sign, mantissa and exponent. Every operation rounds its exact result
    to the nearest number and, halfway between two, to the one with the even mantissa. Reading a decimal
    text takes a few such operations, so that what is read need not be the number nearest to the text.
    Writing takes the fewest digits whose nearest number is the one written, and of those the nearest. -/

namespace BoundSql.Json

/-- The finite number `± mantissa · 2 ^ exponent`. A normal number has a mantissa of 53 bits; a
    smaller mantissa comes with the least exponent, -1074. -/
structure Binary64 where
  negative : Bool
  mantissa : Nat
  exponent : Int
deriving DecidableEq, Repr, Inhabited

namespace Binary64

def leastExponent : Int := -1074
def greatestExponent : Int := 971

/-! ### Reading -/

/-- `num / den` rounded to the nearest natural number, a half to the even neighbour. -/
def roundDiv (num den : Nat) : Nat :=
  let quotient := num / den
  let twice := 2 * (num % den)
  if twice < den then quotient
  else if den < twice then quotient + 1
  else quotient + quotient % 2

/-- The number nearest to `num / den`, for positive `den`; absent beyond the greatest. -/
def ofRatio? (negative : Bool) (num den : Nat) : Option Binary64 :=
  if num = 0 then some ⟨negative, 0, leastExponent⟩
  else
    let guess : Int := (num.log2 : Int) - (den.log2 : Int) - 53
    let scaled (e : Int) : Nat × Nat := (num * Nat.pow 2 (-e).toNat, den * Nat.pow 2 e.toNat)
    let (n, d) := scaled guess
    let e := max leastExponent (if n < d * Nat.pow 2 53 then guess else guess + 1)
    let (n, d) := scaled e
    let m := roundDiv n d
    let (m, e) := if m = Nat.pow 2 53 then (Nat.pow 2 52, e + 1) else (m, e)
    if greatestExponent < e then none else some ⟨negative, m, e⟩

/-- Numerator and denominator of the number without its sign. -/
def ratio (x : Binary64) : Nat × Nat :=
  (x.mantissa * Nat.pow 2 x.exponent.toNat, Nat.pow 2 (-x.exponent).toNat)

def mul? (x y : Binary64) : Option Binary64 :=
  let (n, d) := x.ratio
  let (n', d') := y.ratio
  ofRatio? (x.negative != y.negative) (n * n') (d * d')

/-- A quotient by a number other than zero. -/
def div? (x y : Binary64) : Option Binary64 :=
  let (n, d) := x.ratio
  let (n', d') := y.ratio
  ofRatio? (x.negative != y.negative) (n * d') (d * n')

/-- Beyond this one no power of ten is a number. -/
def greatestPower : Nat := 308

def powerOfTen? (power : Nat) : Option Binary64 := ofRatio? false (Nat.pow 10 power) 1

/-- So many divisions by the greatest power of ten, as long as anything is left. -/
def shrink? (x : Binary64) : Nat → Option Binary64
  | 0 => some x
  | steps + 1 => do
    if x.mantissa = 0 then return x
    shrink? (← div? x (← powerOfTen? greatestPower)) steps

/-- `x · 10 ^ power` by one multiplication or as few divisions as there are powers of ten for. -/
def scale? (x : Binary64) (power : Int) : Option Binary64 := do
  if x.mantissa = 0 then return x
  if greatestPower < power then none
  else if 0 ≤ power then mul? x (← powerOfTen? power.toNat)
  else
    let places := (-power).toNat
    div? (← shrink? x (places / greatestPower)) (← powerOfTen? (places % greatestPower))

/-- What is read for `digits · 10 ^ power`: the digits are rounded first, then scaled. -/
def ofDecimal? (negative : Bool) (digits : Nat) (power : Int) : Option Binary64 := do
  scale? (← ofRatio? negative digits 1) power

/-! ### Writing -/

/-- The factor of a multiple of `10 ^ power` that reads back as `mantissa · 2 ^ exponent`. The
    nearest multiple counts first, then its neighbours. -/
def onGrid? (mantissa : Nat) (exponent power : Int) : Option Nat :=
  let twos : Int := exponent - 2
  let scale := Nat.pow 2 twos.toNat * Nat.pow 10 (-power).toNat
  let unit := Nat.pow 2 (-twos).toNat * Nat.pow 10 power.toNat
  let value := 4 * mantissa * scale
  let gapBelow := if mantissa = Nat.pow 2 52 && leastExponent < exponent then 1 else 2
  let low := (4 * mantissa - gapBelow) * scale
  let high := (4 * mantissa + 2) * scale
  let readsBack (t : Nat) : Bool :=
    if mantissa % 2 = 0 then low ≤ t * unit && t * unit ≤ high
    else low < t * unit && t * unit < high
  let below := value / unit
  let above := below + 1
  let nearer := roundDiv value unit
  if readsBack nearer then some nearer
  else if readsBack below then some below
  else if readsBack above then some above
  else none

/-- Coarser grids come first, so the first hit has the fewest digits. -/
def shortestFrom (mantissa : Nat) (exponent : Int) : Nat → Int → Nat × Int
  | 0, power => (mantissa, power)
  | steps + 1, power =>
    match onGrid? mantissa exponent power with
    | some t => (t, power)
    | none => shortestFrom mantissa exponent steps (power - 1)

/-- Digits and power of ten of the shortest decimal that reads back as a positive number. The first
    grid is too coarse for more than one digit, and one of seventeen digits always has a hit, so
    that twenty-two grids are enough. -/
def shortest (mantissa : Nat) (exponent : Int) : Nat × Int :=
  let bits : Int := (mantissa.log2 : Int) + 1 + exponent
  shortestFrom mantissa exponent 22 (Int.fdiv (bits * 30103) 100000 + 1)

/-- The text of `digits · 10 ^ power`. With `d.ddd · 10 ^ e`, exponents from -5 to 15 are written
    out with at least one decimal, all others as `d.ddde+16`. -/
def decimalText (digits : Nat) (power : Int) : String :=
  let ds := Nat.toDigits 10 digits
  let e : Int := power + ds.length - 1
  let zeros (n : Nat) := List.replicate n '0'
  let chars :=
    if -5 ≤ e && e < 16 then
      if 0 ≤ power then ds ++ zeros power.toNat ++ ['.', '0']
      else if 0 ≤ e then ds.take (e.toNat + 1) ++ ['.'] ++ ds.drop (e.toNat + 1)
      else ['0', '.'] ++ zeros (-e - 1).toNat ++ ds
    else
      let point := if ds.length = 1 then ds else ds.take 1 ++ ['.'] ++ ds.drop 1
      point ++ ['e', if 0 ≤ e then '+' else '-'] ++ Nat.toDigits 10 e.natAbs
  String.ofList chars

def toText (x : Binary64) : String :=
  let (digits, power) := if x.mantissa = 0 then (0, 0) else shortest x.mantissa x.exponent
  (if x.negative then "-" else "") ++ decimalText digits power

end Binary64
end BoundSql.Json
