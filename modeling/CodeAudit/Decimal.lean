/-!
Decimal text of binary floating-point numbers: a fixed number of places computed on the exact
value, and the fewest digits that read back as the same number, written without an exponent.
-/
namespace CodeAudit.Decimal

/-- A finite number is `± mantissa · 2 ^ exponent`. -/
inductive Binary where
  | nan
  | infinite (negative : Bool)
  | finite (negative : Bool) (mantissa : Nat) (exponent : Int)
deriving DecidableEq, Repr

/-- The leading bit of a normal number, which is not stored. -/
def hiddenBit : Nat := 0x10000000000000

def Binary.ofFloat (x : Float) : Binary :=
  let bits := x.toBits.toNat
  let negative := bits >>> 63 == 1
  let biased : Nat := (bits >>> 52) % 2048
  let fraction := bits % hiddenBit
  if biased == 2047 then if fraction == 0 then .infinite negative else .nan
  else if biased == 0 then .finite negative fraction (-1074)
  else .finite negative (hiddenBit + fraction) ((biased : Int) - 1075)

/-- A quotient of natural numbers. -/
structure Quotient where
  num : Nat
  den : Nat

/-- `n · 2 ^ e`. -/
def Quotient.scaled (n : Nat) (e : Int) : Quotient :=
  if 0 ≤ e then ⟨n <<< e.toNat, 1⟩ else ⟨n, 1 <<< (-e).toNat⟩

def Quotient.tens (q : Quotient) (k : Int) : Quotient :=
  if 0 ≤ k then ⟨q.num * Nat.pow 10 k.toNat, q.den⟩ else ⟨q.num, q.den * Nat.pow 10 (-k).toNat⟩

/-- The nearest natural number; a half goes to the even neighbour. -/
def Quotient.roundEven (q : Quotient) : Nat :=
  let n := q.num / q.den
  let twice := 2 * (q.num % q.den)
  if twice < q.den then n
  else if q.den < twice then n + 1
  else if n % 2 == 0 then n else n + 1

def digits (n : Nat) : List Char := Nat.toDigits 10 n

def padLeft (width : Nat) (cs : List Char) : List Char :=
  List.replicate (width - cs.length) '0' ++ cs

/-- `n / 10 ^ places` with exactly that many places. -/
def withPlaces (places n : Nat) : List Char :=
  let cs := padLeft (places + 1) (digits n)
  if places == 0 then cs
  else cs.take (cs.length - places) ++ '.' :: cs.drop (cs.length - places)

def signed (negative : Bool) (cs : List Char) : String :=
  String.ofList (if negative then '-' :: cs else cs)

/-- Exactly `places` decimals of the exact value; there is none of infinities and NaN. -/
def fixed? (places : Nat) (x : Float) : Option String :=
  match Binary.ofFloat x with
  | .finite negative m e =>
    some (signed negative (withPlaces places ((Quotient.scaled m e).tens places).roundEven))
  | _ => none

/-- The reals that round to `m · 2 ^ e`, scaled by four: the ends belong to it iff `m` is even. -/
structure Interval where
  low : Nat
  mid : Nat
  high : Nat
  exponent : Int
  closed : Bool

def Interval.of (m : Nat) (e : Int) : Interval where
  low := if m == hiddenBit && e != -1074 then 4 * m - 1 else 4 * m - 2
  mid := 4 * m
  high := 4 * m + 2
  exponent := e - 2
  closed := m % 2 == 0

/-- Whether `d · 10 ^ k` lies in the interval. -/
def Interval.contains (i : Interval) (d : Nat) (k : Int) : Bool :=
  let low := (Quotient.scaled i.low i.exponent).tens (-k)
  let high := (Quotient.scaled i.high i.exponent).tens (-k)
  if i.closed then low.num ≤ d * low.den && d * high.den ≤ high.num
  else low.num < d * low.den && d * high.den < high.num

/-- The point of the grid `10 ^ k` that reads back, if there is one; of two the nearer, and the
larger of two equally near. -/
def Interval.onGrid? (i : Interval) (k : Int) : Option Nat :=
  let v := (Quotient.scaled i.mid i.exponent).tens (-k)
  let d := v.num / v.den
  match i.contains d k, i.contains (d + 1) k with
  | true, true => some (if 2 * (v.num % v.den) < v.den then d else d + 1)
  | true, false => some d
  | false, true => some (d + 1)
  | false, false => none

/-- The decimal exponent `k` with `10 ^ k ≤ v < 10 ^ (k + 1)`, searched downwards. -/
def magnitude (v : Quotient) : Nat → Int → Int
  | 0, k => k
  | fuel + 1, k =>
    let q := v.tens (-k)
    if q.den ≤ q.num then k else magnitude v fuel (k - 1)

/-- The first of the grids with one, two, … digits that has a point reading back. A point may be
the next power of ten, whose last zero is no digit. -/
def firstGrid (i : Interval) (top : Int) : Nat → Nat → Nat × Int
  | 0, _ => (0, 0)
  | fuel + 1, n =>
    let k := top - n
    match i.onGrid? k with
    | some d => if d % 10 == 0 then (d / 10, k + 1) else (d, k)
    | none => firstGrid i top fuel (n + 1)

/-- Fewest digits `d` and exponent `k` such that `d · 10 ^ k` reads back as `m · 2 ^ e`. -/
def shortestDigits (m : Nat) (e : Int) : Nat × Int :=
  let i := Interval.of m e
  let top := magnitude (Quotient.scaled m e) 700 330
  firstGrid i top 20 0

/-- `d · 10 ^ k` written without an exponent and without zeros at the end of its places. -/
def positional (d : Nat) (k : Int) : List Char :=
  if 0 ≤ k then digits d ++ List.replicate k.toNat '0'
  else withPlaces (-k).toNat d

/-- The fewest digits that read back, never with an exponent. -/
def shortest (x : Float) : String :=
  match Binary.ofFloat x with
  | .nan => "NaN"
  | .infinite negative => signed negative ['i', 'n', 'f']
  | .finite negative 0 _ => signed negative ['0']
  | .finite negative m e =>
    let (d, k) := shortestDigits m e
    signed negative (positional d k)

/-- `± mantissa · 10 ^ exponent` rounded to the nearest number. -/
def floatOf (negative : Bool) (mantissa : Nat) (exponent : Int) : Float :=
  let width : Int := (digits mantissa).length
  let magnitude :=
    if mantissa == 0 || exponent + width < -400 then 0.0
    else if 400 < exponent + width then 1.0 / 0.0
    else if 0 ≤ exponent then Float.ofScientific (mantissa * Nat.pow 10 exponent.toNat) false 0
    else Float.ofScientific mantissa true (-exponent).toNat
  if negative then -magnitude else magnitude

def digitsValue (cs : List Char) : Nat :=
  cs.foldl (fun n c => 10 * n + (c.toNat - '0'.toNat)) 0

/-- The exponent part of a number: nothing, or `e`, an optional sign and digits. -/
def exponent? : List Char → Option Int
  | [] => some 0
  | e :: rest =>
    if e = 'e' ∨ e = 'E' then
      let (negative, ds) := match rest with
        | '-' :: ds => (true, ds)
        | '+' :: ds => (false, ds)
        | ds => (false, ds)
      if ds.isEmpty || ds.any (fun c => !c.isDigit) then none
      else
        let n := if 9 < (ds.dropWhile (· == '0')).length then 999999999 else digitsValue ds
        some (if negative then -(n : Int) else n)
    else none

/-- Reads an unsigned decimal number: digits with an optional point, at least one digit, and an
optional exponent. -/
def unsigned? (negative : Bool) (cs : List Char) : Option Float :=
  let whole := cs.takeWhile Char.isDigit
  let rest := cs.dropWhile Char.isDigit
  let (fraction, rest) := match rest with
    | '.' :: more => (more.takeWhile Char.isDigit, more.dropWhile Char.isDigit)
    | other => ([], other)
  if whole.isEmpty && fraction.isEmpty then none
  else (exponent? rest).map fun e =>
    floatOf negative (digitsValue (whole ++ fraction)) (e - fraction.length)

/-- Reads a number with an optional sign; `inf`, `infinity` and `nan` are read in any case. -/
def float? (s : String) : Option Float :=
  let (negative, cs) := match s.toList with
    | '-' :: cs => (true, cs)
    | '+' :: cs => (false, cs)
    | cs => (false, cs)
  let word := String.ofList (cs.map Char.toLower)
  if word == "inf" || word == "infinity" then some (if negative then -(1.0 / 0.0) else 1.0 / 0.0)
  else if word == "nan" then some (0.0 / 0.0)
  else unsigned? negative cs

end CodeAudit.Decimal
