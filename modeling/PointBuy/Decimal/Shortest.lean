import PointBuy.Decimal.Power

/-!
# Shortest decimals

Every finite binary number is the nearest one to a whole interval of reals. Of the decimals in that
interval the ones with the fewest digits are its shortest decimals, and of those the nearest to the
number itself identifies it. Everything is computed on integers: the number is `m * 2 ^ q`, and
its interval is given in quarters of `2 ^ q`.
-/

namespace PointBuy

/-- The positive number `digits * 10 ^ exponent`. -/
structure Decimal where
  digits : Nat
  exponent : Int
deriving DecidableEq, Inhabited

namespace Decimal

/-- A positive binary number `m * 2 ^ q` with the ends of its interval, in quarters of `2 ^ q`. -/
structure Binary where
  m : Nat
  q : Int
  /-- Quarters below which another number is nearer. -/
  low : Nat
  /-- Quarters above which another number is nearer. -/
  high : Nat
  /-- Whether the ends themselves still belong to the number. -/
  closed : Bool

/-- The magnitude of a finite number that is not zero. -/
def Binary.ofFloat (x : Float) : Binary :=
  let bits : Nat := x.toBits.toNat
  let fraction : Nat := bits % twoTo 52
  let scale : Nat := bits / twoTo 52 % twoTo 11
  let m : Nat := if scale = 0 then fraction else fraction + twoTo 52
  let q : Int := if scale = 0 then -1074 else (scale : Int) - 1075
  let below : Nat := if fraction = 0 && 1 < scale then 1 else 2
  ⟨m, q, 4 * m - below, 4 * m + 2, m % 2 == 0⟩

/-- Compares `a * 10 ^ e` with `b * 2 ^ q`. -/
def comparePowers (a : Nat) (e : Int) (b : Nat) (q : Int) : Ordering :=
  compare (a * tenTo e.toNat * twoTo (-q).toNat) (b * twoTo q.toNat * tenTo (-e).toNat)

/-- Whether `a * 10 ^ e` lies in the interval of a binary number. -/
def Binary.holds (b : Binary) (a : Nat) (e : Int) : Bool :=
  let aboveLow := comparePowers a e b.low (b.q - 2)
  let belowHigh := comparePowers a e b.high (b.q - 2)
  (aboveLow == .gt && belowHigh == .lt) || (b.closed && (aboveLow == .eq || belowHigh == .eq))

/-- The quotient of a binary number by `10 ^ e`, rounded down. -/
def Binary.floorAt (b : Binary) (e : Int) : Nat :=
  b.m * twoTo b.q.toNat * tenTo (-e).toNat / (tenTo e.toNat * twoTo (-b.q).toNat)

/-- The exponent of the leading decimal digit. -/
def Binary.leading (b : Binary) : Int :=
  let whole := b.floorAt 0
  if whole ≠ 0 then ((Nat.toDigits 10 whole).length : Int) - 1
  else
    let places : Nat := ((List.range 400).find? fun (j : Nat) => b.floorAt (-(j : Int)) ≠ 0).getD 0
    0 - (places : Int)

/-- The neighbour of a binary number on the grid of multiples of `10 ^ e` that lies in its interval;
of two the nearer one, of two equally near the even one. -/
def Binary.onGrid? (b : Binary) (e : Int) : Option Nat :=
  let down := b.floorAt e
  let up := down + 1
  match b.holds down e, b.holds up e with
  | true, false => some down
  | false, true => some up
  | false, false => none
  | true, true =>
    match comparePowers (2 * down + 1) e (2 * b.m) b.q with
    | .gt => some down
    | .lt => some up
    | .eq => some (if down % 2 = 0 then down else up)

/-- Moves the trailing zeros of the digits into the exponent. -/
def strip : Nat → Decimal → Decimal
  | 0, d => d
  | fuel + 1, d =>
    if d.digits ≠ 0 && d.digits % 10 == 0 then strip fuel ⟨d.digits / 10, d.exponent + 1⟩ else d

/-- The shortest decimal of a finite number that is not zero; the sign is dropped. -/
def ofFloat (x : Float) : Decimal :=
  let b := Binary.ofFloat x
  let grids := (List.range 17).map fun (n : Nat) => b.leading - (n : Int)
  match grids.findSome? fun e => (b.onGrid? e).map fun digits => (⟨digits, e⟩ : Decimal) with
  | some d => strip 20 d
  | none => ⟨b.floorAt (b.leading - 16), b.leading - 16⟩

end Decimal
end PointBuy
