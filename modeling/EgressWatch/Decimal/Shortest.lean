import EgressWatch.Text.Digits

/-!
# Shortest decimals

The fewest decimal digits that still read back as a given binary floating-point number. A double is
`m · 2^q` (`Binary`), and the reals between the midpoints to its neighbours round to it, the
midpoints themselves exactly when `m` is even.

For one digit, two digits and so on (`search`) the two multiples of the grid's step next to the
number are tried (`onGrid`): the first grid that has one of them in the interval wins (`hits`), and
of two hits the nearer, or the even one of a tie. What wins may have been rounded up to a number
that ends in zeros, which are taken off (`stripZeros`).

All arithmetic is exact, on naturals: both ends of the interval are brought to one grid before they
are compared.
-/

namespace EgressWatch.Decimal

/-- A positive decimal number `digits · 10^exponent`. -/
structure Scaled where
  digits : Nat
  exponent : Int
  deriving DecidableEq, Repr

/-- A finite double without its sign: the number `m · 2^q`, and whether the number below it is only
half as far away as the number above. -/
structure Binary where
  m : Nat
  q : Int
  narrowBelow : Bool
  deriving Repr

namespace Binary

/-- The leading bit of a significand, which is not stored. -/
def hiddenBit : Nat := 4503599627370496

/-- The parts of a finite double. -/
def ofFloat (x : Float) : Binary :=
  let bits : Nat := x.toBits.toNat
  let power : Nat := bits / hiddenBit % 2048
  let fraction : Nat := bits % hiddenBit
  if power = 0 then ⟨fraction, -1074, false⟩
  else ⟨fraction + hiddenBit, (power : Int) - 1075, fraction == 0 && power != 1⟩

/-- Four times the lower end of the interval that rounds to the number, in units of `2^q`. -/
def low (b : Binary) : Nat := 4 * b.m - if b.narrowBelow then 1 else 2

/-- Four times the upper end of the interval that rounds to the number, in units of `2^q`. -/
def high (b : Binary) : Nat := 4 * b.m + 2

/-- Multiplier and divisor that take a quarter unit of the number to steps of `10^g`. -/
def toGrid (b : Binary) (g : Int) : Nat × Nat :=
  (Nat.pow 2 (b.q - 2).toNat * Nat.pow 10 (-g).toNat,
    Nat.pow 2 (2 - b.q).toNat * Nat.pow 10 g.toNat)

/-- The power of ten of the leading digit of the number, which must not be 0. -/
def magnitude (b : Binary) : Int :=
  let (up, down) := b.toGrid 0
  let v := 4 * b.m * up
  if down ≤ v then ((Text.digits (v / down)).length : Int) - 1
  else -((Text.digits ((down + v - 1) / v - 1)).length : Int)

/-- The multiple `c` of the step `10^g` rounds to the number. -/
def hits (b : Binary) (g : Int) (c : Nat) : Bool :=
  let (up, down) := b.toGrid g
  if b.m % 2 = 0 then b.low * up ≤ c * down && c * down ≤ b.high * up
  else b.low * up < c * down && c * down < b.high * up

/-- The multiple of the step `10^g` that rounds to the number, if one does: the nearer of two. -/
def onGrid (b : Binary) (g : Int) : Option Nat :=
  let (up, down) := b.toGrid g
  let v := 4 * b.m * up
  let c := v / down
  match b.hits g c, b.hits g (c + 1) with
  | false, false => none
  | true, false => some c
  | false, true => some (c + 1)
  | true, true =>
    let below := v - c * down
    let above := (c + 1) * down - v
    if below < above ∨ (below = above ∧ c % 2 = 0) then some c else some (c + 1)

/-- The first hit on the grids of `count` digits and more, of which `fuel` are tried. -/
def search (b : Binary) (top : Int) : Nat → Nat → Option (Nat × Int)
  | 0, _ => none
  | fuel + 1, count =>
    let g := top + 1 - count
    match b.onGrid g with
    | some c => some (c, g)
    | none => search b top fuel (count + 1)

end Binary

/-- Takes the zeros off the end of the digits, at most `fuel` of them. -/
def stripZeros : Nat → Scaled → Scaled
  | 0, d => d
  | fuel + 1, d =>
    if d.digits % 10 = 0 then stripZeros fuel ⟨d.digits / 10, d.exponent + 1⟩ else d

/-- The shortest decimal of a finite double other than 0, without its sign. Seventeen digits tell
all doubles apart, so the search does not fail. -/
def shortest (x : Float) : Scaled :=
  let b := Binary.ofFloat x
  match b.search b.magnitude 17 1 with
  | some (c, g) => stripZeros 17 ⟨c, g⟩
  | none => ⟨b.m, b.q⟩

end EgressWatch.Decimal
