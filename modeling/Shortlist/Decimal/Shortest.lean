import Shortlist.Decimal.Binary

/-! # Shortest decimals

The decimal with the fewest digits that reads back as a given double, and the nearest of those. The
reals that read back form an interval around the double; the search tries the two neighbours of the
double on coarser to finer decimal grids and stops at the first grid with a hit.
-/

namespace Shortlist.Decimal

/-- The decimal `digits * 10 ^ exponent`. -/
structure Scientific where
  digits : Nat
  exponent : Int

/-- The reals that read back as `m * 2 ^ q`, in quarters of its last place: the ends belong to the
interval when `m` is even, and below a power of two the next double is twice as near. -/
structure Interval where
  middle : Nat
  low : Nat
  high : Nat
  closed : Bool

def Interval.around (m : Nat) (q : Int) : Interval :=
  let narrow := m = Nat.pow 2 52 ∧ -1074 < q
  ⟨4 * m, if narrow then 4 * m - 1 else 4 * m - 2, 4 * m + 2, m % 2 == 0⟩

/-- The best number of steps of the grid `10 ^ k` inside the interval, whose unit is `2 ^ p`. -/
def Interval.steps? (i : Interval) (p k : Int) : Option Nat :=
  let grid := Nat.pow 10 k.toNat * Nat.pow 2 (-p).toNat
  let unit := Nat.pow 2 p.toNat * Nat.pow 10 (-k).toNat
  let inside (d : Nat) : Bool :=
    if i.closed then i.low * unit ≤ d * grid && d * grid ≤ i.high * unit
    else i.low * unit < d * grid && d * grid < i.high * unit
  let below := i.middle * unit / grid
  let above := below + 1
  if inside below then
    if inside above then
      let down := i.middle * unit - below * grid
      let up := above * grid - i.middle * unit
      if up < down || (up = down && above % 2 = 0) then some above else some below
    else some below
  else if inside above then some above
  else none

/-- The first hit on the grids `10 ^ k`, `10 ^ (k - 1)`, …. -/
def Interval.search (i : Interval) (p : Int) : Nat → Int → Scientific
  | 0, k =>
    let unit := Nat.pow 2 p.toNat * Nat.pow 10 (-k).toNat
    ⟨i.middle * unit / (Nat.pow 10 k.toNat * Nat.pow 2 (-p).toNat), k⟩
  | grids + 1, k =>
    match i.steps? p k with
    | some d => ⟨d, k⟩
    | none => i.search p grids (k - 1)

/-- The shortest decimal of `m * 2 ^ q`. Seventeen digits always suffice; the first grid may be one
or two too coarse, which costs a step and hits nothing. -/
def shortest (m : Nat) (q : Int) : Scientific :=
  if m = 0 then ⟨0, 0⟩
  else
    let magnitude := (q + m.log2 + 1) * 30103
    (Interval.around m q).search (q - 2) 20 (magnitude.fdiv 100000 + 1)

end Shortlist.Decimal
