import Conveyor.Number.Binary64

/-!
The shortest decimal of a binary64 number: among all decimals that read back as the number, one on
the coarsest grid of powers of ten, and on that grid the one nearest to the number. Only an exact
tie between two such decimals is left open, so it is a parameter. All arithmetic is on natural
numbers: at grid `10 ^ exponent` both the number and the bounds of the interval of reals that round
to it are integer multiples of one unit.
-/

namespace Conveyor

/-- A positive decimal `digits · 10 ^ exponent`. -/
structure Decimal where
  digits : Nat
  exponent : Int
  deriving DecidableEq, Repr

/-- Which of two equally near decimals is taken. -/
inductive Tie where
  | toEven
  | upward
  deriving DecidableEq, Repr

namespace Binary64

/-- `2 ^ n` if `n` is positive, else one. -/
private def raise (base : Nat) (n : Int) : Nat :=
  Nat.pow base n.toNat

/-- The best multiple of `10 ^ exponent` that reads back as the number, if there is one. Of the two
neighbours of the number on that grid, the nearer one wins, and a tie is settled by `tie`. -/
def onGrid (x : Binary64) (tie : Tie) (exponent : Int) : Option Decimal :=
  let quarter := x.power - 2
  let unit := raise 10 exponent * raise 2 (-quarter)
  let scale := raise 2 quarter * raise 10 (-exponent)
  let centre := 4 * x.significand * scale
  let high := (4 * x.significand + 2) * scale
  let low := (4 * x.significand - if x.atStep then 1 else 2) * scale
  let inside := fun (multiple : Nat) =>
    let value := multiple * unit
    if x.significand % 2 = 0 then low ≤ value && value ≤ high else low < value && value < high
  let below := centre / unit
  let above := below + 1
  let preferAbove :=
    if 2 * centre = (below + above) * unit then tie = .upward || below % 2 = 1
    else (below + above) * unit < 2 * centre
  match inside below, inside above with
  | false, false => none
  | true, false => some ⟨below, exponent⟩
  | false, true => some ⟨above, exponent⟩
  | true, true => some ⟨if preferAbove then above else below, exponent⟩

/-- A power of ten above the number, from the length of its significand. -/
def ceilingExponent (x : Binary64) : Int :=
  ((x.significand.log2 : Int) + 1 + x.power) * 30103 / 100000 + 2

/-- The shortest decimal that reads back as a finite number other than zero. Seventeen digits always
suffice, so the search among the grids below `ceilingExponent` ends. -/
def shortest (x : Binary64) (tie : Tie) : Decimal :=
  ((List.range 24).findSome? fun (step : Nat) => x.onGrid tie (x.ceilingExponent - step)).getD ⟨0, 0⟩

end Binary64

end Conveyor
