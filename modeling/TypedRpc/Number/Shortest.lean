import TypedRpc.Number.Binary64

/-!
# Shortest decimal text

A finite number is printed with the fewest digits that read back as it, and among those with the
digits nearest to it.

The reals that round to `m * 2 ^ q` form an interval around it: half a step up, and half a step
down, or a quarter of a step down where the spacing halves below a power of two.  Its ends belong
to it when `m` is even.  On the grid of decimals with `n` digits only the two neighbours of the
value can be the nearest point of the interval, so it is enough to try those for `n = 1, 2, …, 17`.

Everything is scaled to integers: `value`, `below` and `above` are numerators over one denominator.
-/

namespace TypedRpc
namespace Binary64

/-- The value and the interval that rounds to it, as numerators over `unit`. -/
structure Neighbourhood where
  below : Nat
  value : Nat
  above : Nat
  unit : Nat
  closed : Bool

/-- The reals that round to `significand * 2 ^ exponent`. -/
def neighbourhood (significand : Nat) (exponent : Int) : Neighbourhood :=
  let narrow := significand = Number.twoTo (precision - 1) ∧ minExponent < exponent
  let scale := if 0 ≤ exponent then Number.twoTo exponent.toNat else 1
  let unit := if 0 ≤ exponent then 4 else 4 * Number.twoTo (-exponent).toNat
  { below := (4 * significand - if narrow then 1 else 2) * scale
    value := 4 * significand * scale
    above := (4 * significand + 2) * scale
    unit := unit
    closed := significand % 2 = 0 }

/-- Whether `num / den` lies in the interval. -/
def Neighbourhood.contains (near : Neighbourhood) (num den : Nat) : Bool :=
  let scaled := num * near.unit
  if near.closed then near.below * den ≤ scaled && scaled ≤ near.above * den
  else near.below * den < scaled && scaled < near.above * den

/-- Whether the value is at least `10 ^ power`. -/
def Neighbourhood.reachesTen (near : Neighbourhood) (power : Int) : Bool :=
  if 0 ≤ power then near.unit * Number.tenTo power.toNat ≤ near.value
  else near.unit ≤ near.value * Number.tenTo (-power).toNat

/-- The least power of ten from `power` on, in `fuel` steps, that the value does not reach. -/
def Neighbourhood.pointFrom (near : Neighbourhood) : Nat → Int → Int
  | 0, power => power
  | fuel + 1, power =>
    if near.reachesTen power then near.pointFrom fuel (power + 1) else power

/-- The place of the decimal point: the value is below `10 ^ point` and at least
`10 ^ (point - 1)`.  The binary exponent puts the search within three steps of it. -/
def Neighbourhood.point (near : Neighbourhood) : Int :=
  let binary : Int := (Nat.log2 near.value : Int) - (Nat.log2 near.unit : Int)
  near.pointFrom 4 ((binary - 1) * 30103 / 100000)

/-- The decimal `digits * 10 ^ power`. -/
structure Decimal where
  digits : Nat
  power : Int
  deriving DecidableEq, Repr

/-- The decimal with `count` digits that reads back as the value and is nearest to it. -/
def Neighbourhood.onGrid? (near : Neighbourhood) (point : Int) (count : Nat) : Option Decimal :=
  let power := point - count
  let stepNum := Number.tenTo power.toNat
  let stepDen := Number.tenTo (-power).toNat
  let gap := near.unit * stepNum
  let low := near.value * stepDen / gap
  let twiceOver := 2 * (near.value * stepDen % gap)
  let highNearer := gap < twiceOver || (gap == twiceOver && low % 2 == 1)
  let lowHits := near.contains (low * stepNum) stepDen
  let highHits := near.contains ((low + 1) * stepNum) stepDen
  if lowHits && !(highHits && highNearer) then some ⟨low, power⟩
  else if highHits then some ⟨low + 1, power⟩
  else none

/-- The shortest decimal that reads back as the value.  The first grid with a hit wins, and
seventeen digits always hit. -/
def Neighbourhood.shortest (near : Neighbourhood) : Decimal :=
  let point := near.point
  let hit := (List.range 17).findSome? fun n => near.onGrid? point (n + 1)
  hit.getD ⟨near.value / near.unit, 0⟩

/-- The digits without the zeros at their end. -/
def trimZeros (cs : List Char) : List Char :=
  (cs.reverse.dropWhile (· = '0')).reverse

/-- Decimal digits, and how many of them stand before the point. -/
def decimalDigits (significand : Nat) (exponent : Int) : List Char × Int :=
  if significand = 0 then (['0'], 1)
  else
    let shortest := (neighbourhood significand exponent).shortest
    let digits := Nat.toDigits 10 shortest.digits
    (trimZeros digits, digits.length + shortest.power)

/-- An exponent in scientific notation: a sign and at least two digits. -/
def exponentChars (exponent : Int) : List Char :=
  let digits := Nat.toDigits 10 exponent.natAbs
  'e' :: (if exponent < 0 then '-' else '+') ::
    (List.replicate (2 - digits.length) '0' ++ digits)

/-- Numbers from `10 ^ -4` up to `10 ^ 16` are written with a point among their digits and at least
one digit on either side of it; smaller and larger ones with an exponent. -/
def layout (digits : List Char) (point : Int) : List Char :=
  if -4 < point ∧ point ≤ 16 then
    if point ≤ 0 then
      '0' :: '.' :: (List.replicate (-point).toNat '0' ++ digits)
    else
      let whole := digits.take point.toNat
      let padding := List.replicate (point.toNat - whole.length) '0'
      let fraction := digits.drop point.toNat
      whole ++ padding ++ '.' :: (if fraction.isEmpty then ['0'] else fraction)
  else
    match digits with
    | [] => []
    | first :: rest =>
      first :: (if rest.isEmpty then [] else '.' :: rest) ++ exponentChars (point - 1)

/-- The text of a number. -/
def toChars : Binary64 → List Char
  | .finite negative significand exponent =>
    let (digits, point) := decimalDigits significand exponent
    (if negative then ['-'] else []) ++ layout digits point
  | .infinite true => ['-', 'i', 'n', 'f']
  | .infinite false => ['i', 'n', 'f']
  | .nan => ['n', 'a', 'n']

/-- The text of a number: the fewest digits that read back as it. -/
def text (x : Binary64) : String :=
  String.ofList x.toChars

end Binary64
end TypedRpc
