import CommentSchema.Binary64

/-! The shortest decimal text that reads back as a given double.  For each number of
digits the two neighbours of the value on that decimal grid are tried; the first grid with
a neighbour that reads back wins, and of two such neighbours the nearer one. -/

namespace CommentSchema.Binary64

structure Decimal where
  digits : Nat
  exponent : Int

private def readsBack (x : Binary64) (candidate : Decimal) : Bool :=
  (ofDecimal candidate.digits candidate.exponent).magnitude == x.magnitude

private def tenTo (exponent : Int) : Nat × Nat :=
  match exponent with
  | .ofNat e => (Nat.pow 10 e, 1)
  | .negSucc e => (1, Nat.pow 10 (e + 1))

private def decimalExponent (num den : Nat) : Int :=
  let estimate := Int.ofNat (Text.digitsOf 10 num).length - Int.ofNat (Text.digitsOf 10 den).length
  let (n, d) := tenTo estimate
  if num * d < n * den then estimate - 1 else estimate

private def onGrid? (x : Binary64) (num den : Nat) (exponent : Int) : Option Decimal :=
  let (n, d) := tenTo exponent
  let floor := (num * d) / (den * n)
  let twice := 2 * ((num * d) % (den * n))
  let below : Decimal := ⟨floor, exponent⟩
  let above : Decimal := ⟨floor + 1, exponent⟩
  match readsBack x below, readsBack x above with
  | true, true =>
      if twice < den * n || (twice == den * n && floor % 2 == 0) then some below else some above
  | true, false => some below
  | false, true => some above
  | false, false => none

private def search (x : Binary64) (num den : Nat) (leading : Int) : Nat → Nat → Decimal
  | 0, _ => ⟨0, 0⟩
  | grids + 1, places =>
      match onGrid? x num den (leading - Int.ofNat places) with
      | some found => found
      | none => search x num den leading grids (places + 1)

def shortest (x : Binary64) : Decimal :=
  let (num, den) := x.ratio
  if num == 0 then ⟨0, 0⟩ else search x num den (decimalExponent num den) 18 0

private def dropTrailingZeros : Nat → Nat → Int → Nat × Int
  | 0, digits, exponent => (digits, exponent)
  | fuel + 1, digits, exponent =>
      if digits != 0 && digits % 10 == 0 then dropTrailingZeros fuel (digits / 10) (exponent + 1)
      else (digits, exponent)

private def exponentText (exponent : Int) : Text :=
  let sign := if exponent < 0 then '-' else '+'
  sign :: Text.padLeft 2 '0' (Text.digitsOf 10 exponent.natAbs)

/-- Positional from `1e-4` up to but not including `1e16`, and with an exponent of at
least two digits elsewhere. -/
private def finiteText (x : Binary64) : Text :=
  let found := x.shortest
  let (number, exponent) := dropTrailingZeros 20 found.digits found.exponent
  let digits := Text.digitsOf 10 number
  let point := Int.ofNat digits.length + exponent
  if number == 0 then "0.0".toList
  else if -4 < point && point ≤ 16 then
    if point ≤ 0 then "0.".toList ++ List.replicate point.natAbs '0' ++ digits
    else
      let whole := digits.take point.toNat
      let whole := whole ++ List.replicate (point.toNat - whole.length) '0'
      let fraction := digits.drop point.toNat
      whole ++ '.' :: (if fraction.isEmpty then ['0'] else fraction)
  else
    let fraction := digits.drop 1
    digits.take 1 ++ (if fraction.isEmpty then [] else '.' :: fraction)
      ++ 'e' :: exponentText (point - 1)

def toBareText (x : Binary64) : Text :=
  let text :=
    if x.isNaN then "nan".toList
    else if x.isInfinite then (if x.isNegative then "-inf".toList else "inf".toList)
    else (if x.isNegative then ['-'] else []) ++ finiteText x
  if Text.endsWith text ".0".toList then text.take (text.length - 2) else text

def toText (x : Binary64) : Text :=
  let sign := if x.isNegative && !x.isNaN then ['-'] else []
  if x.isNaN then "nan".toList
  else if x.isInfinite then sign ++ "inf".toList
  else sign ++ finiteText x

end CommentSchema.Binary64
