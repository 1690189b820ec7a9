import CommentSchema.Text.Digits

/-! Double precision numbers as their 64 bits, read from and compared as exact ratios of
natural numbers; no rounding happens anywhere but in `Binary64.nearest`. -/

namespace CommentSchema

structure Binary64 where
  bits : UInt64
deriving DecidableEq, Repr, Inhabited

namespace Binary64

def signBit : Nat := 0x8000000000000000

/-- The least bit of the exponent; below it stands the fraction. -/
def exponentBit : Nat := 0x10000000000000

def infinityBits : Nat := 0x7ff * exponentBit

def ofBits (negative : Bool) (magnitude : Nat) : Binary64 :=
  ⟨UInt64.ofNat (magnitude + if negative then signBit else 0)⟩

def zero : Binary64 := ofBits false 0

def infinity : Binary64 := ofBits false infinityBits

def nan : Binary64 := ofBits false (infinityBits + exponentBit / 2)

def isNegative (x : Binary64) : Bool := signBit ≤ x.bits.toNat

def magnitude (x : Binary64) : Nat := x.bits.toNat % signBit

def isNaN (x : Binary64) : Bool := infinityBits < x.magnitude

def isInfinite (x : Binary64) : Bool := x.magnitude == infinityBits

def isZero (x : Binary64) : Bool := x.magnitude == 0

def neg (x : Binary64) : Binary64 := ofBits (!x.isNegative) x.magnitude

/-- The quotient rounded to the nearest integer, a tie going to the even one. -/
def roundHalfEven (num den : Nat) : Nat :=
  let floor := num / den
  let twice := 2 * (num % den)
  if twice < den then floor
  else if twice > den then floor + 1
  else if floor % 2 == 0 then floor
  else floor + 1

private def scaled (num den : Nat) (shift : Int) : Nat × Nat :=
  match shift with
  | .ofNat k => (num, den <<< k)
  | .negSucc k => (num <<< (k + 1), den)

private def binaryExponent (num den : Nat) : Int :=
  let guess := (Int.ofNat num.log2) - (Int.ofNat den.log2)
  let (n, d) := scaled num den guess
  if n < d then guess - 1 else guess

/-- The bits of the double nearest to a ratio, a tie going to the even one; what lies
beyond the largest double is infinite. -/
def nearest (num den : Nat) : Nat :=
  if num == 0 then 0
  else
    let shift := max (binaryExponent num den - 52) (-1074)
    let (n, d) := scaled num den shift
    min ((shift + 1074).toNat * exponentBit + roundHalfEven n d) infinityBits

def ofDecimal (mantissa : Nat) (exponent : Int) : Binary64 :=
  let places := Int.ofNat (Text.digitsOf 10 mantissa).length + exponent
  if mantissa == 0 || places < -400 then zero
  else if places > 400 then infinity
  else
    match exponent with
    | .ofNat e => ofBits false (nearest (mantissa * Nat.pow 10 e) 1)
    | .negSucc e => ofBits false (nearest mantissa (Nat.pow 10 (e + 1)))

/-- Absent when the integer lies beyond the largest double. -/
def ofInt? (n : Int) : Option Binary64 :=
  let magnitude := nearest n.natAbs 1
  if magnitude == infinityBits then none else some (ofBits (n < 0) magnitude)

/-- A finite double is `mantissa * 2 ^ exponent` up to its sign. -/
def mantissa (x : Binary64) : Nat :=
  let fraction := x.magnitude % exponentBit
  if x.magnitude < exponentBit then fraction else fraction + exponentBit

def exponent (x : Binary64) : Int := Int.ofNat (max (x.magnitude / exponentBit) 1) - 1075

def ratio (x : Binary64) : Nat × Nat :=
  match x.exponent with
  | .ofNat e => (x.mantissa <<< e, 1)
  | .negSucc e => (x.mantissa, 1 <<< (e + 1))

/-- Numeric equality: both zeros are equal, nothing equals a NaN. -/
def sameNumber (x y : Binary64) : Bool :=
  !x.isNaN && !y.isNaN && (x == y || (x.isZero && y.isZero))

def equalsInt (x : Binary64) (n : Int) : Bool :=
  let (num, den) := x.ratio
  !x.isNaN && !x.isInfinite && num == n.natAbs * den && (x.isZero || x.isNegative == decide (n < 0))

end Binary64

end CommentSchema
