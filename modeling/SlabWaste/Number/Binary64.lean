/-
  SlabWaste.Number.Binary64
  ─────────────────────────
  **BINARY FLOATING POINT, AS EXACT RATIONALS.**

  Times and angles are binary floating-point numbers of 64 bits.  A finite one
  is held as the rational number that it is, and there is one operation that
  loses anything:

      round q    the representable number nearest to `q`, of two equally near
                 ones the one with the even significand, and an infinity from
                 `2 ^ 1024` on (rounded)

  Every arithmetic operation is the exact one followed by `round`, so the laws
  of rational arithmetic reach all of them.  Zero has no sign here: no text
  that is ever written tells the two zeros apart.
-/

namespace SlabWaste

/-! ## §1. Rounding a rational to the integers. -/

/-- The size of a rational. -/
def magnitude (q : Rat) : Rat := if q < 0 then -q else q

/-- The integer nearest to a rational; a half goes to the even neighbour. -/
def roundToEven (q : Rat) : Int :=
  let low := q.floor
  let part := q - low
  if part < 1 / 2 then low
  else if 1 / 2 < part then low + 1
  else if low % 2 = 0 then low
  else low + 1

/-! ## §2. The numbers. -/

/-- A binary floating-point number of 64 bits: not a number, one of the two infinities, or the
exact value of a finite one. -/
inductive Binary64 where
  | nan
  | infinite (negative : Bool)
  | finite (value : Rat)
  deriving DecidableEq, Repr

namespace Binary64

/-- The greatest `k` with `2 ^ k ≤ magnitude q`, for `q` other than zero.  The lengths of
numerator and denominator leave two candidates. -/
def binade (q : Rat) : Int :=
  let k : Int := (q.num.natAbs.log2 : Int) - (q.den.log2 : Int)
  if (2 : Rat) ^ k ≤ magnitude q then k else k - 1

/-- The distance between neighbouring representable numbers at `q`: 53 significant bits, and below
`2 ^ (-1022)` as wide as there. -/
def spacing (q : Rat) : Rat := (2 : Rat) ^ (max (binade q) (-1022) - 52)

/-- The first power of two that is too large. -/
def bound : Rat := (2 : Rat) ^ (1024 : Int)

/-- The representable number nearest to a rational. -/
def round (q : Rat) : Binary64 :=
  if q = 0 then .finite 0
  else
    let v := (roundToEven (q / spacing q) : Rat) * spacing q
    if bound ≤ magnitude v then .infinite (decide (q < 0)) else .finite v

/-! ## §3. Conversions from integers. -/

/-- The number nearest to a rational, unless that is an infinity. -/
def roundFinite? (q : Rat) : Option Binary64 :=
  match round q with
  | .finite v => some (.finite v)
  | _ => none

/-- The number nearest to an integer, unless that is an infinity. -/
def ofInt? (n : Int) : Option Binary64 := roundFinite? n

/-- The number nearest to the exact quotient of two integers, unless that is an infinity. -/
def quotient? (n d : Int) : Option Binary64 := roundFinite? ((n : Rat) / (d : Rat))

/-! ## §4. Arithmetic. -/

/-- The opposite number. -/
def neg : Binary64 → Binary64
  | .nan => .nan
  | .infinite s => .infinite (!s)
  | .finite v => .finite (-v)

/-- The rounded sum. -/
def add : Binary64 → Binary64 → Binary64
  | .finite x, .finite y => round (x + y)
  | .infinite s, .infinite t => if s = t then .infinite s else .nan
  | .infinite s, .finite _ => .infinite s
  | .finite _, .infinite t => .infinite t
  | _, _ => .nan

/-- The rounded difference. -/
def sub (x y : Binary64) : Binary64 := add x (neg y)

/-- The infinity with the sign of a product or quotient, or `nan` where one factor is zero. -/
def infiniteTimes (negative : Bool) (v : Rat) : Binary64 :=
  if v = 0 then .nan else .infinite (negative ^^ decide (v < 0))

/-- The rounded product. -/
def mul : Binary64 → Binary64 → Binary64
  | .finite x, .finite y => round (x * y)
  | .infinite s, .infinite t => .infinite (s ^^ t)
  | .infinite s, .finite y => infiniteTimes s y
  | .finite x, .infinite t => infiniteTimes t x
  | _, _ => .nan

/-- The rounded quotient.  Nothing here divides by zero; the quotient is then `nan`. -/
def div : Binary64 → Binary64 → Binary64
  | .finite x, .finite y => if y = 0 then .nan else round (x / y)
  | .infinite s, .finite y => infiniteTimes s y
  | .finite _, .infinite _ => .finite 0
  | _, _ => .nan

instance : Add Binary64 := ⟨add⟩
instance : Sub Binary64 := ⟨sub⟩
instance : Mul Binary64 := ⟨mul⟩
instance : Div Binary64 := ⟨div⟩

/-! ## §5. Order. -/

/-- The order of the extended line, with `nan` on top so that the order is total. -/
def le : Binary64 → Binary64 → Bool
  | .finite x, .finite y => x ≤ y
  | _, .nan => true
  | .nan, _ => false
  | .infinite true, _ => true
  | _, .infinite false => true
  | _, _ => false

/-- A number of finite value below a rational. -/
def isBelow (x : Binary64) (bound : Rat) : Bool :=
  match x with
  | .finite v => v < bound
  | .infinite negative => negative
  | .nan => false

end Binary64

end SlabWaste
