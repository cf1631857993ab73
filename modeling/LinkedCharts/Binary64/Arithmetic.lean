import LinkedCharts.Binary64.Rounding

/-!
# Arithmetic

Each operation takes the exact result and rounds it once. Sums of finite numbers are sums of steps,
so rounding is the only difference from integer arithmetic; an exact sum of zero is `0`, and `-0`
only when both terms are.

Results:
* `add`, `sub`, `half`, `abs`: what windows on a time axis are computed with.
* `mul`, `div`: what reading a decimal needs.
* `isWhole`, `truncate?`: whole numbers among the finite ones.
-/

namespace LinkedCharts.Binary64

/-- The number with the other sign. -/
protected def neg : Binary64 → Binary64
  | .finite s n h => .finite (!s) n h
  | .infinite s => .infinite (!s)
  | .nan => .nan

instance : Neg Binary64 := ⟨Binary64.neg⟩

/-- The number nearest to an integer count of steps; zero is positive. -/
def ofSteps (i : Int) : Binary64 := round (i < 0) i.natAbs 1

/-- The rounded sum. Opposite infinities have none. -/
protected def add : Binary64 → Binary64 → Binary64
  | .nan, _ | _, .nan => .nan
  | .infinite s, .infinite t => if s = t then .infinite s else .nan
  | .infinite s, .finite .. => .infinite s
  | .finite .., .infinite t => .infinite t
  | .finite s m _, .finite t n _ =>
    let sum := signed s m + signed t n
    if sum = 0 then zero (s && t) else ofSteps sum

instance : Add Binary64 := ⟨Binary64.add⟩

/-- The rounded difference. -/
protected def sub (x y : Binary64) : Binary64 := x + -y

instance : Sub Binary64 := ⟨Binary64.sub⟩

/-- The rounded half. -/
def half : Binary64 → Binary64
  | .finite s n _ => round s n 2
  | .infinite s => .infinite s
  | .nan => .nan

/-- The magnitude. -/
def abs : Binary64 → Binary64
  | .finite _ n h => .finite false n h
  | .infinite _ => .infinite false
  | .nan => .nan

/-- The rounded product. Zero times an infinity has none. -/
protected def mul : Binary64 → Binary64 → Binary64
  | .nan, _ | _, .nan => .nan
  | .infinite s, .infinite t => .infinite (s ^^ t)
  | .infinite s, .finite t n _ | .finite t n _, .infinite s =>
    if n = 0 then .nan else .infinite (s ^^ t)
  | .finite s m _, .finite t n _ => round (s ^^ t) (m * n) stepsPerOne

instance : Mul Binary64 := ⟨Binary64.mul⟩

/-- The rounded quotient. -/
protected def div : Binary64 → Binary64 → Binary64
  | .nan, _ | _, .nan => .nan
  | .infinite _, .infinite _ => .nan
  | .infinite s, .finite t _ _ => .infinite (s ^^ t)
  | .finite s _ _, .infinite t => zero (s ^^ t)
  | .finite s m _, .finite t n _ =>
    if n = 0 then if m = 0 then .nan else .infinite (s ^^ t)
    else round (s ^^ t) (m * stepsPerOne) n

instance : Div Binary64 := ⟨Binary64.div⟩

/-- A finite number without a fraction. -/
def isWhole : Binary64 → Bool
  | .finite _ n _ => n % stepsPerOne == 0
  | .infinite _ | .nan => false

/-- The integer left of a finite number without its fraction. -/
def truncate? : Binary64 → Option Int
  | .finite s n _ => some (signed s (n / stepsPerOne))
  | .infinite _ | .nan => none

end LinkedCharts.Binary64
