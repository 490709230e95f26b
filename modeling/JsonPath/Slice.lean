namespace JsonPath

structure Progression where
  first : Int
  step : Int
  count : Nat
  deriving DecidableEq

namespace Progression

def empty : Progression := ⟨0, 1, 0⟩

def nth (p : Progression) (n : Nat) : Int := p.first + n * p.step

def toList (p : Progression) : List Int := (List.range p.count).map p.nth

def upwards (first stop step : Int) : Progression :=
  ⟨first, step, ((stop - first + step - 1) / step).toNat⟩

def downwards (first stop step : Int) : Progression :=
  ⟨first, step, ((first - stop - step - 1) / -step).toNat⟩

end Progression

namespace Slice

def fromEnd (length bound : Int) : Int := if bound < 0 then length + bound else bound

def clamp (low high n : Int) : Int := min (max n low) high

/-- The indices that a slice selects from an array of a length, in the order it selects them. A step
of zero selects none. -/
def indices (length : Nat) (start stop step : Option Int) : Progression :=
  let n : Int := length
  let step := step.getD 1
  if step = 0 then .empty
  else if 0 < step then
    let low := clamp 0 n (fromEnd n (start.getD 0))
    let high := clamp 0 n (fromEnd n (stop.getD n))
    .upwards low high step
  else
    let high := clamp (-1) (n - 1) (fromEnd n (start.getD (n - 1)))
    let low := clamp (-1) (n - 1) (fromEnd n (stop.getD (-n - 1)))
    .downwards high low step

end Slice

end JsonPath
