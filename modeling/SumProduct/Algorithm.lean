/-
From a schedule to something that can be run: resolution followed by emission.
-/

import SumProduct.Program.Emission
import SumProduct.Program.Machine
import SumProduct.Program.Source

set_option autoImplicit false

namespace SumProduct

/-- A resolved schedule, its program, and the variables whose marginals are computed. -/
structure Algorithm where
  schedule : Schedule
  program : Program
  targets : List VariableKey
  deriving Inhabited

namespace Algorithm

def compile (network : Network) (catalog : Catalog) (leafTypes : LeafTypes) (schedule : Schedule)
    (targets : List VariableKey) : Except Fault Algorithm := do
  let resolved ← Resolver.resolve ⟨network, catalog⟩ leafTypes schedule
  let program ← Emission.program network resolved targets
  return ⟨resolved, program, targets⟩

def source (network : Network) (algorithm : Algorithm) : Except Fault String :=
  algorithm.program.source network "step"

/-- One pass over the schedule. -/
def run (machine : Machine) (algorithm : Algorithm) (data : Buffers) (marginals : Marginals) :
    Except Fault Marginals :=
  machine.run algorithm.program data marginals

end Algorithm

end SumProduct
