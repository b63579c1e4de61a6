import TracingSidecar.Injection.Inject
import TracingSidecar.Injection.Selection

/-!
# Evaluating a workload

An evaluation decides from scratch what becomes of a workload's sidecar and does it.  It depends on
nothing but the workload, its namespace and the instances.  Components of the tracing backend and
pods made by a controller are never touched, nor is an agent container that was added by hand.
-/

namespace TracingSidecar

/-- What an evaluation did. -/
inductive Evaluation where
  /-- Nothing had to be done. -/
  | noOp
  /-- A sidecar is wanted, but no instance could be chosen. -/
  | noTarget
  /-- A sidecar of the named instance was added. -/
  | injected (instanceName : String)
  /-- The sidecar was brought in line with the named instance. -/
  | updated (instanceName : String)
  /-- The sidecar of the named instance was removed. -/
  | cleaned (instanceName : String)
  deriving DecidableEq, Repr

namespace Evaluation

def name : Evaluation → String
  | .noOp => "NoOp"
  | .noTarget => "NoTarget"
  | .injected _ => "Injected"
  | .updated _ => "Updated"
  | .cleaned _ => "Cleaned"

def instance? : Evaluation → Option String
  | .noOp | .noTarget => none
  | .injected i | .updated i | .cleaned i => some i

/-- Whether the workload was changed and has to be stored. -/
def changed : Evaluation → Bool
  | .noOp | .noTarget => false
  | .injected _ | .updated _ | .cleaned _ => true

end Evaluation

/-- Whether a sidecar is to be added. -/
def Workload.needsSidecar (w : Workload) (ns : Namespace) : Bool :=
  w.isOptedIn ns && !w.isBackendComponent && !w.hasAgent

/-- Decide what becomes of a workload's sidecar, and do it. -/
def evaluate (config : InjectorConfig) (ns : Namespace) (instances : List TracingInstance)
    (w : Workload) : Evaluation × Workload :=
  if w.isBackendComponent || w.isControlled then (.noOp, w)
  else if w.needsSidecar ns then
    match select? w ns instances with
    | some i => (.injected i.anyName, config.inject i w)
    | none => (.noTarget, w)
  else
    match w.boundTo? with
    | none => (.noOp, w)
    | some bound =>
        if !w.hasAgent then (.noOp, w)
        else if !w.isOptedIn ns then (.cleaned bound, w.clean bound)
        else
          match select? w ns instances with
          | none => (.noTarget, w)
          | some i =>
              let refreshed := config.inject i w
              if refreshed = w then (.noOp, w) else (.updated i.anyName, refreshed)

end TracingSidecar
