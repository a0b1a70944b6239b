/-!
# Calls and states of a decode session

A session is driven by three calls, in the order `setRenderTarget`,
`enqueueWork`, `run`. Between calls it is in one of the states below; `running`
is seen only by a caller whose engine stopped in the middle of a run.
-/

namespace AvcDriver.Session

/-- One call of the begin / render / end protocol. -/
inductive Call where
  | setRenderTarget
  | enqueueWork
  | run
  deriving DecidableEq, Repr

/-- The name a call has in messages. -/
def Call.label : Call → String
  | setRenderTarget => "SetRenderTarget"
  | enqueueWork => "EnqueueWork"
  | run => "Run"

/-- Where a session stands in the protocol. -/
inductive State where
  | idle
  | renderTargetSet
  | workEnqueued
  | running
  deriving DecidableEq, Repr

/-- The name a state has in messages. -/
def State.label : State → String
  | idle => "Idle"
  | renderTargetSet => "RenderTargetSet"
  | workEnqueued => "WorkEnqueued"
  | running => "Running"

/-- Whether a call is the next one in a given state. A render target may be
replaced until work is enqueued. -/
def State.accepts : State → Call → Bool
  | idle, .setRenderTarget => true
  | renderTargetSet, .setRenderTarget => true
  | renderTargetSet, .enqueueWork => true
  | workEnqueued, .run => true
  | _, _ => false

end AvcDriver.Session
