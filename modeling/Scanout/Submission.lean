import Scanout.Collaborators

namespace Scanout

variable {σ : Type} [World σ]

structure CommitRequest where
  framebuffer : FramebufferId
  frame : Nat
  inFence : Option Fence
  wantOutFence : Bool
  allowModeset : Bool
deriving DecidableEq, Repr

/-- What a commit comes to. An in-fence that was not handed over is still the caller's. -/
structure CommitOutcome where
  result : Except DisplayError (Option Fence)
  inFence : Option Fence

/-- Destroys a mode blob. That this fails is only logged. -/
def destroyBlob (device : Device σ) (blob : UInt64) : Act σ Unit := do
  match ← device.destroyBlob blob with
  | .ok _ => return
  | .error cause => note (.modeBlobNotDestroyed cause)

/-- Builds the transaction of a frame and submits it. A fence that went along is closed, since the
kernel has taken a reference of its own. -/
def submit (device : Device σ) (topology : Topology) (tables : PropertyCache)
    (request : CommitRequest) (blob : Option UInt64) : Act σ CommitOutcome := do
  let content : Transaction.FrameContent :=
    { framebuffer := request.framebuffer, modeBlob := blob, inFence := request.inFence,
      wantOutFence := request.wantOutFence }
  match Transaction.build topology tables content with
  | .error e => return ⟨.error e, request.inFence⟩
  | .ok (txn, skipped) =>
    notes (skipped.map .propertySkipped)
    note (.committing request.frame txn.assignments.length txn.flags)
    match ← device.commit txn with
    | .error cause => return ⟨.error (.commitRejected cause), request.inFence⟩
    | .ok outFence =>
      closeFence? request.inFence
      return ⟨.ok outFence, none⟩

/-- Commits a frame. A modeset brings the mode as a blob, which only lives for the commit: a CRTC
that uses it keeps a reference of its own. -/
def commitFrame (device : Device σ) (topology : Topology) (tables : PropertyCache)
    (request : CommitRequest) : Act σ CommitOutcome := do
  if request.allowModeset then
    match ← device.createBlob topology.mode with
    | .error cause => return ⟨.error (.modeBlobFailed cause), request.inFence⟩
    | .ok blob =>
      let outcome ← submit device topology tables request (some blob)
      destroyBlob device blob
      return outcome
  else
    submit device topology tables request none

end Scanout
