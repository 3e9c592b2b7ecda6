import Scanout.Proofs.DrawRecord

namespace Scanout

variable {σ : Type} [World σ]

/-- Submitting a frame: what comes of it, and the calls it takes. -/
inductive SubmitRecord (topology : Topology) (tables : PropertyCache) (request : CommitRequest)
    (blob : Option UInt64) : CommitOutcome → List Exchange → Prop
  | unbuilt {e : DisplayError} :
      Transaction.build topology tables
        ⟨request.framebuffer, blob, request.inFence, request.wantOutFence⟩ = .error e →
      SubmitRecord topology tables request blob ⟨.error e, request.inFence⟩ []
  | rejected {txn : Transaction} {skipped : List SkippedProperty} (cause : CallError) :
      Transaction.build topology tables
        ⟨request.framebuffer, blob, request.inFence, request.wantOutFence⟩ = .ok (txn, skipped) →
      SubmitRecord topology tables request blob ⟨.error (.commitRejected cause), request.inFence⟩
        [.submitted txn (.error cause)]
  | accepted {txn : Transaction} {skipped : List SkippedProperty} (outFence : Option Fence) :
      Transaction.build topology tables
        ⟨request.framebuffer, blob, request.inFence, request.wantOutFence⟩ = .ok (txn, skipped) →
      SubmitRecord topology tables request blob ⟨.ok outFence, none⟩
        (.submitted txn (.ok outFence) :: request.inFence.toList.map .closed)

theorem records_submit (device : Device σ) (topology : Topology) (tables : PropertyCache)
    (request : CommitRequest) (blob : Option UInt64) :
    Records (submit device.recorded topology tables request blob)
      (submit device topology tables request blob)
      (SubmitRecord topology tables request blob) := by
  unfold submit
  dsimp only
  cases hb : Transaction.build topology tables
      ⟨request.framebuffer, blob, request.inFence, request.wantOutFence⟩ with
  | error e => exact records_pure (.unbuilt hb)
  | ok built =>
    refine records_then (records_notes _) fun _ => ?_
    refine records_then (records_note _) fun _ => ?_
    refine records_then (records_watch _ _) ?_
    intro answer
    cases answer with
    | error cause => exact records_pure (.rejected cause hb)
    | ok outFence =>
      refine records_then (records_closeFence? request.inFence) fun _ => ?_
      exact records_pure (by simpa using .accepted outFence hb)

/-- Committing a frame, with the mode blob around the submission if the mode is to be set. -/
inductive CommitRecord (topology : Topology) (tables : PropertyCache) (request : CommitRequest) :
    CommitOutcome → List Exchange → Prop
  | flip {outcome : CommitOutcome} {added : List Exchange} : request.allowModeset = false →
      SubmitRecord topology tables request none outcome added →
      CommitRecord topology tables request outcome added
  | blobless (cause : CallError) : request.allowModeset = true →
      CommitRecord topology tables request ⟨.error (.modeBlobFailed cause), request.inFence⟩
        [.blobCreated topology.mode (.error cause)]
  | modeset {outcome : CommitOutcome} {added : List Exchange} (blob : UInt64)
      (answer : Except CallError Unit) : request.allowModeset = true →
      SubmitRecord topology tables request (some blob) outcome added →
      CommitRecord topology tables request outcome
        (.blobCreated topology.mode (.ok blob) :: (added ++ [.blobDestroyed blob answer]))

theorem records_destroyBlob (device : Device σ) (blob : UInt64) :
    Records (destroyBlob device.recorded blob) (destroyBlob device blob)
      (fun _ added => ∃ answer, added = [.blobDestroyed blob answer]) := by
  unfold destroyBlob
  refine records_then (records_watch _ _) ?_
  intro answer
  cases answer with
  | ok _ => exact records_pure ⟨_, rfl⟩
  | error cause =>
    refine (records_note _).mono ?_
    rintro _ _ rfl
    exact ⟨_, rfl⟩

theorem records_commitFrame (device : Device σ) (topology : Topology) (tables : PropertyCache)
    (request : CommitRequest) :
    Records (commitFrame device.recorded topology tables request)
      (commitFrame device topology tables request) (CommitRecord topology tables request) := by
  unfold commitFrame
  cases hm : request.allowModeset with
  | false => exact (records_submit device topology tables request none).mono fun _ _ => .flip hm
  | true =>
    refine records_then (records_watch _ _) ?_
    intro answer
    cases answer with
    | error cause => exact records_pure (.blobless cause hm)
    | ok blob =>
      refine records_bind (records_submit device topology tables request (some blob)) ?_
      intro outcome added hs
      refine records_bind (records_destroyBlob device blob) ?_
      rintro _ _ ⟨answer, rfl⟩
      exact records_pure (by simpa using .modeset blob answer hm hs)

namespace Pipeline

omit [World σ] in
theorem records_release (allocator : Allocator σ) (buffer : Option Buffer) :
    Records (release allocator.recorded buffer) (release allocator buffer)
      (fun _ added => added = buffer.toList.map .released) := by
  cases buffer with
  | none => exact records_pure rfl
  | some buffer => exact records_watch (fun _ => .released buffer) _

/-- Waiting for the pending flip, which is given up whatever comes of it. -/
inductive FinishRecord (p : Pipeline) :
    Except DisplayError Unit × Pipeline → List Exchange → Prop
  | idle : p.pendingFlip = none → FinishRecord p (.ok (), p) []
  | waited {fence : Fence} : p.pendingFlip = some fence →
      FinishRecord p (.ok (), { p with pendingFlip := none })
        [.waited fence (.ok ()), .closed fence]
  | failed {fence : Fence} (cause : CallError) : p.pendingFlip = some fence →
      FinishRecord p (.error (.fenceWait cause), { p with pendingFlip := none })
        [.waited fence (.error cause), .closed fence]

/-- A finish leaves nothing pending, and changes nothing else. -/
theorem FinishRecord.leaves {p : Pipeline} {result : Except DisplayError Unit × Pipeline}
    {added : List Exchange} (h : p.FinishRecord result added) :
    result.2 = { p with pendingFlip := none } := by
  cases h with
  | idle hp => simp [← hp]
  | waited => rfl
  | failed => rfl

theorem records_finish (waiter : Waiter σ) (p : Pipeline) :
    Records (finish waiter.recorded p) (finish waiter p) (FinishRecord p) := by
  unfold finish
  cases hf : p.pendingFlip with
  | none => exact records_pure (.idle hf)
  | some fence =>
    refine records_then (records_watch _ _) ?_
    intro answer
    refine records_then (records_closeFence fence) fun _ => ?_
    cases answer with
    | ok _ => exact records_pure (.waited hf)
    | error cause => exact records_pure (.failed cause hf)

/-- What a frame asks of a commit. -/
def commitRequest (p : Pipeline) (frame : Nat) (drawn : Drawn) : CommitRequest where
  framebuffer := drawn.framebuffer
  frame
  inFence := some drawn.fence
  wantOutFence := true
  allowModeset := p.allowModeset

/-- The display path after an accepted commit. -/
def afterFlip (p : Pipeline) (drawn : Drawn) (outFence : Option Fence) (throughput : Throughput) :
    Pipeline :=
  { p with
    allowModeset := false, pendingFlip := outFence, throughput
    onScreen := drawn.locked <|> p.onScreen }

/-- Committing a drawn frame: the buffer that leaves the screen goes back when the commit is
accepted, the frame's own fence and buffer when it is not. -/
inductive FlipRecord (p : Pipeline) (frame : Nat) (drawn : Drawn) :
    Except DisplayError Unit × Pipeline → List Exchange → Prop
  | shown {outFence inFence : Option Fence} {added : List Exchange} (throughput : Throughput) :
      CommitRecord p.topology p.tables (p.commitRequest frame drawn) ⟨.ok outFence, inFence⟩
        added → (∃ time, throughput = (p.throughput.frame time).1) →
      FlipRecord p frame drawn (.ok (), p.afterFlip drawn outFence throughput)
        (added ++ if drawn.locked.isSome then p.onScreen.toList.map .released else [])
  | refused {e : DisplayError} {inFence : Option Fence} {added : List Exchange} :
      CommitRecord p.topology p.tables (p.commitRequest frame drawn) ⟨.error e, inFence⟩ added →
      FlipRecord p frame drawn (.error e, p)
        (added ++ (inFence.toList.map .closed ++ drawn.locked.toList.map .released))

theorem records_flipped (allocator : Allocator σ) (p : Pipeline) (drawn : Drawn)
    (outFence : Option Fence) :
    Records (flipped allocator.recorded p drawn outFence) (flipped allocator p drawn outFence)
      (fun p' added =>
        (∃ time, p' = p.afterFlip drawn outFence (p.throughput.frame time).1) ∧
        added = if drawn.locked.isSome then p.onScreen.toList.map .released else []) := by
  unfold flipped
  refine records_noteIf ?_
  refine records_then records_now ?_
  intro time
  dsimp only
  rcases hf : p.throughput.frame time with ⟨throughput, report⟩
  refine records_then (records_notes _) fun _ => ?_
  cases hl : drawn.locked with
  | none => exact records_pure ⟨⟨time, by simp [afterFlip, hl, hf]⟩, rfl⟩
  | some buffer =>
    refine records_then (records_release allocator p.onScreen) fun _ => ?_
    exact records_pure ⟨⟨time, by simp [afterFlip, hl, hf]⟩, by simp⟩

theorem records_discard (allocator : Allocator σ) (drawn : Drawn) (fence : Option Fence) :
    Records (discard allocator.recorded drawn fence) (discard allocator drawn fence)
      (fun _ added => added = fence.toList.map .closed ++ drawn.locked.toList.map .released) := by
  refine records_then (records_closeFence? fence) fun _ => ?_
  refine (records_release allocator drawn.locked).mono ?_
  rintro _ _ rfl
  rfl

theorem records_flip (c : Collaborators σ) (p : Pipeline) (frame : Nat) (drawn : Drawn) :
    Records (flip c.recorded p frame drawn) (flip c p frame drawn) (FlipRecord p frame drawn) := by
  unfold flip
  refine records_bind (records_commitFrame c.device p.topology p.tables _) ?_
  rintro ⟨result, inFence⟩ added hc
  cases result with
  | ok outFence =>
    refine records_bind (records_flipped c.allocator p drawn outFence) ?_
    rintro _ _ ⟨⟨time, rfl⟩, rfl⟩
    exact records_pure (by simpa using .shown _ hc ⟨time, rfl⟩)
  | error e =>
    refine records_then (records_discard c.allocator drawn inFence) fun _ => ?_
    exact records_pure (by simpa using .refused hc)

end Pipeline

end Scanout
