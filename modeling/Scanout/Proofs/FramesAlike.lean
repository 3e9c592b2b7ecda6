import Scanout.Proofs.FrameRecord
import Scanout.Proofs.Outline

namespace Scanout

variable {σ τ α β : Type} {view : σ → τ}

/-- That an act repeats itself wherever the same is seen. -/
def Repeats (view : σ → τ) (act : Act (Recorded σ) α) : Prop :=
  Alike view act act Eq

theorem repeats_pure (a : α) : Repeats view (pure a) :=
  alike_pure rfl

theorem repeats_bind {act : Act (Recorded σ) α} {next : α → Act (Recorded σ) β}
    (h : Repeats view act) (hn : ∀ a, Repeats view (next a)) : Repeats view (act >>= next) := by
  refine alike_bind h ?_
  rintro a _ rfl
  exact hn a

theorem repeats_call {act : Act σ α} {exchange : α → Exchange} (h : GoBy view act act Eq) :
    Repeats view (Recorded.watch exchange act) :=
  alike_watch h fun _ _ same => by rw [same]

theorem Unseen.repeats {act : Act (Recorded σ) Unit} (h : Unseen view act fun _ => True) :
    Repeats view act :=
  (h.alike h).mono fun _ _ _ => rfl

variable [World σ] {c : Collaborators σ} {interrupted : Act σ Bool}

namespace Steady

theorem repeats_note (steady : Steady c interrupted view) (n : Note) : Repeats view (note n) :=
  (steady.unseen_note n).repeats

theorem repeats_createFramebuffer (steady : Steady c interrupted view) (layout : Layout) :
    Repeats view (createFramebuffer c.device.recorded layout) := by
  have add (layout : Layout) (withModifiers : Bool) :
      Repeats view (c.device.recorded.addFramebuffer layout withModifiers) :=
    repeats_call (steady.addFramebuffer layout withModifiers)
  unfold createFramebuffer
  cases layout.explicitModifier with
  | none =>
    refine repeats_bind (add _ _) fun answer => ?_
    cases answer <;> exact repeats_pure _
  | some modifier =>
    refine repeats_bind (steady.repeats_note _) fun _ => ?_
    refine repeats_bind (add _ _) fun answer => ?_
    cases answer with
    | ok framebuffer => exact repeats_pure _
    | error cause =>
      refine repeats_bind (steady.repeats_note _) fun _ => ?_
      refine repeats_bind (add _ _) fun answer => ?_
      cases answer <;> exact repeats_pure _

theorem repeats_ensureFramebuffer (steady : Steady c interrupted view) (pool : BufferPool)
    (index : Nat) (entry : PoolEntry) (buffer : Buffer) :
    Repeats view (pool.ensureFramebuffer c.device.recorded index entry buffer) := by
  unfold BufferPool.ensureFramebuffer
  cases entry.framebuffer with
  | some framebuffer => exact repeats_pure _
  | none =>
    refine repeats_bind (steady.repeats_createFramebuffer _) fun created => ?_
    cases created with
    | error e => exact repeats_pure _
    | ok framebuffer =>
      refine repeats_bind (steady.repeats_note _) fun _ => ?_
      exact repeats_pure _

theorem repeats_framebufferForSlot (steady : Steady c interrupted view) (pool : BufferPool)
    (slot : Nat) : Repeats view (pool.framebufferForSlot c.device.recorded slot) := by
  unfold BufferPool.framebufferForSlot
  cases pool.entries[slot]? with
  | none => exact repeats_pure _
  | some entry =>
    dsimp only
    cases entry.buffer with
    | none => exact repeats_pure _
    | some buffer => exact steady.repeats_ensureFramebuffer _ _ _ _

theorem repeats_framebufferFor (steady : Steady c interrupted view) (pool : BufferPool)
    (buffer : Buffer) : Repeats view (pool.framebufferFor c.device.recorded buffer) :=
  steady.repeats_ensureFramebuffer _ _ _ _

theorem repeats_lockFrontBuffer (steady : Steady c interrupted view) (pool : BufferPool) :
    Repeats view (pool.lockFrontBuffer c.allocator.recorded) := by
  unfold BufferPool.lockFrontBuffer
  cases pool.surface with
  | none => exact repeats_pure _
  | some surface =>
    refine repeats_bind (repeats_call (steady.lock surface)) fun answer => ?_
    cases answer <;> exact repeats_pure _

theorem repeats_release (steady : Steady c interrupted view) (buffer : Option Buffer) :
    Repeats view (Pipeline.release c.allocator.recorded buffer) := by
  cases buffer with
  | none => exact repeats_pure _
  | some buffer => exact alike_watch (steady.release buffer) fun _ _ _ => rfl

end Steady

namespace Pipeline

/-- A drawn frame without the number of its fence. -/
def Drawn.anonymous (drawn : Drawn) : Drawn :=
  { drawn with fence := drawn.fence.anonymous }

/-- What drawing a frame twice gives in common. -/
def DrawnAlike (a b : Except DisplayError Drawn × BufferPool) : Prop :=
  SameUpTo Drawn.anonymous a.1 b.1 ∧ a.2 = b.2

end Pipeline

namespace Steady

open Pipeline (DrawnAlike)

theorem alike_render (steady : Steady c interrupted view) (target : RenderTarget) (frame : Nat) :
    Alike view (c.renderer.recorded.render target frame) (c.renderer.recorded.render target frame)
      (SameUpTo Fence.anonymous) :=
  alike_watch (steady.render target frame) fun _ _ same => by
    simp only [Exchange.outline?, same.map_eq]

theorem alike_closing (steady : Steady c interrupted view) (fence fence' : Fence)
    {next : Unit → Act (Recorded σ) α} {next' : Unit → Act (Recorded σ) β} {V : α → β → Prop}
    (h : Alike view (next ()) (next' ()) V) :
    Alike view (closeFence fence >>= next) (closeFence fence' >>= next') V :=
  alike_unseen (steady.unseen_closeFence fence) (steady.unseen_closeFence fence') fun _ _ _ _ => h

theorem alike_drawInRing (steady : Steady c interrupted view) (pool : BufferPool) (frame : Nat) :
    Alike view (Pipeline.drawInRing c.recorded pool frame)
      (Pipeline.drawInRing c.recorded pool frame) DrawnAlike := by
  unfold Pipeline.drawInRing
  dsimp only
  cases pool.buffer? (pool.slotForFrame frame) with
  | none => exact alike_pure ⟨.error _, rfl⟩
  | some buffer =>
    refine alike_bind (steady.alike_render _ _) ?_
    intro _ _ rendered
    cases rendered with
    | error failure => exact alike_pure ⟨.error _, rfl⟩
    | @ok fence fence' =>
      refine alike_bind (steady.repeats_framebufferForSlot pool _) ?_
      rintro ⟨result, pool'⟩ _ rfl
      cases result with
      | ok framebuffer => exact alike_pure ⟨.ok rfl, rfl⟩
      | error e => exact steady.alike_closing fence fence' (alike_pure ⟨.error _, rfl⟩)

theorem alike_drawOnSurface (steady : Steady c interrupted view) (pool : BufferPool)
    (surface : Surface) (frame : Nat) :
    Alike view (Pipeline.drawOnSurface c.recorded pool surface frame)
      (Pipeline.drawOnSurface c.recorded pool surface frame) DrawnAlike := by
  unfold Pipeline.drawOnSurface
  refine alike_bind (steady.alike_render _ _) ?_
  intro _ _ rendered
  cases rendered with
  | error failure => exact alike_pure ⟨.error _, rfl⟩
  | @ok fence fence' =>
    refine alike_bind (steady.repeats_lockFrontBuffer pool) ?_
    rintro locked _ rfl
    cases locked with
    | error e => exact steady.alike_closing fence fence' (alike_pure ⟨.error _, rfl⟩)
    | ok buffer =>
      refine alike_bind (steady.repeats_framebufferFor pool buffer) ?_
      rintro ⟨result, pool'⟩ _ rfl
      cases result with
      | ok framebuffer => exact alike_pure ⟨.ok rfl, rfl⟩
      | error e =>
        refine alike_bind (steady.repeats_release (some buffer)) ?_
        rintro _ _ rfl
        exact steady.alike_closing fence fence' (alike_pure ⟨.error _, rfl⟩)

theorem alike_draw (steady : Steady c interrupted view) (pool : BufferPool) (frame : Nat) :
    Alike view (Pipeline.draw c.recorded pool frame) (Pipeline.draw c.recorded pool frame)
      DrawnAlike := by
  unfold Pipeline.draw
  cases pool.surface with
  | none => exact steady.alike_drawInRing pool frame
  | some surface => exact steady.alike_drawOnSurface pool surface frame

end Steady

namespace Transaction

/-- What is built of a frame, without the numbers of fences. -/
def anonymousBuilt (built : Transaction × List SkippedProperty) :
    Transaction × List SkippedProperty :=
  (built.1.anonymous, built.2)

theorem setFences_anonymous (txn : Transaction) (topology : Topology) (tables : PropertyCache)
    (framebuffer : FramebufferId) (blob : Option UInt64) (fence fence' : Fence) (wanted : Bool) :
    anonymousBuilt (txn.setFences topology tables ⟨framebuffer, blob, some fence, wanted⟩) =
      anonymousBuilt (txn.setFences topology tables ⟨framebuffer, blob, some fence', wanted⟩) := by
  unfold setFences setOptional requestOutFence
  cases tables.plane.lookup "IN_FENCE_FD" <;> cases wanted <;>
    cases tables.crtc.lookup "OUT_FENCE_PTR"
  all_goals
    simp [anonymousBuilt, anonymous, add, Assignment.anonymous, PropertyValue.anonymous,
      Fence.anonymous]

/-- Two frames that differ in their fences' numbers have transactions that differ in these. -/
theorem build_anonymous (topology : Topology) (tables : PropertyCache) (framebuffer : FramebufferId)
    (blob : Option UInt64) (fence fence' : Fence) (wanted : Bool) :
    SameUpTo anonymousBuilt (build topology tables ⟨framebuffer, blob, some fence, wanted⟩)
      (build topology tables ⟨framebuffer, blob, some fence', wanted⟩) := by
  have planed (txn : Transaction) : SameUpTo anonymousBuilt
      (txn.setPlane topology tables.plane framebuffer >>= fun planed =>
        .ok (planed.setFences topology tables ⟨framebuffer, blob, some fence, wanted⟩))
      (txn.setPlane topology tables.plane framebuffer >>= fun planed =>
        .ok (planed.setFences topology tables ⟨framebuffer, blob, some fence', wanted⟩)) := by
    cases txn.setPlane topology tables.plane framebuffer with
    | error e => exact .error e
    | ok planed => exact .ok (setFences_anonymous ..)
  unfold build
  cases blob with
  | none => exact planed _
  | some blob =>
    dsimp only
    cases (empty (frameFlags (some blob))).setMode topology.crtc tables blob with
    | error e => exact .error e
    | ok moded => exact planed moded

end Transaction

/-- What two commits have in common that differ in their fences' numbers. -/
def CommitsAlike (a b : CommitOutcome) : Prop :=
  SameUpTo (Option.map Fence.anonymous) a.result b.result

namespace Steady

theorem alike_submit (steady : Steady c interrupted view) (topology : Topology)
    (tables : PropertyCache) (request : CommitRequest) (fence fence' : Fence)
    (blob : Option UInt64) :
    Alike view
      (submit c.device.recorded topology tables { request with inFence := some fence } blob)
      (submit c.device.recorded topology tables { request with inFence := some fence' } blob)
      CommitsAlike := by
  have built := Transaction.build_anonymous topology tables request.framebuffer blob fence fence'
    request.wantOutFence
  unfold submit
  dsimp only
  generalize Transaction.build topology tables
    ⟨request.framebuffer, blob, some fence, request.wantOutFence⟩ = first at built ⊢
  generalize Transaction.build topology tables
    ⟨request.framebuffer, blob, some fence', request.wantOutFence⟩ = second at built ⊢
  cases built with
  | error e => exact alike_pure (.error e)
  | @ok txn txn' same =>
    obtain ⟨sameTxn, sameSkipped⟩ := Prod.mk.inj same
    refine alike_unseen (steady.unseen_notes _) (steady.unseen_notes _) fun _ _ _ _ => ?_
    refine alike_unseen (steady.unseen_note _) (steady.unseen_note _) fun _ _ _ _ => ?_
    have submitted : Alike view (c.device.recorded.commit txn.1) (c.device.recorded.commit txn'.1)
        (SameUpTo (Option.map Fence.anonymous)) :=
      alike_watch (steady.commit _ _ sameTxn) fun _ _ answered => by
        simp only [Exchange.outline?, sameTxn, answered.map_eq]
    refine alike_bind submitted ?_
    intro _ _ answered
    cases answered with
    | error cause => exact alike_pure (.error _)
    | ok sameFence =>
      refine alike_unseen (steady.unseen_closeFence? _) (steady.unseen_closeFence? _)
        fun _ _ _ _ => ?_
      exact alike_pure (.ok sameFence)

theorem repeats_destroyBlob (steady : Steady c interrupted view) (blob : UInt64) :
    Repeats view (destroyBlob c.device.recorded blob) := by
  have destroyed : Alike view (c.device.recorded.destroyBlob blob)
      (c.device.recorded.destroyBlob blob) fun _ _ => True :=
    alike_watch (steady.destroy blob) fun _ _ _ => rfl
  unfold destroyBlob
  refine alike_bind destroyed fun answer answer' _ => ?_
  refine (Unseen.alike (P := fun _ => True) (Q := fun _ => True) ?_ ?_).mono fun _ _ _ => rfl
  · cases answer with
    | ok _ => exact unseen_pure trivial
    | error cause => exact steady.unseen_note _
  · cases answer' with
    | ok _ => exact unseen_pure trivial
    | error cause => exact steady.unseen_note _

theorem alike_commitFrame (steady : Steady c interrupted view) (topology : Topology)
    (tables : PropertyCache) (request : CommitRequest) (fence fence' : Fence) :
    Alike view
      (commitFrame c.device.recorded topology tables { request with inFence := some fence })
      (commitFrame c.device.recorded topology tables { request with inFence := some fence' })
      CommitsAlike := by
  unfold commitFrame
  dsimp only
  cases request.allowModeset with
  | false => exact steady.alike_submit topology tables request fence fence' none
  | true =>
    refine alike_bind (repeats_call (steady.createBlob topology.mode)) ?_
    rintro answer _ rfl
    cases answer with
    | error cause => exact alike_pure (.error _)
    | ok blob =>
      refine alike_bind (steady.alike_submit topology tables request fence fence' (some blob)) ?_
      intro outcome outcome' same
      refine alike_bind (steady.repeats_destroyBlob blob) fun _ _ _ => ?_
      exact alike_pure same

theorem alike_noteIf (steady : Steady c interrupted view) {b : Bool} {n : Note}
    {next : Unit → Act (Recorded σ) α} {next' : Unit → Act (Recorded σ) β} {V : α → β → Prop}
    (h : Alike view (next ()) (next' ()) V) :
    Alike view (if b then note n >>= next else next ())
      (if b then note n >>= next' else next' ()) V := by
  cases b with
  | false => exact h
  | true => exact alike_unseen (steady.unseen_note n) (steady.unseen_note n) fun _ _ _ _ => h

end Steady

namespace Pipeline

/-- That two display paths are the same but for the pending flip and what was measured. -/
def Like (p q : Pipeline) : Prop :=
  ∃ pendingFlip throughput, q = { p with pendingFlip, throughput }

/-- What showing a frame on two such display paths gives in common. -/
def FramesLike (a b : Except DisplayError Unit × Pipeline) : Prop :=
  a.1 = b.1 ∧ a.2.Like b.2

theorem Drawn.eq_of_anonymous {drawn drawn' : Drawn} (h : drawn.anonymous = drawn'.anonymous) :
    drawn' = { drawn with fence := drawn'.fence } := by
  obtain ⟨fence, framebuffer, locked⟩ := drawn
  obtain ⟨fence', framebuffer', locked'⟩ := drawn'
  obtain ⟨-, rfl, rfl⟩ := by simpa [anonymous] using h
  rfl

end Pipeline

namespace Steady

open Pipeline (Like FramesLike)

theorem alike_discard (steady : Steady c interrupted view) (drawn : Pipeline.Drawn)
    (renderFence : Fence) (fence fence' : Option Fence) :
    Alike view (Pipeline.discard c.allocator.recorded drawn fence)
      (Pipeline.discard c.allocator.recorded { drawn with fence := renderFence } fence') Eq := by
  refine alike_unseen (steady.unseen_closeFence? fence) (steady.unseen_closeFence? fence')
    fun _ _ _ _ => ?_
  exact steady.repeats_release drawn.locked

theorem alike_flipped (steady : Steady c interrupted view) {p q : Pipeline} (like : p.Like q)
    (drawn : Pipeline.Drawn) (renderFence : Fence) (outFence outFence' : Option Fence) :
    Alike view (Pipeline.flipped c.allocator.recorded p drawn outFence)
      (Pipeline.flipped c.allocator.recorded q { drawn with fence := renderFence } outFence')
      Like := by
  obtain ⟨pending, throughput, rfl⟩ := like
  unfold Pipeline.flipped
  refine steady.alike_noteIf ?_
  refine alike_unseen steady.unseen_now steady.unseen_now fun time time' _ _ => ?_
  dsimp only
  refine alike_unseen (steady.unseen_notes _) (steady.unseen_notes _) fun _ _ _ _ => ?_
  cases drawn.locked with
  | none => exact alike_pure ⟨_, _, rfl⟩
  | some buffer =>
    refine alike_bind (steady.repeats_release p.onScreen) fun _ _ _ => ?_
    exact alike_pure ⟨_, _, rfl⟩

theorem alike_flip (steady : Steady c interrupted view) {p q : Pipeline} (like : p.Like q)
    (frame : Nat) (drawn : Pipeline.Drawn) (renderFence : Fence) :
    Alike view (p.flip c.recorded frame drawn)
      (q.flip c.recorded frame { drawn with fence := renderFence }) FramesLike := by
  obtain ⟨pending, throughput, rfl⟩ := like
  have committed := steady.alike_commitFrame p.topology p.tables (p.commitRequest frame drawn)
    drawn.fence renderFence
  unfold Pipeline.flip
  refine alike_bind committed ?_
  rintro ⟨result, inFence⟩ ⟨result', inFence'⟩ same
  obtain same : SameUpTo _ result result' := same
  cases same with
  | @ok outFence outFence' _ =>
    refine alike_bind (steady.alike_flipped ⟨_, _, rfl⟩ drawn renderFence outFence outFence') ?_
    intro p' q' like
    exact alike_pure ⟨rfl, like⟩
  | error e =>
    refine alike_bind (steady.alike_discard drawn renderFence inFence inFence') fun _ _ _ => ?_
    exact alike_pure ⟨rfl, _, _, rfl⟩

/-- A frame goes alike on two display paths of which one may still have to wait for a flip. -/
theorem alike_presentFrame (steady : Steady c interrupted view) {p q : Pipeline} (like : p.Like q) :
    Alike view (p.presentFrame c.recorded) (q.presentFrame c.recorded) FramesLike := by
  obtain ⟨pending, throughput, rfl⟩ := like
  unfold Pipeline.presentFrame
  refine alike_unseen (steady.unseen_queueGpuWait _) (steady.unseen_queueGpuWait _)
    fun _ _ _ _ => ?_
  refine alike_bind (steady.alike_draw p.pool p.frame) ?_
  rintro ⟨result, pool⟩ ⟨result', pool'⟩ ⟨same, samePool⟩
  obtain rfl : pool = pool' := samePool
  obtain same : SameUpTo _ result result' := same
  cases same with
  | error e => exact alike_pure ⟨rfl, _, _, rfl⟩
  | @ok drawn drawn' same =>
    -- Here the one waits for its flip, and from here on neither has one pending.
    refine alike_unseen (steady.unseen_finish _) (steady.unseen_finish _) ?_
    rintro _ _ rfl rfl
    rw [Pipeline.Drawn.eq_of_anonymous same]
    exact steady.alike_flip ⟨_, _, rfl⟩ p.frame drawn drawn'.fence

end Steady

end Scanout
