import Scanout.Proofs.Life
import Scanout.Proofs.RingKept

namespace Scanout

variable {τ α β : Type} {I : τ → Prop}

/-- That `I` holds after an act where it held before. -/
def Preserves (I : τ → Prop) (act : Act τ α) : Prop :=
  ∀ s, I s → I (act s).2

theorem preserves_pure (a : α) : Preserves I (pure a) :=
  fun _ h => h

theorem preserves_bind {act : Act τ α} {next : α → Act τ β} (h : Preserves I act)
    (hn : ∀ s, I s → Preserves I (next (act s).1)) : Preserves I (act >>= next) :=
  fun s hs => hn s hs _ (h s hs)

theorem preserves_then {act : Act τ α} {next : α → Act τ β} (h : Preserves I act)
    (hn : ∀ a, Preserves I (next a)) : Preserves I (act >>= next) :=
  preserves_bind h fun _ _ => hn _

variable [World τ]

/-- That `I` stands whatever is logged, asked of the clock or closed. -/
structure Standing (I : τ → Prop) : Prop where
  logged : ∀ n s, I s → I (World.record n s)
  timed : ∀ s, I s → I (World.now s).2
  closed : ∀ fence s, I s → I (World.close fence s)

namespace Standing

theorem note (h : Standing I) (n : Note) : Preserves I (note n) :=
  h.logged n

theorem noteIf (h : Standing I) {b : Bool} {n : Note} {next : Unit → Act τ β}
    (hn : Preserves I (next ())) :
    Preserves I (if b then Scanout.note n >>= next else next ()) := by
  cases b with
  | false => exact hn
  | true => exact preserves_then (h.note n) fun _ => hn

theorem notes (h : Standing I) (ns : List Note) : Preserves I (notes ns) := by
  induction ns with
  | nil => exact preserves_pure ()
  | cons n rest ih => exact preserves_then (h.note n) fun _ => ih

theorem now (h : Standing I) : Preserves I now :=
  h.timed

theorem closeFence (h : Standing I) (fence : Fence) : Preserves I (closeFence fence) :=
  h.closed fence

theorem closeFence? (h : Standing I) (fence : Option Fence) : Preserves I (closeFence? fence) := by
  cases fence with
  | none => exact preserves_pure ()
  | some fence => exact h.closeFence fence

end Standing

/-- That `I` stands whatever a display path calls, as long as it draws into buffers of `ring`. -/
structure Collaborators.Uphold (c : Collaborators τ) (I : τ → Prop) (ring : Nat → Option Buffer) :
    Prop extends Standing I where
  blobCreated : ∀ mode, Preserves I (c.device.createBlob mode)
  blobDestroyed : ∀ blob, Preserves I (c.device.destroyBlob blob)
  framebufferAdded : ∀ layout withModifiers,
    Preserves I (c.device.addFramebuffer layout withModifiers)
  committed : ∀ txn, Preserves I (c.device.commit txn)
  released : ∀ buffer, Preserves I (c.allocator.release buffer)
  gpuWaited : ∀ fence, Preserves I (c.renderer.waitForScanout fence)
  drawn : ∀ slot buffer frame, ring slot = some buffer →
    Preserves I (c.renderer.render (.slot slot buffer) frame)
  waited : ∀ fence, Preserves I (c.waiter.wait fence)

/-- That a pool is a ring with these buffers in its slots. -/
def BufferPool.HasRing (pool : BufferPool) (ring : Nat → Option Buffer) : Prop :=
  pool.surface = none ∧ ∀ slot, pool.buffer? slot = ring slot

theorem BufferPool.RingKept.hasRing {pool later : BufferPool} {ring : Nat → Option Buffer}
    (h : pool.RingKept later) (hr : pool.HasRing ring) : later.HasRing ring :=
  ⟨h.surface, fun slot => (h.buffers slot).trans (hr.2 slot)⟩

namespace Collaborators.Uphold

variable {c : Collaborators τ} {ring : Nat → Option Buffer}

theorem createFramebuffer (h : c.Uphold I ring) (layout : Layout) :
    Preserves I (createFramebuffer c.device layout) := by
  unfold Scanout.createFramebuffer
  cases layout.explicitModifier with
  | none =>
    refine preserves_then (h.framebufferAdded _ _) ?_
    rintro (cause | framebuffer) <;> exact preserves_pure _
  | some modifier =>
    refine preserves_then (h.note _) fun _ => ?_
    refine preserves_then (h.framebufferAdded _ _) ?_
    rintro (refused | framebuffer)
    · refine preserves_then (h.note _) fun _ => ?_
      refine preserves_then (h.framebufferAdded _ _) ?_
      rintro (cause | framebuffer) <;> exact preserves_pure _
    · exact preserves_pure _

theorem ensureFramebuffer (h : c.Uphold I ring) (pool : BufferPool) (index : Nat)
    (entry : PoolEntry) (buffer : Buffer) :
    Preserves I (pool.ensureFramebuffer c.device index entry buffer) := by
  unfold BufferPool.ensureFramebuffer
  cases entry.framebuffer with
  | some framebuffer => exact preserves_pure _
  | none =>
    refine preserves_then (h.createFramebuffer _) ?_
    rintro (e | framebuffer)
    · exact preserves_pure _
    · exact preserves_then (h.note _) fun _ => preserves_pure _

theorem framebufferForSlot (h : c.Uphold I ring) (pool : BufferPool) (slot : Nat) :
    Preserves I (pool.framebufferForSlot c.device slot) := by
  unfold BufferPool.framebufferForSlot
  cases pool.entries[slot]? with
  | none => exact preserves_pure _
  | some entry =>
    cases he : entry.buffer with
    | none => simpa only [he] using preserves_pure _
    | some buffer => simpa only [he] using h.ensureFramebuffer pool slot entry buffer

theorem draw (h : c.Uphold I ring) {pool : BufferPool} (hr : pool.HasRing ring) (frame : Nat) :
    Preserves I (Pipeline.draw c pool frame) := by
  unfold Pipeline.draw
  rw [hr.1]
  unfold Pipeline.drawInRing
  cases hb : pool.buffer? (pool.slotForFrame frame) with
  | none => simpa only [hb] using preserves_pure _
  | some buffer =>
    simp only [hb]
    refine preserves_then (h.drawn _ _ _ ((hr.2 _).symm.trans hb)) ?_
    rintro (failure | fence)
    · exact preserves_pure _
    · refine preserves_then (h.framebufferForSlot _ _) ?_
      rintro ⟨e | framebuffer, pool⟩
      · exact preserves_then (h.closeFence _) fun _ => preserves_pure _
      · exact preserves_pure _

theorem finish (h : Standing I) {waiter : Waiter τ}
    (waited : ∀ fence, Preserves I (waiter.wait fence)) (p : Pipeline) :
    Preserves I (p.finish waiter) := by
  unfold Pipeline.finish
  cases p.pendingFlip with
  | none => exact preserves_pure _
  | some fence =>
    refine preserves_then (waited fence) fun result => ?_
    refine preserves_then (h.closeFence fence) fun _ => ?_
    cases result <;> exact preserves_pure _

theorem release (h : c.Uphold I ring) (buffer : Option Buffer) :
    Preserves I (Pipeline.release c.allocator buffer) := by
  cases buffer with
  | none => exact preserves_pure ()
  | some buffer => exact h.released buffer

theorem discard (h : c.Uphold I ring) (drawn : Pipeline.Drawn) (fence : Option Fence) :
    Preserves I (Pipeline.discard c.allocator drawn fence) :=
  preserves_then (h.closeFence? fence) fun _ => h.release drawn.locked

theorem flipped (h : c.Uphold I ring) (p : Pipeline) (drawn : Pipeline.Drawn)
    (outFence : Option Fence) : Preserves I (Pipeline.flipped c.allocator p drawn outFence) := by
  unfold Pipeline.flipped
  refine h.noteIf ?_
  refine preserves_then h.now fun time => ?_
  refine preserves_then (h.notes _) fun _ => ?_
  cases drawn.locked with
  | none => exact preserves_pure _
  | some buffer => exact preserves_then (h.release _) fun _ => preserves_pure _

theorem submit (h : c.Uphold I ring) (topology : Topology) (tables : PropertyCache)
    (request : CommitRequest) (blob : Option UInt64) :
    Preserves I (submit c.device topology tables request blob) := by
  unfold Scanout.submit
  simp only
  split
  · exact preserves_pure _
  · refine preserves_then (h.notes _) fun _ => ?_
    refine preserves_then (h.note _) fun _ => ?_
    refine preserves_then (h.committed _) ?_
    rintro (cause | outFence)
    · exact preserves_pure _
    · exact preserves_then (h.closeFence? _) fun _ => preserves_pure _

theorem destroyBlob (h : c.Uphold I ring) (blob : UInt64) :
    Preserves I (destroyBlob c.device blob) := by
  refine preserves_then (h.blobDestroyed blob) ?_
  rintro (cause | _)
  · exact h.note _
  · exact preserves_pure _

theorem commitFrame (h : c.Uphold I ring) (topology : Topology) (tables : PropertyCache)
    (request : CommitRequest) : Preserves I (commitFrame c.device topology tables request) := by
  unfold Scanout.commitFrame
  cases request.allowModeset with
  | false => exact h.submit _ _ _ _
  | true =>
    refine preserves_then (h.blobCreated _) ?_
    rintro (cause | blob)
    · exact preserves_pure _
    · refine preserves_then (h.submit _ _ _ _) fun outcome => ?_
      exact preserves_then (h.destroyBlob blob) fun _ => preserves_pure _

theorem flip (h : c.Uphold I ring) (p : Pipeline) (frame : Nat) (drawn : Pipeline.Drawn) :
    Preserves I (Pipeline.flip c p frame drawn) := by
  refine preserves_then (h.commitFrame _ _ _) ?_
  rintro ⟨e | outFence, inFence⟩
  · exact preserves_then (h.discard _ _) fun _ => preserves_pure _
  · exact preserves_then (h.flipped _ _ _) fun _ => preserves_pure _

theorem queueGpuWait (h : c.Uphold I ring) (pending : Option Fence) :
    Preserves I (Pipeline.queueGpuWait c.renderer pending) := by
  cases pending with
  | none => exact preserves_pure ()
  | some fence =>
    refine preserves_then (h.gpuWaited fence) ?_
    rintro (failure | _)
    · exact h.note _
    · exact preserves_pure _

theorem presentFrame (h : c.Uphold I ring) {p : Pipeline} (hr : p.pool.HasRing ring) :
    Preserves I (p.presentFrame c) := by
  unfold Pipeline.presentFrame
  refine preserves_then (h.queueGpuWait _) fun _ => ?_
  refine preserves_then (h.draw hr _) ?_
  rintro ⟨e | drawn, pool⟩
  · exact preserves_pure _
  · refine preserves_then (finish h.toStanding h.waited _) ?_
    rintro ⟨e | _, q⟩
    · exact preserves_then (h.discard _ _) fun _ => preserves_pure _
    · exact h.flip _ _ _

end Collaborators.Uphold

theorem Pipeline.presentFrame_hasRing {c : Collaborators τ} {ring : Nat → Option Buffer}
    {p : Pipeline} (hr : p.pool.HasRing ring) (s : τ) :
    (p.presentFrame c s).1.2.pool.HasRing ring := by
  obtain ⟨same, record⟩ := (Pipeline.records_presentFrame c p).fresh s
  rw [← congrArg Prod.fst same]
  exact (ringKept_compositional.frame record hr.1).hasRing hr

namespace Collaborators.Uphold

variable {c : Collaborators τ} {ring : Nat → Option Buffer} {p : Pipeline}

theorem loop (h : c.Uphold I ring) {interrupted : Act τ Bool} (polled : Preserves I interrupted)
    (patience : Nat) (budget : Option Nat) (presented : Nat) (hr : p.pool.HasRing ring) :
    Preserves I (p.loop c interrupted patience budget presented) := by
  induction patience generalizing budget presented p with
  | zero =>
    unfold Pipeline.loop
    split <;> exact preserves_pure _
  | succ patience ih =>
    unfold Pipeline.loop
    split
    · exact preserves_pure _
    · refine preserves_then polled ?_
      rintro (_ | _)
      · refine preserves_bind (h.presentFrame hr) ?_
        intro s _
        have kept := Pipeline.presentFrame_hasRing (c := c) hr s
        generalize (p.presentFrame c s).1 = shown at kept ⊢
        obtain ⟨e | _, q⟩ := shown
        · cases he : e.isPerFrame with
          | true =>
            simp only [he, ↓reduceIte]
            exact preserves_then (h.note _) fun _ => ih _ _ kept
          | false =>
            simp only [he, Bool.false_eq_true, ↓reduceIte]
            exact preserves_pure _
        · exact ih _ _ kept
      · exact preserves_then (h.note _) fun _ => preserves_pure _

theorem run (h : c.Uphold I ring) {interrupted : Act τ Bool} (polled : Preserves I interrupted)
    (patience : Nat) (budget : Option Nat) (hr : p.pool.HasRing ring) :
    Preserves I (p.run c interrupted patience budget) := by
  unfold Pipeline.run
  split
  · exact preserves_pure _
  · refine preserves_then h.now fun time => ?_
    refine preserves_then (h.loop polled patience budget 0 hr) ?_
    rintro ⟨_ | e | _, presented, q⟩
    · refine preserves_then (finish h.toStanding h.waited q) ?_
      rintro ⟨e | _, q⟩ <;> exact preserves_pure _
    · exact preserves_pure _
    · exact preserves_pure _

end Collaborators.Uphold

namespace Request

variable {device : Device τ} {allocator : Allocator τ} {ring : Nat → Option Buffer} {p : Pipeline}

/-- That `I` stands whatever a call on a display path leads to. -/
def Uphold (I : τ → Prop) (ring : Nat → Option Buffer) (device : Device τ)
    (allocator : Allocator τ) : Request τ → Prop
  | present renderer waiter => Collaborators.Uphold ⟨device, allocator, renderer, waiter⟩ I ring
  | finish waiter => Standing I ∧ ∀ fence, Preserves I (waiter.wait fence)
  | run renderer waiter interrupted _ _ =>
    Collaborators.Uphold ⟨device, allocator, renderer, waiter⟩ I ring ∧ Preserves I interrupted

theorem Uphold.answer {request : Request τ} (h : request.Uphold I ring device allocator)
    (hr : p.pool.HasRing ring) : Preserves I (request.answer device allocator p) := by
  cases request with
  | present renderer waiter =>
    exact preserves_then (Collaborators.Uphold.presentFrame h hr) fun _ => preserves_pure _
  | finish waiter =>
    exact preserves_then (Collaborators.Uphold.finish h.1 h.2 p) fun _ => preserves_pure _
  | run renderer waiter interrupted patience budget =>
    exact preserves_then (h.1.run h.2 patience budget hr) fun _ => preserves_pure _

theorem answer_hasRing (request : Request τ) (hr : p.pool.HasRing ring) (s : τ) :
    (request.answer device allocator p s).1.2.pool.HasRing ring := by
  obtain ⟨same, record⟩ := (records_answer device allocator p request).fresh s
  rw [← congrArg Prod.fst same]
  exact (ringKept_compositional.steps (answer_steps record) hr.1).hasRing hr

/-- What stands through every call stands through any number of them. -/
theorem uphold_answerAll {hear : Entry → Act τ Unit} {requests : List (Request τ)}
    (heard : ∀ entry, Preserves I (hear entry))
    (h : ∀ request ∈ requests, request.Uphold I ring device allocator)
    (hr : p.pool.HasRing ring) : Preserves I (answerAll hear device allocator p requests) := by
  induction requests generalizing p with
  | nil => exact preserves_pure p
  | cons request rest ih =>
    obtain ⟨first, others⟩ := List.forall_mem_cons.mp h
    refine preserves_then (heard _) fun _ => ?_
    refine preserves_bind (first.answer hr) ?_
    intro s _
    exact ih others (answer_hasRing request hr s)

end Request

end Scanout
