import Scanout.Proofs.FencedRun
import Scanout.Proofs.MemoryAnswers
import Scanout.Proofs.MemorySetUp
import Scanout.Proofs.Modeset

namespace Scanout

open MemoryDisplay (inFenceProperty outputTables)
open BufferPool (EnsureRecord)
open Pipeline (DrawRecord Drawn FinishRecord FlipRecord FrameRecord GpuWaitRecord)

/-- The log that some calls leave in memory. -/
def memoryLog (events : List Exchange) : List MemoryEvent :=
  events.filterMap Exchange.memoryEvent?

@[simp] theorem memoryLog_append (events later : List Exchange) :
    memoryLog (events ++ later) = memoryLog events ++ memoryLog later :=
  List.filterMap_append

@[simp] theorem memoryLog_cons (e : Exchange) (later : List Exchange) :
    memoryLog (e :: later) = e.memoryEvent?.toList ++ memoryLog later := by
  cases he : e.memoryEvent? <;> simp [memoryLog, he]

@[simp] theorem memoryLog_nil : memoryLog [] = [] :=
  rfl

namespace MemoryDisplay

theorem outputTables_complete (modeset : Bool) : outputTables.missing? modeset = none := by
  cases modeset <;> decide +kernel

theorem outputTables_inFence : outputTables.plane.lookup "IN_FENCE_FD" = some inFenceProperty := by
  decide +kernel

theorem outputTables_outFence : outputTables.crtc.lookup "OUT_FENCE_PTR" = some ⟨203⟩ := by
  decide +kernel

theorem fenced_in_memory {p : Pipeline} (tables : p.tables = outputTables) (failing : Nat) :
    p.checkFences (MemoryRenderer.plain.failingAt failing).renderer = .ok () := by
  have none : p.fenceGap? (MemoryRenderer.plain.failingAt failing).renderer = .none := by
    rw [← Pipeline.fenceReady_iff]
    refine ⟨rfl, ?_, ?_⟩
    · simp [tables, outputTables_inFence]
    · simp [tables, outputTables_outFence]
  simp [Pipeline.checkFences, none]

/-- What a frame's commit is like on the output in memory: it can be built, and both fences are in
it. -/
theorem build_in_memory (topology : Topology) (content : Transaction.FrameContent) {fence : Fence}
    (gated : content.inFence = some fence) (wanted : content.wantOutFence = true) :
    ∃ txn skipped, Transaction.build topology outputTables content = .ok (txn, skipped) ∧
      txn.flags.contains .allowModeset = content.modeBlob.isSome ∧
      txn.assignments.any (·.property == inFenceProperty) = true ∧ txn.outFence.isSome = true := by
  have complete := Transaction.errorOf_build topology outputTables content
  rw [outputTables_complete] at complete
  cases built : Transaction.build topology outputTables content with
  | error e => simp [built, errorOf] at complete
  | ok result =>
    obtain ⟨txn, skipped⟩ := result
    obtain ⟨moded, planed, rfl, -, -⟩ := Transaction.build_ok built
    refine ⟨_, skipped, rfl, ?_, ?_, ?_⟩
    · exact frameFlags_allowModeset content.modeBlob
    · simp [Transaction.ofFrame, Transaction.fenceAssignments, gated, outputTables_inFence]
    · simp [Transaction.ofFrame, Transaction.outFenceRequest, wanted, outputTables_outFence]

end MemoryDisplay

/-- How a framebuffer is asked for in memory, where it is made at once. -/
def Layout.framebufferEvent (layout : Layout) : MemoryEvent :=
  if layout.explicitModifier.isSome then .addFramebuffer layout true
  else .addFramebuffer layout.singlePlane false

section Drawing

variable {failing k : Nat} {added : List Exchange}

theorem FramebufferRecord.inMemory {layout : Layout} {result : Except DisplayError FramebufferId}
    (h : FramebufferRecord layout result added) (answered : AnsweredInMemory failing k added) :
    (∃ framebuffer, result = .ok framebuffer) ∧ memoryLog added = [layout.framebufferEvent] ∧
      submissions added = 0 := by
  cases h with
  | explicit framebuffer hm =>
    exact ⟨⟨framebuffer, rfl⟩, by simp [Layout.framebufferEvent, hm]; rfl, rfl⟩
  | legacy answer hm =>
    cases answer with
    | error cause => exact absurd answered.1 Bool.false_ne_true
    | ok framebuffer => exact ⟨⟨framebuffer, rfl⟩, by simp [Layout.framebufferEvent, hm]; rfl, rfl⟩
  | fellBack cause => exact absurd answered.1 Bool.false_ne_true

theorem BufferPool.framebuffer?_withFramebuffer_other {pool : BufferPool} {slot : Nat}
    {entry : PoolEntry} (framebuffer : FramebufferId) {other : Nat} (h : other ≠ slot) :
    (pool.withFramebuffer slot entry framebuffer).framebuffer? other = pool.framebuffer? other := by
  simp [framebuffer?, withFramebuffer, List.getElem?_set_ne (Ne.symm h)]

/-- A slot's framebuffer is made in memory if there is none, and no other slot is touched. -/
theorem BufferPool.EnsureRecord.inMemory {pool pool' : BufferPool} {slot : Nat}
    {entry : PoolEntry} {buffer : Buffer} {result : Except DisplayError FramebufferId}
    (h : pool.EnsureRecord slot entry buffer (result, pool') added)
    (he : pool.entries[slot]? = some entry) (answered : AnsweredInMemory failing k added) :
    (∃ framebuffer, result = .ok framebuffer) ∧
      (∀ other, (pool'.framebuffer? other).isSome =
        (other == slot || (pool.framebuffer? other).isSome)) ∧
      memoryLog added =
        (if (pool.framebuffer? slot).isSome then [] else [buffer.layout.framebufferEvent]) ∧
      submissions added = 0 := by
  have held : pool.framebuffer? slot = entry.framebuffer := by simp [framebuffer?, he]
  cases h with
  | cached made =>
    rw [made] at held
    refine ⟨⟨_, rfl⟩, fun other => ?_, by simp [held], rfl⟩
    by_cases same : other = slot <;> simp [same, held]
  | failed _ hr =>
    obtain ⟨⟨_, impossible⟩, -⟩ := hr.inMemory answered
    cases impossible
  | @created framebuffer _ bare hr =>
    obtain ⟨-, log, quiet⟩ := hr.inMemory answered
    rw [bare] at held
    refine ⟨⟨_, rfl⟩, fun other => ?_, by simp [held, log], quiet⟩
    by_cases same : other = slot
    · subst same
      simp [framebuffer?_withFramebuffer framebuffer he]
    · simp [framebuffer?_withFramebuffer_other framebuffer same, same]

/-- Drawing a frame into a slot of the ring in memory, and the log of that. -/
inductive DrawnInMemory (failing : Nat) (pool : BufferPool) (frame : Nat) (buffer : Buffer) :
    Except DisplayError Drawn × BufferPool → List MemoryEvent → Prop
  | failed (failure : Failure) : frame = failing →
      DrawnInMemory failing pool frame buffer (.error (.renderFailed failure), pool) []
  | drawn {pool' : BufferPool} (fence : Fence) (framebuffer : FramebufferId) : frame ≠ failing →
      (∀ other, (pool'.framebuffer? other).isSome =
        (other == pool.slotForFrame frame || (pool.framebuffer? other).isSome)) →
      DrawnInMemory failing pool frame buffer (.ok ⟨fence, framebuffer, none⟩, pool')
        (.render frame :: if (pool.framebuffer? (pool.slotForFrame frame)).isSome then []
          else [buffer.layout.framebufferEvent])

theorem Pipeline.DrawRecord.inMemory {pool : BufferPool} {frame : Nat} {buffer : Buffer}
    {result : Except DisplayError Drawn × BufferPool} (h : DrawRecord pool frame result added)
    (ring : pool.surface = none) (hb : pool.buffer? (pool.slotForFrame frame) = some buffer)
    (answered : AnsweredInMemory failing k added) :
    DrawnInMemory failing pool frame buffer result (memoryLog added) ∧ submissions added = 0 := by
  have held {entry : PoolEntry} {other : Buffer}
      (he : pool.entries[pool.slotForFrame frame]? = some entry)
      (hbuf : entry.buffer = some other) : other = buffer := by
    simpa [BufferPool.buffer?, he, hbuf] using hb
  cases h with
  | slotEmpty _ _ empty => simp [empty] at hb
  | slotUndrawn failure => exact ⟨.failed failure answered.1, rfl⟩
  | slotUnframed fence _ he _ hr =>
    obtain ⟨-, others⟩ := answered
    obtain ⟨⟨_, impossible⟩, -⟩ := hr.inMemory he (answeredInMemory_append.mp others).1
    cases impossible
  | @slotDrawn entry other framebuffer pool' making fence _ he hbuf hr =>
    obtain ⟨unfailing, others⟩ := answered
    obtain ⟨-, filled, log, quiet⟩ := hr.inMemory he others
    obtain rfl := held he hbuf
    have whole : DrawnInMemory failing pool frame other _ _ :=
      .drawn fence framebuffer unfailing filled
    rw [← log] at whole
    exact ⟨whole, quiet⟩
  | surfaceUndrawn _ hs => simp [ring] at hs
  | surfaceUnlocked _ _ hs => simp [ring] at hs
  | surfaceUnframed _ hs => simp [ring] at hs
  | surfaceDrawn _ hs => simp [ring] at hs

end Drawing

section Committing

variable {failing k : Nat} {added : List Exchange} {topology : Topology} {request : CommitRequest}
  {outcome : CommitOutcome}

/-- What a submission leaves in the log while so many are still to be rejected. -/
def submissionEvent (rejections : Nat) (modeset : Bool) : MemoryEvent :=
  if 0 < rejections then .rejected modeset else .commit modeset true true

/-- What a commit leaves in the log: its submission, with the mode blob that lives as long if the
mode is to be set. -/
def commitLog (rejections : Nat) (modeset : Bool) (blob : UInt64) : List MemoryEvent :=
  if modeset then [.createBlob blob, submissionEvent rejections true, .destroyBlob blob]
  else [submissionEvent rejections false]

/-- What comes of a submission while so many are still to be rejected. -/
inductive SubmittedInMemory : Nat → Except DisplayError (Option Fence) → Prop
  | rejected {rejections : Nat} : 0 < rejections →
      SubmittedInMemory rejections (.error (.commitRejected .busy))
  | accepted (outFence : Fence) : SubmittedInMemory 0 (.ok (some outFence))

theorem SubmitRecord.inMemory {blob : Option UInt64} {fence : Fence}
    (h : SubmitRecord topology outputTables request blob outcome added)
    (gated : request.inFence = some fence) (wanted : request.wantOutFence = true)
    (answered : AnsweredInMemory failing k added) :
    SubmittedInMemory k outcome.result ∧ memoryLog added = [submissionEvent k blob.isSome] ∧
      submissions added = 1 := by
  obtain ⟨txn, skipped, built, modeset, inFence, wantedOut⟩ :=
    MemoryDisplay.build_in_memory topology
      ⟨request.framebuffer, blob, request.inFence, request.wantOutFence⟩ gated wanted
  cases h with
  | unbuilt failed => simp [built] at failed
  | rejected cause same =>
    obtain ⟨rfl, rfl⟩ := Prod.mk.inj (Except.ok.inj (built.symm.trans same))
    obtain ⟨⟨left, rfl⟩, -⟩ := answered
    refine ⟨.rejected left, ?_, rfl⟩
    simp [Exchange.memoryEvent?, submissionEvent, left, modeset]
  | accepted given same =>
    obtain ⟨rfl, rfl⟩ := Prod.mk.inj (Except.ok.inj (built.symm.trans same))
    obtain ⟨⟨rfl, asked⟩, -⟩ := answered
    obtain ⟨outFence, rfl⟩ := Option.isSome_iff_exists.mp (asked.trans wantedOut)
    rw [gated]
    refine ⟨.accepted outFence, ?_, rfl⟩
    simp [Exchange.memoryEvent?, submissionEvent, modeset, inFence, wantedOut]

theorem CommitRecord.inMemory {fence : Fence}
    (h : CommitRecord topology outputTables request outcome added)
    (gated : request.inFence = some fence) (wanted : request.wantOutFence = true)
    (answered : AnsweredInMemory failing k added) :
    SubmittedInMemory k outcome.result ∧ submissions added = 1 ∧
      ∃ blob, memoryLog added = commitLog k request.allowModeset blob := by
  cases h with
  | flip unset hs =>
    obtain ⟨result, log, one⟩ := hs.inMemory gated wanted answered
    exact ⟨result, one, 0, by simpa [commitLog, unset] using log⟩
  | blobless cause => exact absurd answered.1 Bool.false_ne_true
  | @modeset outcome submitting blob answer set hs =>
    obtain ⟨-, others⟩ := answered
    change AnsweredInMemory failing k _ at others
    obtain ⟨result, log, one⟩ := hs.inMemory gated wanted (answeredInMemory_append.mp others).1
    refine ⟨result, ?_, blob, by simp [Exchange.memoryEvent?, commitLog, log, set]⟩
    rw [submissions_cons, submissions_append, one]
    rfl

end Committing

namespace Pipeline

variable {failing k : Nat} {added : List Exchange} {p : Pipeline}

theorem GpuWaitRecord.inMemory {pending : Option Fence} (h : GpuWaitRecord pending added) :
    memoryLog added = (if pending.isSome then [.gpuWait] else []) ∧ submissions added = 0 := by
  cases h <;> exact ⟨rfl, rfl⟩

theorem FinishRecord.inMemory {result : Except DisplayError Unit × Pipeline}
    (h : p.FinishRecord result added) (answered : AnsweredInMemory failing k added) :
    result = (.ok (), { p with pendingFlip := none }) ∧
      memoryLog added = (if p.pendingFlip.isSome then [.wait] else []) ∧
      submissions added = 0 := by
  have left := h.leaves
  cases h with
  | idle hp => exact ⟨by rw [← left], by simp [hp], rfl⟩
  | waited hp => exact ⟨rfl, by simp [hp, Exchange.memoryEvent?], rfl⟩
  | failed cause => cases answered.1

theorem FlipRecord.inMemory {frame : Nat} {drawn : Drawn}
    {result : Except DisplayError Unit × Pipeline} (h : p.FlipRecord frame drawn result added)
    (tables : p.tables = outputTables) (ring : drawn.locked = none)
    (answered : AnsweredInMemory failing k added) :
    result.1 = (if 0 < k then .error (.commitRejected .busy) else .ok ()) ∧
      result.2.frame = p.frame ∧ result.2.pool = p.pool ∧
      result.2.allowModeset = (p.allowModeset && decide (0 < k)) ∧
      (p.pendingFlip = none → result.2.pendingFlip.isSome = decide (k = 0)) ∧
      submissions added = 1 ∧ ∃ blob, memoryLog added = commitLog k p.allowModeset blob := by
  cases h with
  | shown throughput hc =>
    rw [tables] at hc
    obtain ⟨submitted, one, blob, log⟩ :=
      hc.inMemory rfl rfl (answeredInMemory_append.mp answered).1
    cases submitted with
    | accepted outFence =>
      refine ⟨rfl, rfl, rfl, by simp [afterFlip], fun _ => rfl, ?_, blob, ?_⟩
      · simp [ring, one]
      · simpa [ring, commitRequest] using log
  | @refused e inFence committing hc =>
    rw [tables] at hc
    obtain ⟨submitted, one, blob, log⟩ :=
      hc.inMemory rfl rfl (answeredInMemory_append.mp answered).1
    have closed : memoryLog (inFence.toList.map .closed) = [] ∧
        submissions (inFence.toList.map .closed) = 0 := by
      cases inFence <;> exact ⟨rfl, rfl⟩
    cases submitted with
    | rejected left =>
      refine ⟨by simp [left], rfl, rfl, by simp [left], ?_, ?_, blob, ?_⟩
      · intro none
        simp [none]
        omega
      · simp [ring, one, closed]
      · simpa [ring, closed, commitRequest] using log

/-- What a frame that is drawn and submitted leaves in the log. -/
def frameLog (k : Nat) (p : Pipeline) (buffer : Buffer) (blob : UInt64) : List MemoryEvent :=
  (if p.pendingFlip.isSome then [.gpuWait] else []) ++ (.render p.frame ::
    ((if (p.pool.framebuffer? (p.pool.slotForFrame p.frame)).isSome then []
      else [buffer.layout.framebufferEvent]) ++
    ((if p.pendingFlip.isSome then [.wait] else []) ++ commitLog k p.allowModeset blob)))

/-- A frame in memory whose drawing fails, or that is drawn and submitted. -/
inductive FrameInMemory (failing k : Nat) (p : Pipeline) (buffer : Buffer) :
    Except DisplayError Unit × Pipeline → List MemoryEvent → Prop
  | undrawn (failure : Failure) : p.frame = failing →
      FrameInMemory failing k p buffer
        (.error (.renderFailed failure), { p with frame := p.frame + 1 })
        (if p.pendingFlip.isSome then [.gpuWait] else [])
  | submitted {q : Pipeline} (blob : UInt64) : p.frame ≠ failing → q.frame = p.frame + 1 →
      q.allowModeset = (p.allowModeset && decide (0 < k)) →
      q.pendingFlip.isSome = decide (k = 0) →
      (∀ slot, (q.pool.framebuffer? slot).isSome =
        (slot == p.pool.slotForFrame p.frame || (p.pool.framebuffer? slot).isSome)) →
      FrameInMemory failing k p buffer
        (if 0 < k then .error (.commitRejected .busy) else .ok (), q)
        (p.frameLog k buffer blob)

theorem FrameRecord.inMemory {buffer : Buffer} {result : Except DisplayError Unit × Pipeline}
    (h : p.FrameRecord result added) (tables : p.tables = outputTables)
    (ring : p.pool.surface = none)
    (hb : p.pool.buffer? (p.pool.slotForFrame p.frame) = some buffer)
    (answered : AnsweredInMemory failing k added) :
    FrameInMemory failing k p buffer result (memoryLog added) ∧
      submissions added = if p.frame = failing then 0 else 1 := by
  have later {before after : List Exchange} (quiet : submissions before = 0)
      (answered : AnsweredInMemory failing k (before ++ after)) :
      AnsweredInMemory failing k after := by
    simpa [quiet] using (answeredInMemory_append.mp answered).2
  cases h with
  | undrawn hq hd =>
    obtain ⟨log, quiet⟩ := hq.inMemory
    obtain ⟨drawing, undrawn⟩ := hd.inMemory ring hb (later quiet answered)
    rw [memoryLog_append, submissions_append, log, quiet, undrawn]
    generalize memoryLog _ = events at drawing ⊢
    cases drawing with
    | failed failure fails => exact ⟨by simpa using .undrawn failure fails, by simp [fails]⟩
  | unwaited hq hd hw =>
    obtain ⟨-, quiet⟩ := hq.inMemory
    have answered := later quiet answered
    obtain ⟨-, undrawn⟩ := hd.inMemory ring hb (answeredInMemory_append.mp answered).1
    have answered := later undrawn answered
    obtain ⟨impossible, -⟩ := hw.inMemory (answeredInMemory_append.mp answered).1
    cases impossible
  | committed hq hd hw hf =>
    obtain ⟨queuedLog, quiet⟩ := hq.inMemory
    have answered := later quiet answered
    obtain ⟨drawing, undrawn⟩ := hd.inMemory ring hb (answeredInMemory_append.mp answered).1
    have answered := later undrawn answered
    obtain ⟨waited, waitedLog, unwaited⟩ :=
      hw.inMemory (answeredInMemory_append.mp answered).1
    have answered := later unwaited answered
    obtain ⟨-, rfl⟩ := Prod.mk.inj waited
    rw [memoryLog_append, memoryLog_append, memoryLog_append, submissions_append,
      submissions_append, submissions_append, queuedLog, quiet, undrawn, waitedLog, unwaited]
    generalize memoryLog _ = events at drawing ⊢
    cases drawing with
    | drawn fence framebuffer unfailing filled =>
      obtain ⟨outcome, frame, pool, modeset, pending, one, blob, flippedLog⟩ :=
        hf.inMemory tables rfl answered
      obtain ⟨_, q⟩ := result
      obtain rfl := outcome
      rw [flippedLog, one, if_neg unfailing]
      have submitted : FrameInMemory failing k p buffer (_, q) _ :=
        .submitted blob unfailing frame modeset (pending rfl) (pool ▸ filled)
      exact ⟨by simpa [frameLog] using submitted, rfl⟩

end Pipeline

end Scanout
