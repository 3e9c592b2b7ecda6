import Scanout.Proofs.FlipBalance

namespace Scanout

theorem mem_waits {events : List Exchange} {fence : Fence} {answer : Except CallError Unit} :
    (fence, answer) ∈ waits events ↔ .waited fence answer ∈ events := by
  unfold waits
  rw [List.mem_filterMap]
  constructor
  · rintro ⟨e, he, hw⟩
    cases e <;> simp_all [Exchange.wait?]
  · intro he
    exact ⟨_, he, rfl⟩

/-- What becomes of a pending flip in a call that fails: it stays pending, its wait fails and it is
given up, or it was waited for. -/
inductive FlipFate (fence : Fence) (q : Pipeline) (e : DisplayError) (added : List Exchange) : Prop
  | kept : q.pendingFlip = some fence → waits added = [] →
      (∀ x, .closed x ∈ added → ∃ target frame, .rendered target frame (.ok x) ∈ added) →
      FlipFate fence q e added
  | lost (cause : CallError) : e = .fenceWait cause → waits added = [(fence, .error cause)] →
      q.pendingFlip = none → .closed fence ∈ added → FlipFate fence q e added
  | settled : waits added = [(fence, .ok ())] → FlipFate fence q e added

namespace Pipeline

/-- Drawing closes no fence but the one it was given. -/
theorem DrawRecord.closes {pool : BufferPool} {frame : Nat}
    {result : Except DisplayError Drawn × BufferPool} {added : List Exchange}
    (h : DrawRecord pool frame result added) :
    ∀ x, .closed x ∈ added → ∃ target n, .rendered target n (.ok x) ∈ added := by
  intro x hx
  have notPrepared {xs : List Exchange} (hp : ∀ e ∈ xs, e.stage = .prepare) : .closed x ∉ xs := by
    intro hm
    simpa [Exchange.stage] using hp _ hm
  cases h with
  | slotEmpty => simp at hx
  | slotUndrawn => simp at hx
  | slotUnframed fence _ _ _ hr =>
    have same : x = fence := by simpa [notPrepared hr.stage] using hx
    subst same
    exact ⟨_, _, List.mem_cons_self⟩
  | slotDrawn fence _ _ _ hr => simp [notPrepared hr.stage] at hx
  | surfaceUndrawn => simp at hx
  | surfaceUnlocked fence cause _ =>
    have same : x = fence := by simpa using hx
    subst same
    exact ⟨_, _, List.mem_cons_self⟩
  | surfaceUnframed fence _ _ hr =>
    have same : x = fence := by simpa [notPrepared hr.stage] using hx
    subst same
    exact ⟨_, _, List.mem_cons_self⟩
  | surfaceDrawn fence _ _ hr => simp [notPrepared hr.stage] at hx

theorem FinishRecord.fate {p q : Pipeline} {fence : Fence} {e : DisplayError}
    {added : List Exchange} (hp : p.pendingFlip = some fence)
    (h : p.FinishRecord (.error e, q) added) : FlipFate fence q e added := by
  cases h with
  | failed cause hf =>
    obtain rfl := Option.some.inj (hf.symm.trans hp)
    exact .lost cause rfl (by simp [Exchange.wait?]) rfl (by simp)

theorem FinishRecord.waits_ok {p q : Pipeline} {fence : Fence} {added : List Exchange}
    (h : p.FinishRecord (.ok (), q) added) (hp : p.pendingFlip = some fence) :
    waits added = [(fence, .ok ())] := by
  cases h with
  | idle hn => simp [hp] at hn
  | waited hf =>
    obtain rfl := Option.some.inj (hf.symm.trans hp)
    simp [Exchange.wait?]

theorem waits_of_drawn {p : Pipeline} {result : Except DisplayError Drawn} {pool : BufferPool}
    {queued drawing : List Exchange} (hq : GpuWaitRecord p.pendingFlip queued)
    (hd : DrawRecord p.pool p.frame (result, pool) drawing) : waits (queued ++ drawing) = [] := by
  apply waits_of_stage
  have begun := stage_of_drawn hq hd
  grind

/-- The three ends of a frame that fails are the three fates of a flip. -/
theorem FrameRecord.fate {p q : Pipeline} {fence : Fence} {e : DisplayError}
    {added : List Exchange} (hp : p.pendingFlip = some fence)
    (h : p.FrameRecord (.error e, q) added) : FlipFate fence q e added := by
  cases h with
  | @undrawn pool e queued drawing hq hd =>
    refine .kept hp (waits_of_drawn hq hd) ?_
    intro x hx
    have notQueued : .closed x ∉ queued := by
      intro hm
      simpa [Exchange.stage] using hq.stage _ hm
    have drawn : .closed x ∈ drawing := by simpa [notQueued] using hx
    obtain ⟨target, n, hr⟩ := hd.closes x drawn
    exact ⟨target, n, List.mem_append_right _ hr⟩
  | @unwaited pool drawn e q queued drawing waiting hq hd hw =>
    -- The fence left the state before the wait failed, and nothing puts it back.
    have given : waits (.closed drawn.fence :: drawn.locked.toList.map .released) = [] :=
      waits_of_stage (by simp [Exchange.stage])
    cases hw with
    | failed cause hf =>
      obtain rfl := Option.some.inj (hf.symm.trans hp)
      refine .lost cause rfl ?_ rfl (by simp)
      rw [← List.append_assoc, waits_append, waits_of_drawn hq hd, waits_append, given]
      simp [Exchange.wait?]
  | @committed pool drawn q' result queued drawing waiting flipping hq hd hw hf =>
    have shown : waits flipping = [] := by
      apply waits_of_stage
      have flipped := hf.stage
      grind
    refine .settled ?_
    rw [← List.append_assoc, waits_append, waits_of_drawn hq hd, waits_append, shown,
      hw.waits_ok hp]
    rfl

end Pipeline

theorem AnswerRecord.fate {σ : Type} {p : Pipeline} {request : Request σ} {reply : Reply × Pipeline}
    {fence : Fence} {e : DisplayError} {added : List Exchange} (hp : p.pendingFlip = some fence)
    (failed : reply.1.error? = some e) (h : AnswerRecord p request reply added) :
    FlipFate fence reply.2 e added := by
  cases h with
  | @presented _ _ q result _ hf =>
    cases result with
    | ok _ => simp [Reply.error?] at failed
    | error cause =>
      obtain rfl := Option.some.inj failed
      exact hf.fate hp
  | @finished _ q result _ hw =>
    cases result with
    | ok _ => simp [Reply.error?] at failed
    | error cause =>
      obtain rfl := Option.some.inj failed
      exact hw.fate hp
  | ran => simp [Reply.error?] at failed

/-- What is pending is waited for first when everything has been waited for. -/
theorem first_wait {q p' : Pipeline} {fence : Fence} {events : List Exchange}
    (hq : q.pendingFlip = some fence) (hb : q.Balanced p' events) (idle : p'.pendingFlip = none) :
    ∃ answer, (waits events).head? = some (fence, answer) := by
  have owed : fence :: issued events = (waits events).map Prod.fst := by
    simpa [Pipeline.Balanced, hq, idle] using hb
  cases hw : waits events with
  | nil => simp [hw] at owed
  | cons w rest =>
    rw [hw] at owed
    obtain ⟨rfl, -⟩ := List.cons.inj owed
    exact ⟨w.2, rfl⟩

variable {σ : Type} [World σ]

/-- That the wait for a pending flip is still to come, however the display path is used: it is the
first wait, it comes before any submission, and a finish does not go without it. -/
structure StillOwed (device : Device σ) (allocator : Allocator σ) (q : Pipeline) (fence : Fence) :
    Prop where
  by_commit : ∀ requests world before txn answer after,
    (continueLife device allocator q requests ⟨world, []⟩).2.transcript =
      before ++ .submitted txn answer :: after →
    ∃ result, (waits before).head? = some (fence, result)
  by_finish : ∀ requests waiter world, ∃ result,
    (waits (continueLife device allocator q (requests ++ [.finish waiter])
      ⟨world, []⟩).2.transcript).head? = some (fence, result)

theorem stillOwed_of_pending (device : Device σ) (allocator : Allocator σ) {q : Pipeline}
    {fence : Fence} (hq : q.pendingFlip = some fence) : StillOwed device allocator q fence := by
  refine ⟨?_, ?_⟩
  · intro requests world before txn answer after ht
    obtain ⟨added, he, steps⟩ := records_continueLife device allocator q requests ⟨world, []⟩
    rw [he] at ht
    rw [show added = before ++ .submitted txn answer :: after by simpa using ht] at steps
    obtain ⟨p', idle, balanced⟩ := steps.settled
    exact first_wait hq balanced idle
  · intro requests waiter world
    obtain ⟨added, he, steps, idle⟩ :=
      records_finishing device allocator q requests waiter ⟨world, []⟩
    rw [he]
    exact first_wait hq (balanced_compositional.steps steps) idle

/-- Whether a call that fails leaves a pending flip as it should: it was waited for, or it is
pending still, its fence open and its wait still to come. -/
def FlipSafe (device : Device σ) (allocator : Allocator σ) (fence : Fence) (q : Pipeline)
    (events : List Exchange) : Prop :=
  .waited fence (.ok ()) ∈ events ∨
    (q.pendingFlip = some fence ∧ .closed fence ∉ events ∧ StillOwed device allocator q fence)

/-- A frame or a finish that fails leaves the pending flip as it should unless it is the wait for it
that fails. Then the fence is closed and nothing is pending. A new fence is not the one pending. -/
theorem pending_flip_safe_iff (device : Device σ) (allocator : Allocator σ) {p q : Pipeline}
    {request : Request σ} {world : σ} {reply : Reply} {r : Recorded σ} {fence : Fence}
    {e : DisplayError} (pending : p.pendingFlip = some fence)
    (h : recordCall device allocator p request world = ((reply, q), r))
    (failed : reply.error? = some e)
    (fresh : ∀ target frame, .rendered target frame (.ok fence) ∉ r.transcript) :
    (FlipSafe device allocator fence q r.transcript ↔
        ∀ cause, .waited fence (.error cause) ∉ r.transcript) ∧
      ∀ cause, .waited fence (.error cause) ∈ r.transcript →
        e = .fenceWait cause ∧ q.pendingFlip = none ∧ .closed fence ∈ r.transcript := by
  have record := recordCall_record device allocator p request world
  rw [h] at record
  cases record.fate pending failed with
  | kept still none own =>
    have unwaited : ∀ answer, .waited fence answer ∉ r.transcript := by
      intro answer hm
      simpa [none] using mem_waits.mpr hm
    have unclosed : .closed fence ∉ r.transcript := by
      intro hm
      obtain ⟨target, frame, hr⟩ := own fence hm
      exact fresh target frame hr
    have safe : FlipSafe device allocator fence q r.transcript :=
      .inr ⟨still, unclosed, stillOwed_of_pending device allocator still⟩
    exact ⟨⟨fun _ cause => unwaited _, fun _ => safe⟩, fun cause hm => absurd hm (unwaited _)⟩
  | lost cause he waited idle closed =>
    have only {answer : Except CallError Unit} (hm : .waited fence answer ∈ r.transcript) :
        answer = .error cause := by
      simpa [waited] using mem_waits.mpr hm
    have happened : .waited fence (.error cause) ∈ r.transcript := mem_waits.mp (by simp [waited])
    refine ⟨⟨?_, fun none => absurd happened (none cause)⟩, ?_⟩
    · rintro (hm | ⟨still, -, -⟩)
      · simpa using only hm
      · have idle : q.pendingFlip = none := idle
        simp [idle] at still
    · intro cause' hm
      obtain rfl : cause' = cause := by simpa using only hm
      exact ⟨he, idle, closed⟩
  | settled waited =>
    have happened : .waited fence (.ok ()) ∈ r.transcript := mem_waits.mp (by simp [waited])
    have unfailed : ∀ cause, .waited fence (.error cause) ∉ r.transcript := by
      intro cause hm
      simpa [waited] using mem_waits.mpr hm
    exact ⟨⟨fun _ => unfailed, fun _ => .inl happened⟩, fun cause hm => absurd hm (unfailed cause)⟩

/-- The fence that the renderer hands out. -/
def Exchange.drawnFence? : Exchange → Option Fence
  | rendered _ _ (.ok fence) => some fence
  | _ => none

/-- A frame that cannot be drawn leaves the flip before it pending in memory. -/
theorem pending_flip_safe_in_memory :
    ∃ p fence reply q r e, (Memory.frames .plain 1).1 = .ok p ∧ p.pendingFlip = some fence ∧
      Memory.call p (.present (MemoryRenderer.failingAt .plain 1).renderer Memory.waiter)
        (Memory.frames .plain 1).2.world = ((reply, q), r) ∧ reply.error? = some e ∧
      FlipSafe MemoryDisplay.singleOutput.device MemoryAllocator.plain.allocator fence q
        r.transcript := by
  have events : ((Memory.frames .plain 1).1.toOption.bind fun p => p.pendingFlip.bind fun _ =>
      let after := Memory.call p (.present (MemoryRenderer.failingAt .plain 1).renderer
        Memory.waiter) (Memory.frames .plain 1).2.world
      after.1.1.error?.map fun _ => (after.2.transcript.filterMap Exchange.drawnFence?).isEmpty &&
        (waits after.2.transcript).isEmpty) = some true := by
    decide +kernel
  obtain ⟨p, hp, chosen⟩ := Option.bind_eq_some_iff.mp events
  obtain ⟨fence, hf, chosen⟩ := Option.bind_eq_some_iff.mp chosen
  obtain ⟨e, he, quiet⟩ := Option.map_eq_some_iff.mp chosen
  obtain ⟨undrawn, unwaited⟩ := Bool.and_eq_true_iff.mp quiet
  have call := pair_of_fst (pair_of_fst (Eq.refl (Memory.call p
    (.present (MemoryRenderer.failingAt .plain 1).renderer Memory.waiter)
    (Memory.frames .plain 1).2.world).1.1))
  refine ⟨p, fence, _, _, _, e, ok_of_toOption hp, hf, call, he, ?_⟩
  have fresh : ∀ target frame, .rendered target frame (.ok fence) ∉ (Memory.call p
      (.present (MemoryRenderer.failingAt .plain 1).renderer Memory.waiter)
      (Memory.frames .plain 1).2.world).2.transcript := by
    intro target frame hm
    have drawn := List.filterMap_eq_nil_iff.mp (List.isEmpty_iff.mp undrawn) _ hm
    simp [Exchange.drawnFence?] at drawn
  refine (pending_flip_safe_iff _ _ hf call he fresh).1.mpr ?_
  intro cause hm
  have waited := mem_waits.mpr hm
  rw [List.isEmpty_iff.mp unwaited] at waited
  simp at waited

/-- A finish whose wait fails in memory loses the flip that was pending. -/
theorem pending_flip_lost_in_memory :
    ∃ p fence reply q r e, (Memory.frames .plain 1).1 = .ok p ∧ p.pendingFlip = some fence ∧
      Memory.call p (.finish Memory.failingWaiter) (Memory.frames .plain 1).2.world =
        ((reply, q), r) ∧ reply.error? = some e ∧
      ¬FlipSafe MemoryDisplay.singleOutput.device MemoryAllocator.plain.allocator fence q
        r.transcript := by
  have events : ((Memory.frames .plain 1).1.toOption.bind fun p => p.pendingFlip.bind fun _ =>
      let after := Memory.call p (.finish Memory.failingWaiter) (Memory.frames .plain 1).2.world
      after.1.1.error?.map fun _ => after.1.2.pendingFlip.isNone &&
        (waits after.2.transcript).all fun w => !w.2.isOk) = some true := by
    decide +kernel
  obtain ⟨p, hp, chosen⟩ := Option.bind_eq_some_iff.mp events
  obtain ⟨fence, hf, chosen⟩ := Option.bind_eq_some_iff.mp chosen
  obtain ⟨e, he, lost⟩ := Option.map_eq_some_iff.mp chosen
  obtain ⟨idle, unwaited⟩ := Bool.and_eq_true_iff.mp lost
  have call := pair_of_fst (pair_of_fst (Eq.refl (Memory.call p (.finish Memory.failingWaiter)
    (Memory.frames .plain 1).2.world).1.1))
  refine ⟨p, fence, _, _, _, e, ok_of_toOption hp, hf, call, he, ?_⟩
  rintro (waited | ⟨pending, -, -⟩)
  · have failed := List.all_eq_true.mp unwaited _ (mem_waits.mpr waited)
    simp [Except.isOk, Except.toBool] at failed
  · rw [Option.isNone_iff_eq_none.mp idle] at pending
    simp at pending

end Scanout
