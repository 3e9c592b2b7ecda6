import Scanout.Proofs.FenceCustody
import Scanout.Proofs.FrameTransaction

namespace Scanout

open Custody (held_trans)

variable {σ : Type} [World σ]

namespace Pipeline

/-- That fences can gate the frames of a display path: the renderer exports them, the plane takes
them, and the CRTC gives them out. -/
structure FenceReady (p : Pipeline) (renderer : Renderer σ) : Prop where
  native : renderer.nativeFences = true
  inFence : (p.tables.plane.lookup "IN_FENCE_FD").isSome
  outFence : (p.tables.crtc.lookup "OUT_FENCE_PTR").isSome

omit [World σ] in
/-- What is lacking is nothing exactly if a display path is ready for fences. -/
theorem fenceReady_iff {p : Pipeline} {renderer : Renderer σ} :
    p.FenceReady renderer ↔ p.fenceGap? renderer = none := by
  unfold fenceGap?
  constructor
  · rintro ⟨native, inFence, outFence⟩
    simp [native, Option.isSome_iff_ne_none.mp inFence, Option.isSome_iff_ne_none.mp outFence]
  · intro none
    split at none
    next => simp at none
    next native =>
      split at none
      next => simp at none
      next inFence =>
        split at none
        next => simp at none
        next outFence =>
          have known := Option.isSome_iff_ne_none.mpr (by simpa using inFence)
          have given := Option.isSome_iff_ne_none.mpr (by simpa using outFence)
          exact ⟨by simpa using native, known, given⟩

omit [World σ] in
theorem fenceReady_of_checkFences {p : Pipeline} {renderer : Renderer σ}
    (h : p.checkFences renderer = .ok ()) : p.FenceReady renderer := by
  unfold checkFences at h
  split at h
  next => simp at h
  next none => exact fenceReady_iff.mpr none

omit [World σ] in
theorem RunRecord.ready_or_nothing {p : Pipeline} {renderer : Renderer σ} {budget : Option Nat}
    {result : Option (Except DisplayError Nat) × Pipeline} {added : List Exchange}
    (h : p.RunRecord renderer budget result added) : p.FenceReady renderer ∨ added = [] := by
  cases h with
  | refused => exact .inr rfl
  | unfinished _ hc _ => exact .inl (fenceReady_of_checkFences hc)
  | failed _ hc _ => exact .inl (fenceReady_of_checkFences hc)
  | ended _ hc _ _ => exact .inl (fenceReady_of_checkFences hc)

/-- A run for which something is lacking is over before it begins. -/
theorem run_unready {c : Collaborators σ} {p : Pipeline} {reason : String}
    (gap : p.fenceGap? c.renderer = some reason) (interrupted : Act σ Bool) (patience : Nat)
    (budget : Option Nat) :
    p.run c interrupted patience budget = pure (some (.error (.fenceUnsupported reason)), p) := by
  simp [run, checkFences, gap]

end Pipeline

theorem recordCall_run_unready {device : Device σ} {allocator : Allocator σ} {p : Pipeline}
    {renderer : Renderer σ} {reason : String} (gap : p.fenceGap? renderer = some reason)
    (waiter : Waiter σ) (interrupted : Act σ Bool) (patience : Nat) (budget : Option Nat)
    (world : σ) :
    recordCall device allocator p (.run renderer waiter interrupted patience budget) world =
      ((.ran (some (.error (.fenceUnsupported reason))), p), ⟨world, []⟩) := by
  have recorded : p.fenceGap? renderer.recorded = some reason := gap
  simp only [recordCall, Request.recorded, Request.answer]
  rw [Pipeline.run_unready recorded]
  rfl

/-- Whatever came before and whatever its collaborators answer, a run has all it submits gated by
the fence that the frame was drawn with, which is open then, and asks for an out-fence. A run for
which something is lacking fails, and does nothing else. -/
theorem run_gated (device : Device σ) (allocator : Allocator σ) (options : Options)
    (requests : List (Request σ)) (world : σ) (renderer : Renderer σ) (waiter : Waiter σ)
    (interrupted : Act σ Bool) (patience : Nat) (budget : Option Nat) {p q : Pipeline}
    {r r' : Recorded σ} {reply : Reply}
    (h : recordLife device allocator options requests world = (.ok p, r))
    (hc : recordCall device allocator p (.run renderer waiter interrupted patience budget)
      r.world = ((reply, q), r')) :
    (∀ before txn answer after, r'.transcript = before ++ .submitted txn answer :: after →
      ∃ target frame fence, .rendered target frame (.ok fence) ∈ frameSoFar before ∧
        txn.GatedBy p.topology p.tables fence ∧
        fences.held [] (r.transcript ++ before) = some [fence]) ∧
    (¬p.FenceReady renderer → ∃ reason, p.fenceGap? renderer = some reason ∧
      reply = .ran (some (.error (.fenceUnsupported reason))) ∧ q = p ∧ r' = ⟨r.world, []⟩) := by
  refine ⟨?_, ?_⟩
  · intro before txn answer after ht
    have record := recordCall_record device allocator p
      (.run renderer waiter interrupted patience budget) r.world
    rw [hc, ht] at record
    cases record with
    | ran hr =>
      obtain ready | nothing := hr.ready_or_nothing
      · obtain ⟨start, pool, drawn, begun, target, same, submitted, rendered, opened⟩ :=
          (Pipeline.run_steps hr).fences_at_submission []
        obtain ⟨p₀, readying, lived, -, fresh, -, steps⟩ := recordLife_lived h
        have described : (start.readied pool).tables.Describes (start.readied pool).topology :=
          same.describes ((sameOutput_compositional.steps steps).describes fresh.tables)
        obtain ⟨-, inFence, outFence⟩ := ready
        rw [← same.tables] at inFence outFence
        have gated : txn.GatedBy start.topology start.tables drawn.fence :=
          Pipeline.SubmittedAs.gated (p := start.readied pool) described inFence outFence submitted
        rw [same.topology, same.tables] at gated
        exact ⟨target, start.frame, drawn.fence, rendered, gated,
          held_trans (recordLife_fences_held h) opened⟩
      · simp at nothing
  · intro unready
    obtain ⟨reason, gap⟩ := Option.ne_none_iff_exists'.mp (mt Pipeline.fenceReady_iff.mpr unready)
    rw [recordCall_run_unready gap] at hc
    obtain ⟨⟨rfl, rfl⟩, rfl⟩ := by simpa using hc
    exact ⟨reason, gap, rfl, rfl, rfl⟩

/-- A run of two frames on the device in memory. -/
def Memory.runTwo (renderer : MemoryRenderer) : Request Memory :=
  .run renderer.renderer Memory.waiter (Memory.stopAfter none) 2 (some 2)

/-- After a frame in memory, a run has the next one gated by its fence. One whose renderer exports
no fences fails. -/
theorem run_gated_in_memory :
    ∃ p, (Memory.frames .plain 1).1 = .ok p ∧
      (∃ before txn outFence after, (Memory.call p (Memory.runTwo .plain)
          (Memory.frames .plain 1).2.world).2.transcript =
            before ++ .submitted txn (.ok outFence) :: after ∧
        ∃ target frame fence, .rendered target frame (.ok fence) ∈ frameSoFar before ∧
          txn.GatedBy p.topology p.tables fence ∧
          fences.held [] ((Memory.frames .plain 1).2.transcript ++ before) = some [fence]) ∧
      ∃ reason, Memory.call p (Memory.runTwo (.withoutFences .plain))
          (Memory.frames .plain 1).2.world =
        ((.ran (some (.error (.fenceUnsupported reason))), p),
          ⟨(Memory.frames .plain 1).2.world, []⟩) := by
  have events : ((Memory.frames .plain 1).1.toOption.bind fun p =>
      (Memory.call p (Memory.runTwo .plain) (Memory.frames .plain 1).2.world).2.transcript[6]?.bind
        Exchange.accepted?).isSome = true := by
    decide +kernel
  obtain ⟨_, chosen⟩ := Option.isSome_iff_exists.mp events
  obtain ⟨p, hp, chosen⟩ := Option.bind_eq_some_iff.mp chosen
  obtain ⟨e, he, htxn⟩ := Option.bind_eq_some_iff.mp chosen
  obtain ⟨outFence, rfl⟩ := submitted_of_accepted? htxn
  have life := ok_of_toOption hp
  have lacking : ¬p.FenceReady (MemoryRenderer.withoutFences .plain).renderer := by
    rintro ⟨native, -, -⟩
    simp [MemoryRenderer.renderer, MemoryRenderer.withoutFences] at native
  have ran := pair_of_fst (pair_of_fst (Eq.refl (Memory.call p (Memory.runTwo .plain)
    (Memory.frames .plain 1).2.world).1.1))
  have failed := pair_of_fst (pair_of_fst (Eq.refl (Memory.call p
    (Memory.runTwo (.withoutFences .plain)) (Memory.frames .plain 1).2.world).1.1))
  unfold Memory.frames at life he ran failed ⊢
  unfold Memory.call Memory.runTwo at he ran failed ⊢
  have lived := pair_of_fst life
  obtain ⟨gated, -⟩ := run_gated _ _ _ _ _ _ _ _ _ _ lived ran
  obtain ⟨-, refused⟩ := run_gated _ _ _ _ _ _ _ _ _ _ lived failed
  obtain ⟨reason, -, replied, same, nothing⟩ := refused lacking
  exact ⟨p, life, ⟨_, _, outFence, _, split_at he, gated _ _ _ _ (split_at he)⟩, reason,
    Prod.ext (Prod.ext replied same) nothing⟩

end Scanout
