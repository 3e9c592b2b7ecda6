import Scanout.Proofs.FlipBalance

namespace Scanout

/-- The calls with which a commit begins or goes to the device. -/
def Exchange.isCommitStep : Exchange → Bool
  | blobCreated _ _ | submitted _ _ => true
  | _ => false

theorem stage_of_isCommitStep {e : Exchange} (h : e.isCommitStep = true) : e.stage = .commit := by
  cases e <;> simp_all [Exchange.isCommitStep, Exchange.stage]

/-- How flips are paced, seen at an exchange `e` that comes after the exchanges `before`. -/
structure PacedAt (before : List Exchange) (e : Exchange) : Prop where
  /-- At a submission, the fences waited for so far are the issued ones, one by one. -/
  settled : e.isSubmission → (∀ w ∈ waits before, w.2 = .ok ()) →
    waits before = (issued before).map fun fence => (fence, .ok ())
  /-- A frame that begins with a fence outstanding has the GPU wait for it before it is drawn. -/
  gpu : ∀ fence ∈ outstanding (frameStart before), ∀ target frame answer,
    e = .rendered target frame answer → ∃ asked, frameSoFar before = [.gpuWaited fence asked]
  /-- It comes to its commit after it was drawn and after the fence was waited for then. -/
  cpu : ∀ fence ∈ outstanding (frameStart before), e.isCommitStep →
    ∃ asked target frame drawn between last, frameSoFar before =
      .gpuWaited fence asked :: .rendered target frame (.ok drawn) ::
        (between ++ .waited fence (.ok ()) :: last)

namespace Pipeline

variable {p : Pipeline} {result : Except DisplayError Unit × Pipeline}
  {sofar later : List Exchange}

theorem FrameRecord.drawn_after_gpu {target : RenderTarget} {frame : Nat}
    {answer : Except Failure Fence} {fence : Fence} (hp : p.pendingFlip = some fence)
    (h : p.FrameRecord result (sofar ++ .rendered target frame answer :: later)) :
    ∃ asked, sofar = [.gpuWaited fence asked] := by
  obtain ⟨hq, -, -⟩ := h.at_render
  rw [hp] at hq
  cases hq with
  | asked _ asked => exact ⟨asked, rfl⟩

theorem FrameRecord.committed_after_wait {e : Exchange} {fence : Fence}
    (hp : p.pendingFlip = some fence) (h : p.FrameRecord result (sofar ++ e :: later))
    (he : e.stage = .commit) :
    ∃ asked target frame drawn between last, sofar =
      .gpuWaited fence asked :: .rendered target frame (.ok drawn) ::
        (between ++ .waited fence (.ok ()) :: last) := by
  obtain ⟨pool, drawn, q, queued, drawing, waiting, begun, hq, hd, hw, -, rfl⟩ := h.at_commit he
  have drawnThen := hd.calls
  rw [hp] at hq
  cases hq with
  | asked _ asked =>
    cases drawnThen with
    | @drawn target _ rest _ _ =>
      cases hw with
      | idle hn => simp [hp] at hn
      | @waited waitedFor hn =>
        have same : waitedFor = fence := Option.some.inj (hn.symm.trans hp)
        subst same
        exact ⟨asked, target, p.frame, drawn.fence, rest, .closed waitedFor :: begun, by simp⟩

end Pipeline

theorem waits_all_ok {events : List Exchange} {fences : List Fence}
    (hb : fences = (waits events).map Prod.fst) (ok : ∀ w ∈ waits events, w.2 = .ok ()) :
    waits events = fences.map fun fence => (fence, .ok ()) := by
  have same : ∀ w ∈ waits events, id w = (w.1, .ok ()) := fun w hw => Prod.ext rfl (ok w hw)
  calc
    waits events = (waits events).map id := (List.map_id _).symm
    _ = (waits events).map fun w => (w.1, .ok ()) := List.map_congr_left same
    _ = fences.map fun fence => (fence, .ok ()) := by rw [hb, List.map_map]; rfl

/-- Flips are paced in a frame that begins with what is outstanding pending. -/
theorem pacedAt_in_frame {p₀ p : Pipeline} {result : Except DisplayError Unit × Pipeline}
    {past sofar later : List Exchange} {mark e : Exchange} (hp : p₀.pendingFlip = none)
    (hb : p₀.Balanced p past) (hm : mark.isMark = true)
    (hf : p.FrameRecord result (sofar ++ e :: later)) : PacedAt (past ++ mark :: sofar) e := by
  have unmarked := hf.unmarked_before
  have called : p.Balanced p [mark] :=
    balanced_compositional.idle p (by simp [isMark_iff.mp hm])
  have start : p₀.Balanced p (past ++ [mark]) := hb.trans called
  -- What is outstanding where the frame begins is what it finds pending.
  have pending : outstanding (frameStart (past ++ mark :: sofar)) = p.pendingFlip.toList := by
    rw [frameStart_mark hm unmarked]
    exact outstanding_of_balanced start hp
  refine ⟨?_, ?_, ?_⟩
  · intro hs ok
    cases e with
    | submitted txn answer =>
      obtain ⟨q, idle, framed⟩ := hf.settled
      have whole := start.trans framed
      refine waits_all_ok ?_ ok
      simpa [Pipeline.Balanced, hp, idle] using whole
    | _ => simp [Exchange.isSubmission] at hs
  · rintro fence hout target frame answer rfl
    rw [pending, Option.mem_toList] at hout
    rw [frameSoFar_mark hm unmarked]
    exact hf.drawn_after_gpu hout
  · intro fence hout he
    rw [pending, Option.mem_toList] at hout
    rw [frameSoFar_mark hm unmarked]
    exact hf.committed_after_wait hout (stage_of_isCommitStep he)

theorem pacedAt_elsewhere {before : List Exchange} {e : Exchange} (h : e.inFrame = false) :
    PacedAt before e := by
  cases e with
  | submitted | rendered | blobCreated => simp [Exchange.inFrame] at h
  | _ => exact ⟨by simp [Exchange.isSubmission], by simp, by simp [Exchange.isCommitStep]⟩

/-- In any life of a display path, whatever its collaborators answer, flips are paced: a commit is
only submitted once every out-fence before it was waited for. -/
theorem flips_paced {σ : Type} [World σ] (device : Device σ) (allocator : Allocator σ)
    (options : Options) (requests : List (Request σ)) (world : σ) {before after : List Exchange}
    {e : Exchange}
    (h : (recordLife device allocator options requests world).2.transcript =
      before ++ e :: after) : PacedAt before e := by
  have life := recordLife_record device allocator options requests world
  rw [h] at life
  cases he : e.inFrame with
  | false => exact pacedAt_elsewhere he
  | true =>
    obtain ⟨p₀, p', readying, past, -, fresh, quiet, rfl, hm⟩ := life.midFrame he
    obtain ⟨steps, mark, -, frame, -⟩ := hm
    have ready : p₀.Balanced p₀ readying := by
      refine Pipeline.balanced_of_quiet rfl ?_
      intro x hx
      rcases stage_of_isSetUp (quiet x hx) with hs | hs <;> simp [hs]
    have start := ready.trans (balanced_compositional.steps steps)
    rw [← List.append_assoc]
    exact pacedAt_in_frame fresh.pendingFlip start mark frame

/-- The second frame in memory is submitted after the first flip was waited for. -/
theorem flips_paced_in_memory :
    ∃ before e after, (Memory.frames .plain 2).2.transcript = before ++ e :: after ∧
      e.isSubmission = true ∧ (issued before).length = 1 ∧
      (outstanding (frameStart before)).length = 1 ∧ PacedAt before e := by
  have second : (Memory.frames .plain 2).2.transcript[69]?.map Exchange.isSubmission =
      some true := by
    decide +kernel
  obtain ⟨e, he, hs⟩ := Option.map_eq_some_iff.mp second
  refine ⟨_, e, _, split_at he, hs, ?_, ?_, ?_⟩
  · decide +kernel
  · decide +kernel
  · unfold Memory.frames at he ⊢
    exact flips_paced _ _ _ _ _ (split_at he)

end Scanout
