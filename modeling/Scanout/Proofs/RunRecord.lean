import Scanout.Proofs.FrameRecord

namespace Scanout

variable {σ : Type} [World σ]

open Recorded (watch)

namespace Pipeline

/-- Letting the GPU wait for the pending flip. -/
inductive GpuWaitRecord : Option Fence → List Exchange → Prop
  | idle : GpuWaitRecord none []
  | asked (fence : Fence) (answer : Except Failure Unit) :
      GpuWaitRecord (some fence) [.gpuWaited fence answer]

theorem records_queueGpuWait (renderer : Renderer σ) (pending : Option Fence) :
    Records (queueGpuWait renderer.recorded pending) (queueGpuWait renderer pending)
      (fun _ => GpuWaitRecord pending) := by
  cases pending with
  | none => exact records_pure .idle
  | some fence =>
    refine records_then (records_watch _ _) ?_
    intro answer
    cases answer with
    | ok _ => exact records_pure (.asked fence (.ok ()))
    | error failure =>
      refine (records_note _).mono ?_
      rintro _ _ rfl
      exact .asked fence (.error failure)

/-- Showing one frame: given up before the pending flip was waited for, given up because that
wait failed, or committed with nothing pending. -/
inductive FrameRecord (p : Pipeline) :
    Except DisplayError Unit × Pipeline → List Exchange → Prop
  | undrawn {pool : BufferPool} {e : DisplayError} {queued drawing : List Exchange} :
      GpuWaitRecord p.pendingFlip queued →
      DrawRecord p.pool p.frame (.error e, pool) drawing →
      FrameRecord p (.error e, { p with frame := p.frame + 1, pool }) (queued ++ drawing)
  | unwaited {pool : BufferPool} {drawn : Drawn} {e : DisplayError} {q : Pipeline}
      {queued drawing waiting : List Exchange} :
      GpuWaitRecord p.pendingFlip queued →
      DrawRecord p.pool p.frame (.ok drawn, pool) drawing →
      FinishRecord { p with frame := p.frame + 1, pool } (.error e, q) waiting →
      FrameRecord p (.error e, q)
        (queued ++ (drawing ++ (waiting ++
          (.closed drawn.fence :: drawn.locked.toList.map .released))))
  | committed {pool : BufferPool} {drawn : Drawn} {q : Pipeline}
      {result : Except DisplayError Unit × Pipeline}
      {queued drawing waiting flipping : List Exchange} :
      GpuWaitRecord p.pendingFlip queued →
      DrawRecord p.pool p.frame (.ok drawn, pool) drawing →
      FinishRecord { p with frame := p.frame + 1, pool } (.ok (), q) waiting →
      FlipRecord q p.frame drawn result flipping →
      FrameRecord p result (queued ++ (drawing ++ (waiting ++ flipping)))

theorem records_presentFrame (c : Collaborators σ) (p : Pipeline) :
    Records (presentFrame c.recorded p) (presentFrame c p) (FrameRecord p) := by
  unfold presentFrame
  refine records_bind (records_queueGpuWait c.renderer p.pendingFlip) ?_
  intro _ queued hq
  refine records_bind (records_draw c p.pool p.frame) ?_
  rintro ⟨result, pool⟩ drawing hd
  cases result with
  | error e => exact records_pure (by simpa using .undrawn hq hd)
  | ok drawn =>
    refine records_bind (records_finish c.waiter { p with frame := p.frame + 1, pool }) ?_
    rintro ⟨result, q⟩ waiting hw
    cases result with
    | error e =>
      refine records_then (records_discard c.allocator drawn (some drawn.fence)) fun _ => ?_
      exact records_pure (by simpa using .unwaited hq hd hw)
    | ok _ =>
      refine (records_flip c q p.frame drawn).mono ?_
      intro shown flipping hf
      exact .committed hq hd hw hf

/-- The present loop, without the limit on its length: it may be left off before any poll. -/
inductive LoopRecord :
    Option Nat → Nat → Pipeline → LoopEnd × Nat × Pipeline → List Exchange → Prop
  | spent {presented : Nat} {p : Pipeline} :
      LoopRecord (some 0) presented p (.done, presented, p) []
  | unfinished {budget : Option Nat} {presented : Nat} {p : Pipeline} : budget ≠ some 0 →
      LoopRecord budget presented p (.unfinished, presented, p) []
  | interrupted {budget : Option Nat} {presented : Nat} {p : Pipeline} : budget ≠ some 0 →
      LoopRecord budget presented p (.done, presented, p) [.polled true]
  | shown {budget : Option Nat} {presented : Nat} {p q : Pipeline}
      {result : LoopEnd × Nat × Pipeline} {added later : List Exchange} : budget ≠ some 0 →
      FrameRecord p (.ok (), q) added →
      LoopRecord (budget.map (· - 1)) (presented + 1) q result later →
      LoopRecord budget presented p result (.polled false :: (added ++ later))
  | dropped {budget : Option Nat} {presented : Nat} {p q : Pipeline} {e : DisplayError}
      {result : LoopEnd × Nat × Pipeline} {added later : List Exchange} : budget ≠ some 0 →
      FrameRecord p (.error e, q) added → e.isPerFrame = true →
      LoopRecord (budget.map (· - 1)) presented q result later →
      LoopRecord budget presented p result (.polled false :: (added ++ later))
  | failed {budget : Option Nat} {presented : Nat} {p q : Pipeline} {e : DisplayError}
      {added : List Exchange} : budget ≠ some 0 →
      FrameRecord p (.error e, q) added → e.isPerFrame = false →
      LoopRecord budget presented p (.failed e, presented, q) (.polled false :: added)

theorem records_loop (c : Collaborators σ) (interrupted : Act σ Bool) (patience : Nat)
    (budget : Option Nat) (presented : Nat) (p : Pipeline) :
    Records (loop c.recorded (watch .polled interrupted) patience budget presented p)
      (loop c interrupted patience budget presented p) (LoopRecord budget presented p) := by
  induction patience generalizing budget presented p with
  | zero =>
    unfold loop
    by_cases hb : budget = some 0
    · subst budget
      exact records_pure .spent
    · simp only [hb, ↓reduceIte]
      exact records_pure (.unfinished hb)
  | succ patience ih =>
    unfold loop
    by_cases hb : budget = some 0
    · subst budget
      exact records_pure .spent
    · simp only [hb, ↓reduceIte]
      refine records_then (records_watch _ _) ?_
      intro stop
      cases stop with
      | true =>
        refine records_then (records_note _) fun _ => ?_
        exact records_pure (.interrupted hb)
      | false =>
        refine records_bind (records_presentFrame c p) ?_
        rintro ⟨result, q⟩ added hf
        cases result with
        | ok _ => exact (ih _ _ q).mono fun _ _ hl => by simpa using .shown hb hf hl
        | error e =>
          cases he : e.isPerFrame with
          | true =>
            simp only [he, ↓reduceIte]
            refine records_then (records_note _) fun _ => ?_
            exact (ih _ _ q).mono fun _ _ hl => by simpa using .dropped hb hf he hl
          | false =>
            simp only [he, Bool.false_eq_true, ↓reduceIte]
            exact records_pure (by simpa using .failed hb hf he)

/-- A run: refused for want of fences, or the loop and, unless that failed, the last wait. -/
inductive RunRecord (renderer : Renderer σ) (budget : Option Nat) (p : Pipeline) :
    Option (Except DisplayError Nat) × Pipeline → List Exchange → Prop
  | refused {e : DisplayError} : p.checkFences renderer = .error e →
      RunRecord renderer budget p (some (.error e), p) []
  | unfinished {presented : Nat} {q : Pipeline} {looping : List Exchange} (time : Nat) :
      p.checkFences renderer = .ok () →
      LoopRecord budget 0 { p with throughput := .begin time } (.unfinished, presented, q) looping →
      RunRecord renderer budget p (none, q) looping
  | failed {e : DisplayError} {presented : Nat} {q : Pipeline} {looping : List Exchange}
      (time : Nat) : p.checkFences renderer = .ok () →
      LoopRecord budget 0 { p with throughput := .begin time } (.failed e, presented, q) looping →
      RunRecord renderer budget p (some (.error e), q) looping
  | ended {presented : Nat} {q p' : Pipeline} {result : Except DisplayError Unit}
      {looping waiting : List Exchange} (time : Nat) : p.checkFences renderer = .ok () →
      LoopRecord budget 0 { p with throughput := .begin time } (.done, presented, q) looping →
      FinishRecord q (result, p') waiting →
      RunRecord renderer budget p (some (result.map fun _ => presented), p') (looping ++ waiting)

theorem records_run (c : Collaborators σ) (interrupted : Act σ Bool) (patience : Nat)
    (budget : Option Nat) (p : Pipeline) :
    Records (run c.recorded (watch .polled interrupted) patience budget p)
      (run c interrupted patience budget p) (RunRecord c.renderer budget p) := by
  have same : p.checkFences c.recorded.renderer = p.checkFences c.renderer := rfl
  unfold run
  rw [same]
  cases hc : p.checkFences c.renderer with
  | error e => exact records_pure (.refused hc)
  | ok _ =>
    refine records_then records_now ?_
    intro time
    refine records_bind (records_loop c interrupted patience budget 0 _) ?_
    rintro ⟨stop, presented, q⟩ looping hl
    cases stop with
    | unfinished => exact records_pure (by simpa using .unfinished time hc hl)
    | failed e => exact records_pure (by simpa using .failed time hc hl)
    | done =>
      refine records_bind (records_finish c.waiter q) ?_
      rintro ⟨result, p'⟩ waiting hw
      cases result with
      | ok _ => exact records_pure (by simpa using .ended time hc hl hw)
      | error e => exact records_pure (by simpa using .ended time hc hl hw)

end Pipeline

end Scanout
