import Scanout.Proofs.Submissions

namespace Scanout

open Pipeline (FinishRecord FlipRecord FrameRecord DrawRecord GpuWaitRecord)

/-- The display path when a frame is drawn and nothing is pending any more. -/
def Pipeline.readied (p : Pipeline) (pool : BufferPool) : Pipeline :=
  { p with frame := p.frame + 1, pool, pendingFlip := none }

/-- A frame comes to its submission from its drawing and its wait, with a mode blob if need be. -/
theorem Pipeline.FrameRecord.at_submission {p : Pipeline}
    {result : Except DisplayError Unit × Pipeline} {sofar later : List Exchange}
    {txn : Transaction} {answer : Except CallError (Option Fence)}
    (h : p.FrameRecord result (sofar ++ .submitted txn answer :: later)) :
    ∃ pool drawn earlier begun, sofar = earlier ++ begun ∧ (∀ e ∈ earlier, e.stage ≠ .commit) ∧
      (p.readied pool).SubmittedAs drawn txn begun ∧ accepted sofar = [] := by
  obtain ⟨pool, drawn, q, queued, drawing, waiting, begun, hq, hd, hw, hf, rfl⟩ :=
    h.at_commit rfl
  obtain rfl : q = p.readied pool := hw.leaves
  obtain ⟨hs, -, -⟩ := hf.at_submit
  have quiet := Pipeline.not_commit_of_waited hq hd hw
  have together : queued ++ (drawing ++ (waiting ++ begun)) =
      queued ++ (drawing ++ waiting) ++ begun := by
    simp
  refine ⟨pool, drawn, queued ++ (drawing ++ waiting), begun, together, quiet, hs, ?_⟩
  rw [together, accepted_append, accepted_of_stage quiet, hs.nothing_accepted, List.nil_append]

/-- A relation between the ends of a stretch of a life and its transcript that follows from what
the parts of frames do. -/
structure Compositional (R : Pipeline → Pipeline → List Exchange → Prop) : Prop where
  trans : ∀ {p q p' added later}, R p q added → R q p' later → R p p' (added ++ later)
  idle : ∀ p {added}, (∀ e ∈ added, e.stage = .call ∨ e.stage = .handBack) → R p p added
  timed : ∀ p throughput, R p { p with throughput } []
  drawn : ∀ {p : Pipeline} {result pool queued drawing}, GpuWaitRecord p.pendingFlip queued →
    DrawRecord p.pool p.frame (result, pool) drawing →
    R p { p with frame := p.frame + 1, pool } (queued ++ drawing)
  finish : ∀ {p result added}, p.FinishRecord result added → R p result.2 added
  flip : ∀ {p : Pipeline} {frame drawn result added}, p.pendingFlip = none →
    p.FlipRecord frame drawn result added → R p result.2 added

namespace Compositional

variable {R : Pipeline → Pipeline → List Exchange → Prop} {p q : Pipeline}
  {added : List Exchange}

theorem frame (hR : Compositional R) {result : Except DisplayError Unit × Pipeline}
    (h : p.FrameRecord result added) : R p result.2 added := by
  cases h with
  | undrawn hq hd => exact hR.drawn hq hd
  | @unwaited pool drawn e q queued drawing waiting hq hd hw =>
    have given : R q q (.closed drawn.fence :: drawn.locked.toList.map .released) :=
      hR.idle q (by simp [Exchange.stage])
    have gaveUp := hR.trans (hR.finish hw) given
    rw [← List.append_assoc]
    exact hR.trans (hR.drawn hq hd) gaveUp
  | @committed pool drawn q result queued drawing waiting flipping hq hd hw hf =>
    have noneLeft : q.pendingFlip = none := congrArg Pipeline.pendingFlip hw.leaves
    have shown := hR.trans (hR.finish hw) (hR.flip noneLeft hf)
    rw [← List.append_assoc]
    exact hR.trans (hR.drawn hq hd) shown

theorem step (hR : Compositional R) (h : StepRecord p added q) : R p q added := by
  cases h with
  | marked hm _ => exact hR.idle p (by simp [isMark_iff.mp hm])
  | @frame _ mark result added hm _ hf =>
    have called : R p p [mark] := hR.idle p (by simp [isMark_iff.mp hm])
    exact hR.trans called (hR.frame hf)
  | finish hw => exact hR.finish hw
  | timed throughput => exact hR.timed p throughput

theorem steps (hR : Compositional R) (h : Steps p added q) : R p q added := by
  induction h with
  | none => exact hR.idle _ (by simp)
  | more step _ ih => exact hR.trans (hR.step step) ih

/-- What is so of the whole of a life of which a call was picked out. -/
theorem midFrame (hR : Compositional R) {before after : List Exchange} {e : Exchange}
    (h : MidFrame p q before e after) : R p q (before ++ e :: after) := by
  cases h with
  | intro began hm hb hf ended =>
    simpa using hR.steps (began.trans (.frame hm hb hf ended))

end Compositional

namespace Pipeline

/-- That the output is the same: what it is made of, and how its properties are called. -/
structure SameOutput (p q : Pipeline) : Prop where
  topology : q.topology = p.topology
  tables : q.tables = p.tables

theorem SameOutput.trans {p q p' : Pipeline} (h : p.SameOutput q) (hl : q.SameOutput p') :
    p.SameOutput p' :=
  ⟨hl.topology.trans h.topology, hl.tables.trans h.tables⟩

theorem SameOutput.describes {p q : Pipeline} (h : p.SameOutput q)
    (described : p.tables.Describes p.topology) : q.tables.Describes q.topology := by
  rw [h.topology, h.tables]
  exact described

end Pipeline

theorem sameOutput_compositional : Compositional fun p q _ => p.SameOutput q where
  trans := Pipeline.SameOutput.trans
  idle _ _ _ := ⟨rfl, rfl⟩
  timed _ _ := ⟨rfl, rfl⟩
  drawn _ _ := ⟨rfl, rfl⟩
  finish hw := by
    rw [hw.leaves]
    exact ⟨rfl, rfl⟩
  flip _ hf := by cases hf <;> exact ⟨rfl, rfl⟩

end Scanout
