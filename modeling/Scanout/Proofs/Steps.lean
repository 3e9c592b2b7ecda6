import Scanout.Proofs.RunRecord

namespace Scanout

variable {σ : Type}

/-- The exchanges that part a transcript: calls that come in, and the polls of a run. -/
def Exchange.isMark : Exchange → Bool
  | called _ | polled _ => true
  | _ => false

/-- The marks after which a frame begins. -/
def Exchange.beginsFrame : Exchange → Bool
  | called .present | polled false => true
  | _ => false

/-- The smallest steps in the life of a display path, with what each adds to the transcript. -/
inductive StepRecord : Pipeline → List Exchange → Pipeline → Prop
  | marked {p : Pipeline} {e : Exchange} : e.isMark = true → e.beginsFrame = false →
      StepRecord p [e] p
  | frame {p q : Pipeline} {e : Exchange} {result : Except DisplayError Unit}
      {added : List Exchange} : e.isMark = true → e.beginsFrame = true →
      p.FrameRecord (result, q) added → StepRecord p (e :: added) q
  | finish {p q : Pipeline} {result : Except DisplayError Unit} {added : List Exchange} :
      p.FinishRecord (result, q) added → StepRecord p added q
  | timed {p : Pipeline} (throughput : Throughput) : StepRecord p [] { p with throughput }

inductive Steps : Pipeline → List Exchange → Pipeline → Prop
  | none {p : Pipeline} : Steps p [] p
  | more {p q p' : Pipeline} {added later : List Exchange} : StepRecord p added q →
      Steps q later p' → Steps p (added ++ later) p'

theorem StepRecord.steps {p q : Pipeline} {added : List Exchange} (h : StepRecord p added q) :
    Steps p added q := by
  simpa using Steps.more h .none

namespace Steps

theorem trans {p q p' : Pipeline} {added later : List Exchange} (h : Steps p added q)
    (hl : Steps q later p') : Steps p (added ++ later) p' := by
  induction h with
  | none => exact hl
  | more step _ ih =>
    rw [List.append_assoc]
    exact .more step (ih hl)

theorem mark {p q : Pipeline} {e : Exchange} {later : List Exchange} (hm : e.isMark = true)
    (hb : e.beginsFrame = false) (hl : Steps p later q) : Steps p (e :: later) q :=
  .more (.marked hm hb) hl

theorem frame {p q p' : Pipeline} {e : Exchange} {result : Except DisplayError Unit}
    {added later : List Exchange} (hm : e.isMark = true) (hb : e.beginsFrame = true)
    (hf : p.FrameRecord (result, q) added) (hl : Steps q later p') :
    Steps p (e :: (added ++ later)) p' :=
  .more (.frame hm hb hf) hl

theorem timed {p q : Pipeline} {later : List Exchange} (throughput : Throughput)
    (hl : Steps { p with throughput } later q) : Steps p later q :=
  .more (.timed throughput) hl

end Steps

namespace Pipeline

theorem loop_steps {budget : Option Nat} {presented : Nat} {p : Pipeline}
    {result : LoopEnd × Nat × Pipeline} {added : List Exchange}
    (h : LoopRecord budget presented p result added) : Steps p added result.2.2 := by
  induction h with
  | spent => exact .none
  | unfinished => exact .none
  | interrupted => exact .mark rfl rfl .none
  | shown _ hf _ ih => exact .frame rfl rfl hf ih
  | dropped _ hf _ _ ih => exact .frame rfl rfl hf ih
  | failed _ hf _ => exact (StepRecord.frame rfl rfl hf).steps

theorem run_steps {renderer : Renderer σ} {budget : Option Nat} {p : Pipeline}
    {result : Option (Except DisplayError Nat) × Pipeline} {added : List Exchange}
    (h : p.RunRecord renderer budget result added) : Steps p added result.2 := by
  cases h with
  | refused => exact .none
  | unfinished time _ hl => exact .timed (.begin time) (loop_steps hl)
  | failed time _ hl => exact .timed (.begin time) (loop_steps hl)
  | ended time _ hl hw =>
    exact .timed (.begin time) ((loop_steps hl).trans (StepRecord.finish hw).steps)

end Pipeline

end Scanout
