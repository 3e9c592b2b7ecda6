import Scanout.Proofs.FlipPacing
import Scanout.Proofs.HistoryCourse
import Scanout.Proofs.PendingFlip
import Scanout.Proofs.RingReuse
import Scanout.Proofs.SurfaceCustody

namespace Scanout

theorem Throughput.frame_frames (t : Throughput) (time : Nat) :
    (t.frame time).1.frames = t.frames + 1 := by
  unfold frame
  split
  next fresh => rw [fresh]
  next => split <;> rfl

/-- The answer to a question whether to stop. -/
def Exchange.poll? : Exchange → Option Bool
  | polled stop => some stop
  | _ => none

/-- The answers to the questions whether to stop, in their order. -/
def polls (events : List Exchange) : List Bool :=
  events.filterMap Exchange.poll?

@[simp] theorem polls_append (events later : List Exchange) :
    polls (events ++ later) = polls events ++ polls later :=
  List.filterMap_append

theorem polls_of_stage {events : List Exchange} (h : ∀ e ∈ events, e.stage ≠ .call) :
    polls events = [] := by
  apply List.filterMap_eq_nil_iff.mpr
  intro e he
  have hs := h e he
  cases e <;> simp_all [Exchange.stage, Exchange.poll?]

/-- The question that ends a loop whose budget is not used up. -/
def lastAsked (budget : Option Nat) (tried : Nat) : List Exchange :=
  if budget = some tried then [] else [.polled true]

theorem stage_lastAsked (budget : Option Nat) (tried : Nat) :
    ∀ e ∈ lastAsked budget tried, e.stage = .call := by
  intro e he
  unfold lastAsked at he
  split at he
  · simp at he
  · rw [List.mem_singleton.mp he]
    rfl

theorem polls_lastAsked (budget : Option Nat) (tried : Nat) :
    polls (lastAsked budget tried) = if budget = some tried then [] else [true] := by
  unfold lastAsked
  split <;> rfl

theorem framesShown_cons (a : Attempt) (later : List Attempt) :
    framesShown (a :: later) = framesShown [a] + framesShown later := by
  have split : a :: later = [a] ++ later := rfl
  unfold framesShown
  rw [split, List.countP_append]

namespace Pipeline

/-- A shown frame has one transaction accepted and is measured, any other has none and is not. -/
def Counts (p q : Pipeline) (frames : List Attempt) (events : List Exchange) : Prop :=
  (accepted events).length = framesShown frames ∧
    q.throughput.frames = p.throughput.frames + framesShown frames

theorem FlipRecord.accepted {p : Pipeline} {frame : Nat} {drawn : Drawn}
    {result : Except DisplayError Unit × Pipeline} {added : List Exchange}
    (h : p.FlipRecord frame drawn result added) :
    (accepted added).length = framesShown [⟨result.1, added⟩] := by
  obtain ⟨⟨answer, inFence⟩, committing, given, hc, hr, back, rfl⟩ := h.parts
  have unaccepted : Scanout.accepted given = [] :=
    accepted_of_stage fun e he => by simp [back e he]
  rw [accepted_append, unaccepted, List.append_nil]
  cases hr with
  | shown outFence throughput =>
    obtain ⟨begun, txn, later, rfl, before, after⟩ := hc.accepted_once
    simp [before, after, Exchange.accepted?]
  | refused e =>
    have none := hc.accepted_isEmpty
    simpa [Except.isOk, Except.toBool] using none

theorem FlipRecord.counts {p : Pipeline} {frame : Nat} {drawn : Drawn}
    {result : Except DisplayError Unit × Pipeline} {added : List Exchange}
    (h : p.FlipRecord frame drawn result added) :
    p.Counts result.2 [⟨result.1, added⟩] added := by
  refine ⟨h.accepted, ?_⟩
  cases h with
  | shown throughput _ measured =>
    obtain ⟨time, rfl⟩ := measured
    exact Throughput.frame_frames _ time
  | refused => rfl

theorem Counts.after {p q p' : Pipeline} {frames : List Attempt} {before events : List Exchange}
    (unaccepted : accepted before = []) (same : q.throughput = p.throughput)
    (h : q.Counts p' frames events) : p.Counts p' frames (before ++ events) := by
  unfold Counts at *
  rw [accepted_append, unaccepted, List.nil_append, ← same]
  exact h

theorem FrameRecord.counts {p : Pipeline} {result : Except DisplayError Unit × Pipeline}
    {added : List Exchange} (h : p.FrameRecord result added) :
    p.Counts result.2 [⟨result.1, added⟩] added := by
  cases h with
  | undrawn hq hd =>
    refine ⟨?_, rfl⟩
    rw [accepted_append, hq.unaccepted, hd.unaccepted]
    rfl
  | @unwaited pool drawn e q queued drawing waiting hq hd hw =>
    have measured : q.throughput = p.throughput := by rw [show q = _ from hw.leaves]
    have given : accepted (.closed drawn.fence :: drawn.locked.toList.map .released) = [] :=
      accepted_of_stage (by simp [Exchange.stage])
    refine ⟨?_, congrArg Throughput.frames measured⟩
    simp [hq.unaccepted, hd.unaccepted, hw.unaccepted, given]
  | @committed pool drawn q result queued drawing waiting flipping hq hd hw hf =>
    have measured : q.throughput = p.throughput := by rw [show q = _ from hw.leaves]
    have before : accepted (queued ++ (drawing ++ waiting)) = [] := by
      simp [hq.unaccepted, hd.unaccepted, hw.unaccepted]
    have whole := hf.counts.after before measured
    rw [List.append_assoc, List.append_assoc] at whole
    exact whole

namespace FramesRecord

variable {p q : Pipeline} {frames : List Attempt}

theorem frame (h : FramesRecord p frames q) : q.frame = p.frame + frames.length := by
  induction h with
  | none => rfl
  | more hf _ ih =>
    rw [List.length_cons, ih, hf.frame]
    omega

theorem unpolled (h : FramesRecord p frames q) : ∀ a ∈ frames, ∀ e ∈ a.events, e.stage ≠ .call := by
  induction h with
  | none => simp
  | more hf _ ih => exact List.forall_mem_cons.mpr ⟨fun e he => (hf.stage e he).1, ih⟩

theorem polls (h : FramesRecord p frames q) :
    polls (frames.flatMap Attempt.asked) = List.replicate frames.length false := by
  induction h with
  | none => rfl
  | @more _ _ _ a later hf _ ih =>
    have quiet : Scanout.polls a.events = [] := polls_of_stage fun e he => (hf.stage e he).1
    have one : Scanout.polls a.asked = [false] := congrArg (false :: ·) quiet
    rw [List.flatMap_cons, polls_append, one, ih, List.length_cons, List.replicate_succ]
    rfl

theorem counts (h : FramesRecord p frames q) :
    p.Counts q frames (frames.flatMap Attempt.asked) := by
  induction h with
  | none => exact ⟨rfl, rfl⟩
  | @more _ _ _ a later hf _ ih =>
    obtain ⟨accepted, measured⟩ := hf.counts
    obtain ⟨acceptedLater, measuredLater⟩ := ih
    have first : (Scanout.accepted a.asked).length = framesShown [a] := accepted
    refine ⟨?_, ?_⟩
    · rw [List.flatMap_cons, accepted_append, List.length_append, first, acceptedLater,
        ← framesShown_cons]
    · rw [framesShown_cons, measuredLater, measured, Nat.add_assoc]

theorem balanced (h : FramesRecord p frames q) :
    p.Balanced q (frames.flatMap Attempt.asked) := by
  induction h with
  | none => exact balanced_of_quiet rfl (by simp)
  | more hf _ ih =>
    have asked := balanced_compositional.step (.frame (e := .polled false) rfl rfl hf)
    exact asked.trans ih

end FramesRecord

theorem FinishRecord.unfailed {p q : Pipeline} {added : List Exchange}
    (h : p.FinishRecord (.ok (), q) added) : ∀ w ∈ waits added, w.2 = .ok () := by
  cases h with
  | idle => simp
  | waited => simp [Exchange.wait?]

/-- A frame in which a wait fails ends the loop. -/
theorem FrameRecord.unfailed {p : Pipeline} {result : Except DisplayError Unit × Pipeline}
    {added : List Exchange} (h : p.FrameRecord result added)
    (going : ∀ e, result.1 = .error e → e.isPerFrame = true) : ∀ w ∈ waits added, w.2 = .ok () := by
  cases h with
  | undrawn hq hd => simp [waits_of_drawn hq hd]
  | unwaited _ _ hw =>
    cases hw with
    | failed cause =>
      have fatal : (DisplayError.fenceWait cause).isPerFrame = true := going _ rfl
      simp [DisplayError.isPerFrame] at fatal
  | @committed pool drawn q result queued drawing waiting flipping hq hd hw hf =>
    have flipped : waits flipping = [] := by
      apply waits_of_stage
      have stage := hf.stage
      grind
    rw [← List.append_assoc, waits_append, waits_of_drawn hq hd, waits_append, flipped]
    simpa using hw.unfailed

theorem FramesRecord.unfailed {p q : Pipeline} {frames : List Attempt} (h : FramesRecord p frames q)
    (going : ∀ a ∈ frames, ∀ e, a.result = .error e → e.isPerFrame = true) :
    ∀ w ∈ waits (frames.flatMap Attempt.asked), w.2 = .ok () := by
  induction h with
  | none => simp
  | @more _ _ _ a later hf _ ih =>
    obtain ⟨first, rest⟩ := List.forall_mem_cons.mp going
    rw [List.flatMap_cons, waits_append]
    exact List.forall_mem_append.mpr ⟨hf.unfailed first, ih rest⟩

end Pipeline

/-- What a run that ended well comes to, having tried some frames. -/
structure RunTally (budget : Option Nat) (p : Pipeline) (n : Nat) (frames : List Attempt)
    (q : Pipeline) (events : List Exchange) : Prop where
  accepted : (accepted events).length = n
  measured : q.throughput.frames = n
  shown : framesShown frames = n
  counted : q.frame = p.frame + frames.length
  /-- It asks before each frame, and when there is none left to try no more. -/
  asked : ∃ closing, (∀ e ∈ closing, e.stage ≠ .call) ∧
    events = frames.flatMap Attempt.asked ++ (lastAsked budget frames.length ++ closing)
  unasked : ∀ a ∈ frames, ∀ e ∈ a.events, e.stage ≠ .call
  /-- It tries as many frames as it is told to go on with, at most the budget. -/
  tried : ∀ answers, polls events <+: answers →
    frames.length = let told := (answers.takeWhile (!·)).length; budget.elim told (min · told)
  idle : q.pendingFlip = none
  /-- What was pending and what was issued was waited for in this order. -/
  waited : waits events =
    (p.pendingFlip.toList ++ issued events).map fun fence => (fence, .ok ())

namespace Pipeline

variable {σ : Type} [World σ] {c : Collaborators σ} {interrupted : Act σ Bool}
  {budget : Option Nat} {p q : Pipeline} {r s : Recorded σ} {frames : List Attempt}

/-- A loop that did not fail: it goes on to where its budget or an answer stops it. -/
theorem LoopCourse.done (h : LoopCourse c interrupted budget p r .done frames q s) :
    s.transcript =
        r.transcript ++ (frames.flatMap Attempt.asked ++ lastAsked budget frames.length) ∧
      FramesRecord p frames q ∧
      (∀ a ∈ frames, ∀ e, a.result = .error e → e.isPerFrame = true) ∧
      ∀ b ∈ budget, frames.length ≤ b := by
  cases h with
  | spent turns spent =>
    obtain ⟨added, hl, going⟩ := turns.record
    subst spent
    exact ⟨by simp [added, lastAsked], hl, going, by simp⟩
  | @interrupted _ _ s' asked turns more polled =>
    obtain ⟨added, hl, going⟩ := turns.record
    have unspent : budget ≠ some frames.length := fun hb => absurd (more _ hb) (Nat.lt_irrefl _)
    refine ⟨?_, hl, going, fun b hb => (more b hb).le⟩
    rw [note_transcript, watch_polled polled, added, lastAsked, if_neg unspent, List.append_assoc]

theorem LoopCourse.finished {time : Nat} {begun : Recorded σ} {q' : Pipeline} {s' : Recorded σ}
    {result : Except DisplayError Unit} (clock : now r = (time, begun))
    (h : LoopCourse c interrupted budget { p with throughput := .begin time } begun .done frames
      q s)
    (finishing : finish c.waiter.recorded q s = ((result, q'), s')) :
    ∃ waiting, q.FinishRecord (result, q') waiting ∧ s'.transcript = r.transcript ++
      (frames.flatMap Attempt.asked ++ (lastAsked budget frames.length ++ waiting)) := by
  obtain ⟨looped, -⟩ := h.done
  obtain ⟨waiting, ended, hw⟩ := (records_finish c.waiter q).ended finishing
  refine ⟨waiting, hw, ?_⟩
  rw [ended, looped, now_transcript clock, List.append_assoc, List.append_assoc]

theorem FinishRecord.unpolled {result : Except DisplayError Unit × Pipeline}
    {waiting : List Exchange} (hw : p.FinishRecord result waiting) :
    ∀ e ∈ waiting, e.stage ≠ .call := by
  have stage := hw.stage
  grind

theorem polls_finished {p₀ : Pipeline} {result : Except DisplayError Unit × Pipeline}
    {waiting : List Exchange} (hl : FramesRecord p₀ frames p) (hw : p.FinishRecord result waiting) :
    polls (frames.flatMap Attempt.asked ++ (lastAsked budget frames.length ++ waiting)) =
      List.replicate frames.length false ++ if budget = some frames.length then [] else [true] := by
  rw [polls_append, polls_append, hl.polls, polls_lastAsked, polls_of_stage hw.unpolled,
    List.append_nil]

end Pipeline

/-- Being told to go on so often before the first no, the run tries so many frames or its budget. -/
theorem tried_of_polls {budget : Option Nat} {tried : Nat} {answers : List Bool}
    (within : ∀ b ∈ budget, tried ≤ b)
    (h : List.replicate tried false ++ (if budget = some tried then [] else [true]) <+: answers) :
    tried =
      let told := (answers.takeWhile (!·)).length
      budget.elim told (min · told) := by
  obtain ⟨rest, rfl⟩ := h
  by_cases spent : budget = some tried
  · subst spent
    simp
  · have told : ((List.replicate tried false ++ [true] ++ rest).takeWhile (!·)).length = tried := by
      simp
    rw [if_neg spent, told]
    cases budget with
    | none => rfl
    | some b => exact (Nat.min_eq_right (within b rfl)).symm

theorem Pipeline.RunCourse.tally {σ : Type} [World σ] {c : Collaborators σ}
    {interrupted : Act σ Bool} {budget : Option Nat} {p q : Pipeline} {r s : Recorded σ} {n : Nat}
    {frames : List Attempt}
    (h : p.RunCourse c interrupted budget r (some (.ok n)) frames q s) :
    ∃ events, s.transcript = r.transcript ++ events ∧ RunTally budget p n frames q events := by
  cases h with
  | @ended time _ q₀ _ s₀ s₁ _ _ clock course finishing =>
    obtain ⟨-, hl, going, within⟩ := course.done
    obtain ⟨waiting, hw, added⟩ := course.finished clock finishing
    obtain ⟨counted, measured⟩ := hl.counts
    have asking := stage_lastAsked budget frames.length
    have last : ∀ e ∈ lastAsked budget frames.length ++ waiting, e.stage ≠ .commit := by
      have stage := hw.stage
      grind
    have balanced : p.Balanced q _ :=
      hl.balanced.trans ((balanced_compositional.idle q₀ fun e he => .inl (asking e he)).trans
        hw.balanced)
    obtain rfl : q = { q₀ with pendingFlip := .none } := hw.leaves
    -- A wait that fails ends the loop or the run with its error, so none of these did.
    have unfailed : ∀ w ∈ waits (frames.flatMap Attempt.asked ++
        (lastAsked budget frames.length ++ waiting)), w.2 = .ok () := by
      have unwaited : waits (lastAsked budget frames.length) = [] :=
        waits_of_stage fun e he => by simp [asking e he]
      rw [waits_append, waits_append, unwaited, List.nil_append]
      exact List.forall_mem_append.mpr ⟨hl.unfailed going, hw.unfailed⟩
    exact ⟨_, added,
      { accepted := by
          rw [accepted_append, accepted_of_stage last, List.append_nil]
          exact counted
        measured := measured.trans (Nat.zero_add _)
        shown := rfl
        counted := hl.frame
        asked := ⟨waiting, hw.unpolled, rfl⟩
        unasked := hl.unpolled
        tried := by
          intro answers hp
          rw [polls_finished hl hw] at hp
          exact tried_of_polls within hp
        idle := rfl
        waited := waits_all_ok (by simpa [Pipeline.Balanced] using balanced) unfailed }⟩

/-- A run that ends well gives the number of commits that were accepted, whatever the state it
begins in, whatever it is told between its frames and whatever its collaborators answer. It tries
the frames it is told to try within its budget, and leaves no flip that was not waited for. -/
theorem run_tallied {σ : Type} [World σ] (device : Device σ) (allocator : Allocator σ)
    (renderer : Renderer σ) (waiter : Waiter σ) (interrupted : Act σ Bool) (patience : Nat)
    (budget : Option Nat) (p q : Pipeline) (world : σ) {n : Nat} {r : Recorded σ}
    (h : recordCall device allocator p (.run renderer waiter interrupted patience budget) world =
      ((.ran (some (.ok n)), q), r)) :
    ∃ frames, p.RunCourse ⟨device, allocator, renderer, waiter⟩ interrupted budget ⟨world, []⟩
        (some (.ok n)) frames q r ∧
      RunTally budget p n frames q r.transcript := by
  obtain ⟨frames, course⟩ := recordCall_run_course h
  obtain ⟨events, added, tally⟩ := course.tally
  obtain rfl : r.transcript = events := added
  exact ⟨frames, course, tally⟩

/-- A run on the device in memory that drops a frame and is interrupted after the next one. -/
def Memory.runInterrupted : Request Memory :=
  .run (MemoryRenderer.failingAt .plain 2).renderer Memory.waiter (Memory.stopAfter (some 3)) 5
    (some 5)

/-- After a frame in memory, that run tries three of its five frames and shows two. -/
theorem run_tallied_in_memory :
    ∃ p q r frames, (Memory.frames .plain 1).1 = .ok p ∧ p.pendingFlip.isSome ∧
      Memory.call p Memory.runInterrupted (Memory.frames .plain 1).2.world =
        ((.ran (some (.ok 2)), q), r) ∧
      frames.length = 3 ∧ RunTally (some 5) p 2 frames q r.transcript := by
  have begun : ((Memory.frames .plain 1).1.toOption.map fun p =>
      let ((reply, q), _) := Memory.call p Memory.runInterrupted (Memory.frames .plain 1).2.world
      (p.pendingFlip.isSome, p.frame, reply.total?, q.frame)) = some (true, 1, some 2, 4) := by
    decide +kernel
  obtain ⟨p, hp, facts⟩ := Option.map_eq_some_iff.mp begun
  generalize hc : Memory.call p Memory.runInterrupted (Memory.frames .plain 1).2.world = called
    at facts
  obtain ⟨⟨reply, q⟩, r⟩ := called
  obtain ⟨pending, first, total, last⟩ := by simpa using facts
  obtain rfl := Reply.total?_eq_some total
  obtain ⟨frames, -, tally⟩ := run_tallied _ _ _ _ _ _ _ p q _ hc
  have tried : frames.length = 3 := by
    have counted := tally.counted
    omega
  exact ⟨p, q, r, frames, ok_of_toOption hp, pending, hc, tried, tally⟩

end Scanout
