import Scanout.Proofs.FrameInMemory
import Scanout.Proofs.RunTally
import Scanout.Proofs.SplitRun

namespace Scanout

open MemoryDisplay (outputTables)
open Pipeline (FrameInMemory FrameRecord FramesRecord frameLog)

namespace MemoryEvent

def drawnFrame? : MemoryEvent → Option Nat
  | render frame => some frame
  | _ => none

/-- Whether an event has to do with what is on the screen: a submission, or a wait for a flip. -/
def isFlip : MemoryEvent → Bool
  | commit _ _ _ | rejected _ | wait => true
  | _ => false

def createdBlob? : MemoryEvent → Option UInt64
  | createBlob blob => some blob
  | _ => none

def destroyedBlob? : MemoryEvent → Option UInt64
  | destroyBlob blob => some blob
  | _ => none

def asksFramebuffer : MemoryEvent → Bool
  | addFramebuffer _ _ => true
  | _ => false

end MemoryEvent

/-- The frames below `n` that are drawn where drawing the one numbered `f` fails. -/
def framesDrawn (n f : Nat) : List Nat :=
  (List.range n).filter (· ≠ f)

/-- The slots of the ring that those are drawn into, in the order of their first use. -/
def slotsDrawn (n f : Nat) : List Nat :=
  ((framesDrawn n f).map (· % 2)).eraseDups

/-- So many commits, of which the first sets the mode, each with a wait after it. -/
def commitsWaited (count : Nat) : List MemoryEvent :=
  (List.range count).flatMap fun i => [.commit (decide (i = 0)) true true, .wait]

/-- Submissions of which so many are rejected first, with a wait after each of the others. -/
def submissionsWaited (rejected count : Nat) : List MemoryEvent :=
  List.replicate (min rejected count) (.rejected true) ++ commitsWaited (count - rejected)

section Counting

theorem framesDrawn_fails {n f : Nat} (fails : n = f) :
    framesDrawn (n + 1) f = framesDrawn n f := by
  unfold framesDrawn
  rw [List.range_succ, List.filter_append]
  simp [fails]

theorem framesDrawn_draws {n f : Nat} (draws : n ≠ f) :
    framesDrawn (n + 1) f = framesDrawn n f ++ [n] := by
  unfold framesDrawn
  rw [List.range_succ, List.filter_append]
  simp [draws]

theorem length_framesDrawn_draws {n f : Nat} (draws : n ≠ f) :
    (framesDrawn (n + 1) f).length = (framesDrawn n f).length + 1 := by
  rw [framesDrawn_draws draws, List.length_append, List.length_singleton]

theorem length_framesDrawn (n f : Nat) :
    (framesDrawn n f).length = n - if f < n then 1 else 0 := by
  induction n with
  | zero => rfl
  | succ n ih =>
    by_cases fails : n = f
    · rw [framesDrawn_fails fails, ih]
      subst fails
      simp
    · rw [length_framesDrawn_draws fails, ih]
      split <;> split <;> omega

theorem eraseDups_removeAll_singleton (slot : Nat) (used : List Nat) :
    ([slot].removeAll used).eraseDups = if slot ∈ used then [] else [slot] := by
  by_cases h : slot ∈ used
  · simp [List.removeAll, h]
  · simp only [List.removeAll, List.elem_eq_mem, h, decide_false, Bool.not_false,
      List.filter_cons_of_pos, List.filter_nil, if_false]
    rfl

theorem slotsDrawn_fails {n f : Nat} (fails : n = f) :
    slotsDrawn (n + 1) f = slotsDrawn n f := by
  unfold slotsDrawn
  rw [framesDrawn_fails fails]

theorem slotsDrawn_draws {n f : Nat} (draws : n ≠ f) : slotsDrawn (n + 1) f =
    slotsDrawn n f ++ if n % 2 ∈ slotsDrawn n f then [] else [n % 2] := by
  unfold slotsDrawn
  rw [framesDrawn_draws draws, List.map_append, List.eraseDups_append, List.map_singleton,
    eraseDups_removeAll_singleton]
  simp only [List.mem_eraseDups]

theorem commitsWaited_succ (count : Nat) : commitsWaited (count + 1) =
    commitsWaited count ++ [.commit (decide (count = 0)) true true, .wait] := by
  unfold commitsWaited
  rw [List.range_succ, List.flatMap_append]
  rfl

theorem submissionsWaited_succ (k drawn : Nat) :
    submissionsWaited k (drawn + 1) = submissionsWaited k drawn ++
      submissionEvent (k - drawn) (decide (drawn ≤ k)) :: if k ≤ drawn then [.wait] else [] := by
  unfold submissionsWaited
  rcases Nat.lt_or_ge drawn k with left | none
  · have submitted : submissionEvent (k - drawn) (decide (drawn ≤ k)) = .rejected true := by
      rw [decide_eq_true left.le]
      exact if_pos (Nat.sub_pos_of_lt left)
    rw [submitted, if_neg (Nat.not_le.mpr left), Nat.min_eq_right left, Nat.min_eq_right left.le,
      Nat.sub_eq_zero_of_le left, Nat.sub_eq_zero_of_le left.le, List.replicate_succ']
    simp [commitsWaited]
  · have first : decide (drawn ≤ k) = decide (drawn - k = 0) :=
      decide_eq_decide.mpr (by omega)
    have submitted : submissionEvent (k - drawn) (decide (drawn ≤ k)) =
        .commit (decide (drawn - k = 0)) true true := by
      rw [← first]
      exact if_neg (by omega)
    rw [submitted, if_pos none, Nat.min_eq_left none, Nat.min_eq_left (by omega),
      Nat.succ_sub none, commitsWaited_succ, List.append_assoc]

end Counting

section FrameLog

variable {k : Nat} {p : Pipeline} {buffer : Buffer} {blob : UInt64}

theorem framebufferEvent_asks (layout : Layout) :
    ∃ asked withModifiers, layout.framebufferEvent = .addFramebuffer asked withModifiers := by
  unfold Layout.framebufferEvent
  split <;> exact ⟨_, _, rfl⟩

theorem submissionEvent_cases (k : Nat) (modeset : Bool) :
    submissionEvent k modeset = .rejected modeset ∨
      submissionEvent k modeset = .commit modeset true true := by
  unfold submissionEvent
  split
  · exact .inl rfl
  · exact .inr rfl

/-- What is drawn, submitted and made in a frame, read off its log. -/
theorem frameLog_parts (k : Nat) (p : Pipeline) (buffer : Buffer) (blob : UInt64) :
    let log := p.frameLog k buffer blob
    log.filterMap MemoryEvent.drawnFrame? = [p.frame] ∧
      log.filter MemoryEvent.isFlip =
        (if p.pendingFlip.isSome then [.wait] else []) ++ [submissionEvent k p.allowModeset] ∧
      log.filterMap MemoryEvent.createdBlob? = (if p.allowModeset then [blob] else []) ∧
      log.filterMap MemoryEvent.destroyedBlob? = (if p.allowModeset then [blob] else []) ∧
      log.filter MemoryEvent.asksFramebuffer =
        (if (p.pool.framebuffer? (p.pool.slotForFrame p.frame)).isSome then []
          else [buffer.layout.framebufferEvent]) := by
  obtain ⟨asked, withModifiers, he⟩ := framebufferEvent_asks buffer.layout
  unfold frameLog commitLog
  rw [he]
  cases p.pendingFlip.isSome <;> cases p.allowModeset <;>
    cases (p.pool.framebuffer? (p.pool.slotForFrame p.frame)).isSome <;>
    rcases submissionEvent_cases k true with hs | hs <;>
    rcases submissionEvent_cases k false with hs' | hs' <;>
    rw [hs, hs'] <;> exact ⟨rfl, rfl, rfl, rfl, rfl⟩

theorem gpuWaitLog_parts (pending : Bool) :
    let log : List MemoryEvent := if pending then [.gpuWait] else []
    log.filterMap MemoryEvent.drawnFrame? = [] ∧ log.filter MemoryEvent.isFlip = [] ∧
      log.filterMap MemoryEvent.createdBlob? = [] ∧
      log.filterMap MemoryEvent.destroyedBlob? = [] ∧
      log.filter MemoryEvent.asksFramebuffer = [] := by
  cases pending <;> exact ⟨rfl, rfl, rfl, rfl, rfl⟩

theorem waitLog_parts (pending : Bool) :
    let log : List MemoryEvent := if pending then [.wait] else []
    log.filterMap MemoryEvent.drawnFrame? = [] ∧ log.filter MemoryEvent.isFlip = log ∧
      log.filterMap MemoryEvent.createdBlob? = [] ∧
      log.filterMap MemoryEvent.destroyedBlob? = [] ∧
      log.filter MemoryEvent.asksFramebuffer = [] := by
  cases pending <;> exact ⟨rfl, rfl, rfl, rfl, rfl⟩

end FrameLog

/-- Where a display path with a fresh ring is after so many frames in memory of which one may fail,
so many commits being rejected first, and what is in the log of those. -/
structure MemoryCourse (failing k : Nat) (p : Pipeline) (n : Nat) (q : Pipeline)
    (log : List MemoryEvent) : Prop where
  frame : q.frame = n
  tables : q.tables = outputTables
  ring : p.pool.RingKept q.pool
  modeset : q.allowModeset = decide ((framesDrawn n failing).length ≤ k)
  pending : q.pendingFlip.isSome = decide (k < (framesDrawn n failing).length)
  filled : ∀ slot, (q.pool.framebuffer? slot).isSome = decide (slot ∈ slotsDrawn n failing)
  drawn : log.filterMap MemoryEvent.drawnFrame? = framesDrawn n failing
  /-- A flip that is pending is still to be waited for. -/
  flips : log.filter MemoryEvent.isFlip ++ (if q.pendingFlip.isSome then [.wait] else []) =
    submissionsWaited k (framesDrawn n failing).length
  modesets : (log.filterMap MemoryEvent.createdBlob?).length =
    min (k + 1) (framesDrawn n failing).length
  blobs : log.filterMap MemoryEvent.destroyedBlob? = log.filterMap MemoryEvent.createdBlob?
  framebuffers : (log.filter MemoryEvent.asksFramebuffer).map some =
    (slotsDrawn n failing).map fun slot => (p.pool.buffer? slot).map (·.layout.framebufferEvent)

section Course

variable {failing k n : Nat} {p q : Pipeline} {log : List MemoryEvent}

theorem memoryCourse_start (fresh : p.Fresh true) (tables : p.tables = outputTables)
    (throughput : Throughput) : MemoryCourse failing k p 0 { p with throughput } [] where
  frame := fresh.frame
  tables
  ring := .refl (Option.isNone_iff_eq_none.mp fresh.pool.surface)
  modeset := fresh.allowModeset
  pending := by rw [fresh.pendingFlip]; rfl
  filled slot := by
    have bare : p.pool.framebuffer? slot = none := by
      unfold BufferPool.framebuffer?
      cases he : p.pool.entries[slot]? with
      | none => rfl
      | some entry => exact fresh.pool.bare entry (List.mem_of_getElem? he)
    rw [bare]
    rfl
  drawn := rfl
  flips := by rw [fresh.pendingFlip]; simp [submissionsWaited, framesDrawn, commitsWaited]
  modesets := rfl
  blobs := rfl
  framebuffers := rfl

theorem BufferPool.Fresh.hasRing {pool : BufferPool} (h : pool.Fresh true) :
    pool.HasRing pool.buffer? :=
  ⟨Option.isNone_iff_eq_none.mp h.surface, fun _ => rfl⟩

theorem BufferPool.Fresh.buffer {pool : BufferPool} (h : pool.Fresh true) (frame : Nat) :
    ∃ buffer, pool.buffer? (frame % 2) = some buffer := by
  have inside : frame % 2 < pool.entries.length := by
    rw [h.ring rfl]
    exact Nat.mod_lt _ Nat.two_pos
  have owned := h.owned rfl _ (List.getElem_mem inside)
  obtain ⟨buffer, hb⟩ := Option.isSome_iff_exists.mp owned
  exact ⟨buffer, by simp [buffer?, List.getElem?_eq_getElem inside, hb]⟩

namespace MemoryCourse

theorem slot (h : MemoryCourse failing k p n q log) (fresh : p.Fresh true) :
    q.pool.slotForFrame q.frame = n % 2 := by
  rw [h.ring.slotForFrame, h.frame, BufferPool.slotForFrame_ring (fresh.pool.ring rfl)]

/-- A frame that cannot be drawn leaves everything to the next one. -/
theorem undrawn (h : MemoryCourse failing k p n q log) (fails : n = failing) :
    MemoryCourse failing k p (n + 1) { q with frame := q.frame + 1 }
      (log ++ if q.pendingFlip.isSome then [.gpuWait] else []) := by
  have frames := framesDrawn_fails fails
  have slots := slotsDrawn_fails fails
  obtain ⟨unseen, still, uncreated, undestroyed, unasked⟩ := gpuWaitLog_parts q.pendingFlip.isSome
  constructor
  case frame => exact congrArg (· + 1) h.frame
  case tables => exact h.tables
  case ring => exact h.ring
  case modeset => exact frames ▸ h.modeset
  case pending => exact frames ▸ h.pending
  case filled => exact slots ▸ h.filled
  case drawn => rw [List.filterMap_append, unseen, List.append_nil, frames, h.drawn]
  case flips => rw [List.filter_append, still, List.append_nil, frames, h.flips]
  case modesets => rw [List.filterMap_append, uncreated, List.append_nil, frames, h.modesets]
  case blobs =>
    rw [List.filterMap_append, List.filterMap_append, uncreated, undestroyed, h.blobs]
  case framebuffers =>
    rw [List.filter_append, unasked, List.append_nil, slots, h.framebuffers]

/-- A frame that is drawn is submitted, and its submission is rejected or accepted as many others
were rejected before. -/
theorem submitted {buffer : Buffer} {blob : UInt64} {q' : Pipeline}
    (h : MemoryCourse failing k p n q log) (fresh : p.Fresh true) (draws : n ≠ failing)
    (hb : p.pool.buffer? (n % 2) = some buffer) (frame : q'.frame = q.frame + 1)
    (tables : q'.tables = q.tables) (ring : q.pool.RingKept q'.pool)
    (modeset : q'.allowModeset =
      (q.allowModeset && decide (0 < k - (framesDrawn n failing).length)))
    (pending : q'.pendingFlip.isSome = decide (k - (framesDrawn n failing).length = 0))
    (filled : ∀ slot, (q'.pool.framebuffer? slot).isSome =
      (slot == q.pool.slotForFrame q.frame || (q.pool.framebuffer? slot).isSome)) :
    MemoryCourse failing k p (n + 1) q'
      (log ++ q.frameLog (k - (framesDrawn n failing).length) buffer blob) := by
  have slot := h.slot fresh
  have count := length_framesDrawn_draws draws
  have slots := slotsDrawn_draws draws
  obtain ⟨drawnNow, flipsNow, createdNow, destroyedNow, askedNow⟩ :=
    frameLog_parts (k - (framesDrawn n failing).length) q buffer blob
  rw [h.modeset] at modeset createdNow destroyedNow flipsNow
  rw [slot, h.filled] at askedNow
  constructor
  case frame => rw [frame, h.frame]
  case tables => rw [tables, h.tables]
  case ring => exact h.ring.trans ring
  case modeset =>
    rw [modeset, count, ← Bool.decide_and, decide_eq_decide]
    omega
  case pending =>
    rw [pending, count, decide_eq_decide]
    omega
  case filled =>
    intro other
    rw [filled, slot, h.filled, slots]
    by_cases made : n % 2 ∈ slotsDrawn n failing <;> by_cases same : other = n % 2 <;>
      simp [made, same]
  case drawn => rw [List.filterMap_append, h.drawn, drawnNow, h.frame, framesDrawn_draws draws]
  case flips =>
    rw [List.filter_append, flipsNow, ← List.append_assoc, h.flips, count,
      submissionsWaited_succ, List.append_assoc, pending]
    congr 2
    by_cases none : k ≤ (framesDrawn n failing).length <;> simp [none, Nat.sub_eq_zero_iff_le]
  case modesets =>
    rw [List.filterMap_append, List.length_append, h.modesets, createdNow, count]
    by_cases still : (framesDrawn n failing).length ≤ k <;> simp [still] <;> omega
  case blobs =>
    rw [List.filterMap_append, List.filterMap_append, h.blobs, createdNow, destroyedNow]
  case framebuffers =>
    rw [List.filter_append, List.map_append, h.framebuffers, askedNow, slots, List.map_append]
    by_cases made : n % 2 ∈ slotsDrawn n failing <;> simp [made, hb]

/-- A last wait leaves nothing open. -/
theorem finished (h : MemoryCourse failing k p n q log) :
    let events := log ++ if q.pendingFlip.isSome then [.wait] else []
    events.filterMap MemoryEvent.drawnFrame? = framesDrawn n failing ∧
      events.filter MemoryEvent.isFlip = submissionsWaited k (framesDrawn n failing).length ∧
      (events.filterMap MemoryEvent.createdBlob?).length =
        min (k + 1) (framesDrawn n failing).length ∧
      events.filterMap MemoryEvent.destroyedBlob? =
        events.filterMap MemoryEvent.createdBlob? ∧
      (events.filter MemoryEvent.asksFramebuffer).map some =
        (slotsDrawn n failing).map fun slot =>
          (p.pool.buffer? slot).map (·.layout.framebufferEvent) := by
  obtain ⟨unseen, waited, uncreated, undestroyed, unasked⟩ := waitLog_parts q.pendingFlip.isSome
  refine ⟨?_, ?_, ?_, ?_, ?_⟩
  · rw [List.filterMap_append, unseen, List.append_nil, h.drawn]
  · rw [List.filter_append, waited, h.flips]
  · rw [List.filterMap_append, uncreated, List.append_nil, h.modesets]
  · rw [List.filterMap_append, List.filterMap_append, uncreated, undestroyed, h.blobs]
  · rw [List.filter_append, unasked, List.append_nil, h.framebuffers]

theorem shown_succ (k n f : Nat) {result : Except DisplayError Unit} {added : List Exchange}
    (draws : n ≠ f) (h : result = if 0 < k - (framesDrawn n f).length then
      .error (.commitRejected .busy) else .ok ()) :
    framesShown [⟨result, added⟩] + ((framesDrawn n f).length - k) =
      (framesDrawn (n + 1) f).length - k := by
  rw [length_framesDrawn_draws draws, h]
  split
  · rw [framesShown_unshown, framesShown_nil]
    omega
  · rw [framesShown_shown, framesShown_nil]
    omega

/-- One frame more: it is the one that fails, or it uses up a rejection, or it is shown. -/
theorem next {result : Except DisplayError Unit} {q' : Pipeline} {added : List Exchange}
    (h : MemoryCourse failing k p n q log) (fresh : p.Fresh true)
    (hf : q.FrameRecord (result, q') added)
    (answered : AnsweredInMemory failing (k - (framesDrawn n failing).length) added) :
    MemoryCourse failing k p (n + 1) q' (log ++ memoryLog added) ∧
      (framesDrawn (n + 1) failing).length = (framesDrawn n failing).length + submissions added ∧
      framesShown [⟨result, added⟩] + ((framesDrawn n failing).length - k) =
        (framesDrawn (n + 1) failing).length - k ∧
      ∀ e, result = .error e → e.isPerFrame = true := by
  obtain ⟨buffer, hb⟩ := fresh.pool.buffer n
  have slot : q.pool.buffer? (q.pool.slotForFrame q.frame) = some buffer := by
    rw [h.slot fresh, h.ring.buffers, hb]
  have tables := (sameOutput_compositional.frame hf).tables
  have ring := ringKept_compositional.frame hf h.ring.surface
  obtain ⟨course, submitted⟩ := hf.inMemory h.tables h.ring.surface slot answered
  rw [submitted]
  generalize memoryLog added = events at course ⊢
  cases course with
  | undrawn failure fails =>
    rw [h.frame] at fails
    refine ⟨h.undrawn fails, ?_, ?_, ?_⟩
    · rw [framesDrawn_fails fails, h.frame, if_pos fails, Nat.add_zero]
    · rw [framesShown_unshown, framesDrawn_fails fails]
      exact Nat.zero_add _
    · rintro _ ⟨⟩
      rfl
  | submitted blob draws frame modeset pending filled =>
    rw [h.frame] at draws
    refine ⟨h.submitted fresh draws hb frame tables ring modeset pending filled, ?_,
      shown_succ k n failing draws rfl, ?_⟩
    · rw [length_framesDrawn_draws draws, h.frame, if_neg draws]
    · intro e he
      split at he
      · obtain rfl := Except.error.inj he
        rfl
      · cases he

/-- Frames one after the other. What is left to be rejected goes down with those submitted. -/
theorem run {frames : List Attempt} {q' : Pipeline} (h : MemoryCourse failing k p n q log)
    (fresh : p.Fresh true) (hf : FramesRecord q frames q')
    (answered : AnsweredInMemory failing (k - (framesDrawn n failing).length)
      (frames.flatMap Attempt.asked)) :
    MemoryCourse failing k p (n + frames.length) q'
        (log ++ memoryLog (frames.flatMap Attempt.asked)) ∧
      framesShown frames + ((framesDrawn n failing).length - k) =
        (framesDrawn (n + frames.length) failing).length - k ∧
      ∀ a ∈ frames, ∀ e, a.result = .error e → e.isPerFrame = true := by
  induction hf generalizing n log with
  | none => exact ⟨by simpa using h, by simp, by simp⟩
  | @more q q₁ q' a later hf _ ih =>
    rw [List.flatMap_cons] at answered ⊢
    obtain ⟨⟨-, now⟩, others⟩ := answeredInMemory_append.mp answered
    obtain ⟨course, counted, shown, going⟩ := h.next fresh hf now
    have submittedNow : submissions a.asked = submissions a.events := by
      rw [Attempt.asked, submissions_cons]
      exact Nat.zero_add _
    have loggedNow : memoryLog a.asked = memoryLog a.events := by
      rw [Attempt.asked, memoryLog_cons]
      rfl
    rw [submittedNow, Nat.sub_sub, ← counted] at others
    obtain ⟨last, shownLater, goingLater⟩ := ih course others
    rw [List.length_cons, Nat.add_comm later.length, ← Nat.add_assoc]
    refine ⟨?_, ?_, List.forall_mem_cons.mpr ⟨going, goingLater⟩⟩
    · rw [memoryLog_append, loggedNow, ← List.append_assoc]
      exact last
    · have shown : framesShown [a] + _ = _ := shown
      rw [framesShown_cons, ← shownLater]
      omega

end MemoryCourse

end Course

namespace Pipeline

theorem LoopCourse.fatal {σ : Type} [World σ] {c : Collaborators σ} {interrupted : Act σ Bool}
    {budget : Option Nat} {p q : Pipeline} {r s : Recorded σ} {frames : List Attempt}
    {e : DisplayError} (h : LoopCourse c interrupted budget p r (.failed e) frames q s) :
    ∃ a ∈ frames, a.result = .error e ∧ e.isPerFrame = false := by
  cases h with
  | failed _ _ _ fatal => exact ⟨_, List.mem_append_right _ (List.mem_singleton_self _), rfl, fatal⟩

section Settling

variable {σ : Type} [World σ] (c : Collaborators σ) (interrupted : Act σ Bool)

/-- A loop whose patience is enough for its budget is not left off. -/
theorem loop_settles {n patience : Nat} (enough : n ≤ patience) (presented : Nat) (p : Pipeline)
    (r : σ) : Ends (loop c interrupted patience (some n) presented p) r
      fun result _ => result.1 ≠ .unfinished := by
  rw [loop_patience enough]
  induction n generalizing patience presented p r with
  | zero =>
    rw [loop_spent]
    exact ends_pure LoopEnd.noConfusion
  | succ n ih =>
    rw [loop_turn]
    refine ends_bind fun stop s _ => ?_
    cases stop with
    | true => exact LoopEnd.noConfusion
    | false =>
      refine ends_bind ?_
      rintro ⟨result, q⟩ s' _
      cases result with
      | ok _ => exact ih (Nat.le_refl n) _ _ _
      | error e =>
        dsimp only
        split
        · exact ends_bind fun _ _ _ => ih (Nat.le_refl n) _ _ _
        · exact ends_pure LoopEnd.noConfusion

theorem run_settles {n patience : Nat} (enough : n ≤ patience) (p : Pipeline) (r : σ) :
    Ends (run c interrupted patience (some n) p) r fun result _ => result.1 ≠ none := by
  unfold run
  split
  · exact ends_pure (Option.some_ne_none _)
  · refine ends_bind fun time s _ => ?_
    refine ends_bind ?_
    rintro ⟨stop, presented, q⟩ s' looped
    cases stop with
    | unfinished => exact absurd rfl ((loop_settles c interrupted enough 0 _ s).of_eq looped)
    | failed e => exact ends_pure (Option.some_ne_none _)
    | done =>
      refine ends_bind ?_
      rintro ⟨result, q'⟩ s'' _
      cases result <;> exact ends_pure (Option.some_ne_none _)

end Settling

end Pipeline

section Run

variable {failing n patience : Nat} {p : Pipeline}

theorem unasked_in_memory {budget : Option Nat} {k tried : Nat} {closing : List Exchange}
    (answered : AnsweredInMemory failing k (lastAsked budget tried ++ closing)) :
    budget = some tried := by
  by_contra unspent
  rw [lastAsked, if_neg unspent] at answered
  cases answered.1

theorem asked_in_memory (events : List Exchange) :
    ((memoryLog events).filter MemoryEvent.asksFramebuffer).length =
      events.countP (·.asksFramebuffer) := by
  rw [← List.countP_eq_length_filter, memoryLog, List.countP_filterMap]
  refine List.countP_congr fun e _ => ?_
  cases e with
  | rendered _ _ answer => cases answer <;> rfl
  | blobCreated _ answer => cases answer <;> rfl
  | submitted _ answer => cases answer <;> rfl
  | _ => rfl

/-- A run in memory comes to the end of its frames, whatever is rejected. -/
theorem memoryCourse_run (planes failing : Nat) (fresh : p.Fresh true)
    (tables : p.tables = outputTables) (enough : n ≤ patience) (m : Memory) :
    Ends (p.run (Memory.collaborators planes failing).recorded
      (Recorded.watch .polled (Memory.stopAfter none)) patience (some n)) ⟨m, []⟩
      fun result r => ∃ q log, MemoryCourse failing m.rejections p n q log ∧
        result.1 = some (.ok ((framesDrawn n failing).length - m.rejections)) ∧
        memoryLog r.transcript = log ++ if q.pendingFlip.isSome then [.wait] else [] := by
  have answered := (Memory.accounted_run planes failing patience (some n)
    fresh.pool.hasRing m).answered
  have settled := Pipeline.run_settles (Memory.collaborators planes failing).recorded
    (Recorded.watch .polled (Memory.stopAfter none)) enough p ⟨m, []⟩
  obtain ⟨frames, course⟩ := Pipeline.run_course (Memory.collaborators planes failing)
    (Memory.stopAfter none) patience (some n) p ⟨m, []⟩
  unfold Ends at settled ⊢
  generalize p.run (Memory.collaborators planes failing).recorded
    (Recorded.watch .polled (Memory.stopAfter none)) patience (some n) ⟨m, []⟩ = ran at *
  obtain ⟨⟨result, q⟩, r⟩ := ran
  dsimp only at *
  have framed {time : Nat} {q' : Pipeline} {closing : List Exchange}
      (hf : FramesRecord { p with throughput := .begin time } frames q')
      (answered : AnsweredInMemory failing m.rejections
        (frames.flatMap Attempt.asked ++ closing)) :
      MemoryCourse failing m.rejections p frames.length q'
          (memoryLog (frames.flatMap Attempt.asked)) ∧
        framesShown frames = (framesDrawn frames.length failing).length - m.rejections ∧
        ∀ a ∈ frames, ∀ e, a.result = .error e → e.isPerFrame = true := by
    have whole := (memoryCourse_start (k := m.rejections) fresh tables (.begin time)).run fresh hf
      (answeredInMemory_append.mp answered).1
    rw [Nat.zero_add, List.nil_append] at whole
    exact ⟨whole.1, (Nat.add_eq_left.mpr (Nat.zero_sub _)).symm.trans whole.2.1, whole.2.2⟩
  cases course with
  | refused unfenced =>
    cases (MemoryDisplay.fenced_in_memory tables failing).symm.trans unfenced
  | unfinished => exact absurd rfl settled
  | @failed time e _ _ _ _ _ clock looped =>
    obtain ⟨closing, -, added, hf⟩ := looped.record
    rw [added, Pipeline.now_transcript clock, List.nil_append] at answered
    obtain ⟨-, -, going⟩ := framed hf answered
    obtain ⟨a, last, fails, fatal⟩ := looped.fatal
    rw [going a last e fails] at fatal
    cases fatal
  | ended _ clock looped finished =>
    obtain ⟨-, hf, -⟩ := looped.done
    obtain ⟨waiting, hw, added⟩ := looped.finished clock finished
    rw [added, List.nil_append] at answered ⊢
    obtain ⟨course, shown, -⟩ := framed hf answered
    have rest := (answeredInMemory_append.mp answered).2
    obtain rfl := Option.some.inj (unasked_in_memory rest)
    rw [lastAsked, if_pos rfl, List.nil_append] at rest ⊢
    obtain ⟨-, waited, -⟩ := hw.inMemory rest
    refine ⟨_, _, course, by rw [shown], ?_⟩
    rw [memoryLog_append, waited]
  | unwaited _ clock looped finished =>
    obtain ⟨waiting, hw, added⟩ := looped.finished clock finished
    rw [added, List.nil_append, ← List.append_assoc] at answered
    obtain ⟨impossible, -⟩ := hw.inMemory (answeredInMemory_append.mp answered).2
    cases impossible

theorem setUp_in_memory (planes k : Nat) (options : Options) :
    ∃ p before, Pipeline.setUp MemoryDisplay.singleOutput.device
        (MemoryAllocator.plain.withPlanes planes).allocator { options with surfaceless := true }
        (Memory.fresh k) = (.ok p, before) ∧
      p.Fresh true ∧ p.tables = outputTables ∧ before.rejections = k := by
  obtain ⟨⟨p, ready, tables⟩, left⟩ :=
    Memory.readies_setUp planes { options with surfaceless := true } rfl
      (Memory.fresh k)
  obtain ⟨same, -, fresh⟩ := (Pipeline.setsUp_setUp MemoryDisplay.singleOutput.device
    (MemoryAllocator.plain.withPlanes planes).allocator
    { options with surfaceless := true }).fresh (Memory.fresh k)
  exact ⟨p, _, Prod.ext ready rfl, fresh p ((congrArg Prod.fst same).trans ready), tables, left⟩

end Run

/-- A fresh display path with a ring, run in memory where the first `k` submissions are rejected and
drawing the frame numbered `f` fails, shows what is left of its `n` frames without that one and
without those that are rejected. The log of the run accounts for each of them. -/
theorem frames_shown_in_memory (planes n k f extra : Nat) (options : Options) :
    let m := n - if f < n then 1 else 0
    let r := min k m
    ∃ p before q after events,
      Pipeline.setUp MemoryDisplay.singleOutput.device
          (MemoryAllocator.plain.withPlanes planes).allocator { options with surfaceless := true }
          (Memory.fresh k) = (.ok p, before) ∧
      p.run (Memory.collaborators planes f) (Memory.stopAfter none) (n + extra) (some n) before =
        ((some (.ok (m - r)), q), after) ∧
      after.events = before.events ++ events ∧
      -- every frame that is drawn,
      (events.filterMap MemoryEvent.drawnFrame? = framesDrawn n f ∧
        (framesDrawn n f).length = m) ∧
      -- what is rejected before what is shown, with one wait for each of the latter,
      events.filter MemoryEvent.isFlip =
        List.replicate r (.rejected true) ++ commitsWaited (m - r) ∧
      -- the blobs of the modesets, each of which is given up,
      (events.filterMap MemoryEvent.destroyedBlob? = events.filterMap MemoryEvent.createdBlob? ∧
        (events.filterMap MemoryEvent.createdBlob?).length = r + if 0 < m - r then 1 else 0) ∧
      -- and one framebuffer for each slot, of its buffer.
      ((events.filter MemoryEvent.asksFramebuffer).map some = (slotsDrawn n f).map fun slot =>
          (p.pool.buffer? slot).map (·.layout.framebufferEvent)) ∧
      after.added = before.added + (slotsDrawn n f).length := by
  intro m r
  obtain ⟨p, before, ready, fresh, tables, rfl⟩ := setUp_in_memory planes k options
  obtain ⟨same, -⟩ := (Pipeline.records_run (Memory.collaborators planes f)
    (Memory.stopAfter none) (n + extra) (some n) p).fresh before
  have accounted := Memory.accounted_run planes f (n + extra) (some n)
    fresh.pool.hasRing before
  obtain ⟨q, log, course, total, logged⟩ :=
    memoryCourse_run planes f fresh tables (Nat.le_add_right n extra) before
  generalize p.run (Memory.collaborators planes f).recorded
    (Recorded.watch .polled (Memory.stopAfter none)) (n + extra) (some n) ⟨before, []⟩ = ran at *
  obtain ⟨⟨result, q'⟩, s⟩ := ran
  obtain rfl := total
  obtain ⟨drawn, flips, modesets, blobs, framebuffers⟩ := course.finished
  have count : (framesDrawn n f).length = m := length_framesDrawn n f
  have shown : m - before.rejections = m - r := by omega
  have asked := congrArg List.length framebuffers
  rw [List.length_map, List.length_map] at asked
  rw [← logged] at drawn flips modesets blobs framebuffers asked
  rw [count] at flips modesets same
  rw [shown] at same
  rw [asked_in_memory] at asked
  refine ⟨p, before, q', s.world, memoryLog s.transcript, ready, same.symm, accounted.events,
    ⟨drawn, count⟩, ?_, ⟨blobs, ?_⟩, framebuffers, ?_⟩
  · rw [flips, submissionsWaited, shown]
  · rw [modesets]
    split <;> omega
  · rw [accounted.added, asked]

end Scanout
