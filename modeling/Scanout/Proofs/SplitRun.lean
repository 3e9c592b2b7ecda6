import Scanout.Proofs.FramesAlike
import Scanout.Proofs.HistoryCourse
import Scanout.Proofs.SteadyMemory

namespace Scanout

namespace Pipeline

section Loop

variable {σ : Type} [World σ] {c : Collaborators σ} {interrupted : Act σ Bool}

/-- A frame of the present loop, which goes on with `rest`. -/
def loopTurn (c : Collaborators σ) (interrupted : Act σ Bool)
    (rest : Nat → Pipeline → Act σ (LoopEnd × Nat × Pipeline)) (presented : Nat) (p : Pipeline) :
    Act σ (LoopEnd × Nat × Pipeline) := do
  if ← interrupted then
    note .interrupted
    return (.done, presented, p)
  match ← presentFrame c p with
  | (.ok _, p) => rest (presented + 1) p
  | (.error e, p) =>
    if e.isPerFrame then
      note (.frameDropped (p.frame - 1) e)
      rest presented p
    else return (.failed e, presented, p)

theorem loop_spent (k presented : Nat) (p : Pipeline) :
    loop c interrupted k (some 0) presented p = pure (.done, presented, p) := by
  unfold loop
  rfl

theorem loop_turn (n k : Nat) :
    loop c interrupted (k + 1) (some (n + 1)) =
      loopTurn c interrupted (loop c interrupted k (some n)) := by
  funext presented p
  rw [loop]
  rfl

/-- A loop with a budget needs no more patience than that. -/
theorem loop_patience {n k : Nat} (enough : n ≤ k) :
    loop c interrupted k (some n) = loop c interrupted n (some n) := by
  induction n generalizing k with
  | zero =>
    funext presented p
    rw [loop_spent, loop_spent]
  | succ n ih =>
    obtain ⟨k, rfl⟩ : ∃ k', k = k' + 1 := ⟨k - 1, by omega⟩
    rw [loop_turn, loop_turn, ih (by omega)]

omit [World σ] in
/-- Two acts that begin with the same one are compared from where that leads. -/
theorem same_bind {α β : Type} {act : Act σ α} {next next' : α → Act σ β} {r : σ} {x y : β × σ}
    (h : (act >>= next) r = x)
    (hn : ∀ a s, act r = (a, s) → next a s = x → next' a s = y) : (act >>= next') r = y :=
  hn _ _ rfl h

theorem loopTurn_done (going : ∀ s, (interrupted s).1 = false)
    {rest rest' : Nat → Pipeline → Act σ (LoopEnd × Nat × Pipeline)} {presented total : Nat}
    {p q : Pipeline} {r s : σ} {y : (LoopEnd × Nat × Pipeline) × σ}
    (h : loopTurn c interrupted rest presented p r = ((.done, total, q), s))
    (hr : ∀ presented p r, rest presented p r = ((.done, total, q), s) →
      rest' presented p r = y) :
    loopTurn c interrupted rest' presented p r = y := by
  refine same_bind h ?_
  intro stop asked polled h
  obtain rfl : stop = false := by rw [← going r, polled]
  refine same_bind h ?_
  rintro ⟨result, p'⟩ s' _ h
  cases result with
  | ok _ => exact hr _ _ _ h
  | error e =>
    cases he : e.isPerFrame with
    | true =>
      simp only [he, ↓reduceIte] at h ⊢
      exact same_bind h fun _ _ _ h => hr _ _ _ h
    | false =>
      simp only [he, Bool.false_eq_true, ↓reduceIte] at h
      cases h

/-- A loop that is never interrupted goes on, where its budget is used up, like one with the budget
that is left. -/
theorem loop_split (going : ∀ s, (interrupted s).1 = false) {n k presented total : Nat}
    {p q : Pipeline} {r s : σ}
    (h : loop c interrupted k (some n) presented p r = ((.done, total, q), s)) (m patience : Nat) :
    loop c interrupted (n + patience) (some (n + m)) presented p r =
      loop c interrupted patience (some m) total q s := by
  induction n generalizing k presented p r with
  | zero =>
    rw [loop_spent] at h
    obtain ⟨⟨-, rfl, rfl⟩, rfl⟩ := by simpa using h
    rw [Nat.zero_add, Nat.zero_add]
  | succ n ih =>
    cases k with
    | zero =>
      rw [loop] at h
      cases h
    | succ k =>
      rw [loop_turn] at h
      rw [Nat.succ_add, Nat.succ_add, loop_turn]
      exact loopTurn_done going h fun _ _ _ hr => ih hr

/-- A run that ends well has a loop and a last wait. -/
theorem run_ended (k : Nat) (budget : Option Nat) (p : Pipeline) (r : σ) :
    Ends (run c interrupted k budget p) r fun result s =>
      ∀ total q, result = (some (.ok total), q) → p.checkFences c.renderer = .ok () ∧
        ∃ time r₀ q₀ s₀, now r = (time, r₀) ∧
          loop c interrupted k budget 0 { p with throughput := .begin time } r₀ =
            ((.done, total, q₀), s₀) ∧
          finish c.waiter q₀ s₀ = ((.ok (), q), s) := by
  unfold run
  cases hc : p.checkFences c.renderer with
  | error e => exact ends_pure (by simp)
  | ok _ =>
    refine ends_bind fun time r₀ clock => ?_
    refine ends_bind ?_
    rintro ⟨stop, presented, q₀⟩ s₀ looping
    cases stop with
    | unfinished => exact ends_pure (by simp)
    | failed e => exact ends_pure (by simp)
    | done =>
      refine ends_bind ?_
      rintro ⟨result, q'⟩ s' finishing
      cases result with
      | error e => exact ends_pure (by simp)
      | ok _ =>
        refine ends_pure ?_
        rintro _ _ ⟨⟩
        exact ⟨rfl, time, r₀, q₀, s₀, clock, looping, finishing⟩

theorem run_of_ended {k total time : Nat} {budget : Option Nat} {p q q₀ : Pipeline}
    {r r₀ s₀ s : σ} (fenced : p.checkFences c.renderer = .ok ()) (clock : now r = (time, r₀))
    (looping : loop c interrupted k budget 0 { p with throughput := .begin time } r₀ =
      ((.done, total, q₀), s₀)) (finishing : finish c.waiter q₀ s₀ = ((.ok (), q), s)) :
    run c interrupted k budget p r = ((some (.ok total), q), s) := by
  have ends : Ends (run c interrupted k budget p) r
      fun result s' => (result, s') = ((some (.ok total), q), s) := by
    unfold run
    rw [fenced]
    refine ends_bind fun time' r' clock' => ?_
    obtain ⟨rfl, rfl⟩ := Prod.mk.inj (clock.symm.trans clock')
    refine ends_bind fun result s' looped => ?_
    obtain ⟨rfl, rfl⟩ := Prod.mk.inj (looping.symm.trans looped)
    refine ends_bind fun result s' finished => ?_
    obtain ⟨rfl, rfl⟩ := Prod.mk.inj (finishing.symm.trans finished)
    exact ends_pure rfl
  exact ends

end Loop

/-- What two loops have in common that begin with other totals. -/
def LoopsLike (presented presented' : Nat) (a b : LoopEnd × Nat × Pipeline) : Prop :=
  a.1 = b.1 ∧ a.2.1 + presented' = b.2.1 + presented ∧ a.2.2.Like b.2.2

end Pipeline

section Steadily

variable {σ τ : Type} [World σ] {c : Collaborators σ} {interrupted : Act σ Bool} {view : σ → τ}

open Pipeline (Like LoopEnd LoopsLike)

/-- A loop goes alike on two display paths of which one may still have to wait for a flip. -/
theorem Steady.alike_loop (steady : Steady c interrupted view) (k : Nat) (budget : Option Nat)
    (presented presented' : Nat) {p q : Pipeline} (like : p.Like q) :
    Alike view
      (p.loop c.recorded (Recorded.watch .polled interrupted) k budget presented)
      (q.loop c.recorded (Recorded.watch .polled interrupted) k budget presented')
      (LoopsLike presented presented') := by
  have ended (stop : LoopEnd) {p q : Pipeline} (like : p.Like q) (presented presented' : Nat) :
      Alike view (pure (stop, presented, p)) (pure (stop, presented', q))
        (LoopsLike presented presented') :=
    alike_pure ⟨rfl, Nat.add_comm _ _, like⟩
  induction k generalizing budget presented presented' p q with
  | zero =>
    unfold Pipeline.loop
    split
    · exact ended .done like presented presented'
    · exact ended .unfinished like presented presented'
  | succ k ih =>
    unfold Pipeline.loop
    split
    · exact ended .done like presented presented'
    · refine alike_unseen steady.unseen_poll steady.unseen_poll ?_
      rintro _ _ rfl rfl
      refine alike_bind (steady.alike_presentFrame like) ?_
      rintro ⟨result, p'⟩ ⟨_, q'⟩ ⟨rfl, like⟩
      cases result with
      | ok _ =>
        refine (ih (budget.map (· - 1)) (presented + 1) (presented' + 1) like).mono ?_
        rintro a b ⟨stop, total, like⟩
        exact ⟨stop, by omega, like⟩
      | error e =>
        dsimp only
        split
        · obtain ⟨pending, throughput, rfl⟩ := like
          refine alike_unseen (steady.unseen_note _) (steady.unseen_note _) fun _ _ _ _ => ?_
          exact ih (budget.map (· - 1)) presented presented' ⟨_, _, rfl⟩
        · exact ended (.failed e) like presented presented'

theorem Steady.run_split_recorded (steady : Steady c interrupted view) {p p₁ p₂ : Pipeline}
    {n m k k₁ k₂ a b : Nat} {r r₁ r₂ : Recorded σ}
    (first : p.run c.recorded (Recorded.watch .polled interrupted) k₁ (some n) r =
      ((some (.ok a), p₁), r₁))
    (second : p₁.run c.recorded (Recorded.watch .polled interrupted) k₂ (some m) ⟨r₁.world, []⟩ =
      ((some (.ok b), p₂), r₂))
    (enough : n + m ≤ k) :
    ∃ throughput s, p.run c.recorded (Recorded.watch .polled interrupted) k (some (n + m)) r =
        ((some (.ok (a + b)), { p₂ with throughput }), s) ∧
      outline s.transcript = outline r₁.transcript ++ outline r₂.transcript := by
  have going (s : Recorded σ) : (Recorded.watch .polled interrupted s).1 = false :=
    (steady.poll s.world).1
  obtain ⟨fenced, time, s₀, q₁, s₁, clock, looping, finishing⟩ :=
    (Pipeline.run_ended k₁ (some n) p r).of_eq first a p₁ rfl
  obtain ⟨-, time', s₂, q₂, s₃, clock', looping', finishing'⟩ :=
    (Pipeline.run_ended k₂ (some m) p₁ _).of_eq second b p₂ rfl
  -- The loop of the one run comes to where the first loop ended, and has the second one's budget.
  have joined := Pipeline.loop_split going looping m m
  have later := Pipeline.loop_split going looping' 0 0
  rw [Nat.add_zero, Pipeline.loop_spent] at later
  obtain ⟨left, viewed, quiet⟩ := (steady.unseen_finish q₁).of_eq finishing
  obtain ⟨-, rfl⟩ := Prod.mk.inj left
  obtain ⟨-, viewedClock, quietClock⟩ := steady.unseen_now.of_eq clock'
  obtain ⟨left', -, quiet'⟩ := (steady.unseen_finish q₂).of_eq finishing'
  obtain ⟨-, rfl⟩ := Prod.mk.inj left'
  -- From there on both see the same, with the flip pending that the first run waited for.
  obtain ⟨⟨stop, total, q⟩, s, looped, ⟨done, sum, like⟩, -, seen, added, added'⟩ :=
    (steady.alike_loop m (some m) a 0 (p := q₁) ⟨_, _, rfl⟩).of_eq
      (viewed.symm.trans viewedClock.symm) later
  obtain rfl : stop = .done := done
  obtain rfl : total = a + b := sum.trans (Nat.add_comm b a)
  obtain ⟨pending, throughput, rfl⟩ := like
  obtain ⟨⟨result, q'⟩, s', finished⟩ : ∃ ended s', q.finish c.waiter.recorded s = (ended, s') :=
    ⟨_, _, rfl⟩
  obtain ⟨left'', -, quiet''⟩ := (steady.unseen_finish q).of_eq finished
  obtain ⟨rfl, rfl⟩ := Prod.mk.inj left''
  refine ⟨q.throughput, s', Pipeline.run_of_ended fenced clock ?_ finished, ?_⟩
  · rw [Pipeline.loop_patience enough]
    exact joined.trans looped
  · rw [quiet'', added, quiet, quiet', added', quietClock]
    rfl

end Steadily

/-- Collaborators that never interrupt, whose waits succeed and that otherwise go by what is seen of
their world, see no difference between a run and two in a row: a run of as many frames gives the sum
of what the two give, draws, makes and submits the same but for the numbers of fences, and leaves
the same display path but for what was measured. -/
theorem run_split {σ τ : Type} [World σ] (device : Device σ) (allocator : Allocator σ)
    (renderer : Renderer σ) (waiter : Waiter σ) (interrupted : Act σ Bool) (view : σ → τ)
    (steady : Steady ⟨device, allocator, renderer, waiter⟩ interrupted view)
    (p p₁ p₂ : Pipeline) (world : σ) {n m k k₁ k₂ a b : Nat} {r₁ r₂ : Recorded σ}
    (first : recordCall device allocator p (.run renderer waiter interrupted k₁ (some n)) world =
      ((.ran (some (.ok a)), p₁), r₁))
    (second : recordCall device allocator p₁ (.run renderer waiter interrupted k₂ (some m))
      r₁.world = ((.ran (some (.ok b)), p₂), r₂))
    (enough : n + m ≤ k) :
    ∃ throughput r,
      recordCall device allocator p (.run renderer waiter interrupted k (some (n + m))) world =
        ((.ran (some (.ok (a + b))), { p₂ with throughput }), r) ∧
      outline r.transcript = outline r₁.transcript ++ outline r₂.transcript := by
  obtain ⟨throughput, r, ran, same⟩ := steady.run_split_recorded (recordCall_run_iff.mp first)
    (recordCall_run_iff.mp second) enough
  exact ⟨throughput, r, recordCall_run_iff.mpr ran, same⟩

namespace Memory

/-- A device in memory that rejects its first commit, before any frame. -/
def rejecting : Except DisplayError Pipeline × Recorded Memory :=
  recordLife MemoryDisplay.singleOutput.device MemoryAllocator.plain.allocator
    ⟨none, 0, .xrgb8888, .linear, true⟩ [] (fresh 1)

/-- A run of that many frames, of which the third cannot be drawn. -/
def runFrames (count : Nat) : Request Memory :=
  .run (MemoryRenderer.failingAt .plain 2).renderer waiter (stopAfter none) count (some count)

end Memory

/-- Two runs in memory of two frames, each of which drops its first one, and the run of four. -/
theorem run_split_in_memory :
    ∃ p p₁ p₂ r₁ r₂, Memory.rejecting.1 = .ok p ∧
      Memory.call p (Memory.runFrames 2) Memory.rejecting.2.world =
        ((.ran (some (.ok 1)), p₁), r₁) ∧
      Memory.call p₁ (Memory.runFrames 2) r₁.world = ((.ran (some (.ok 1)), p₂), r₂) ∧
      p₂.frame = 4 ∧
      ∃ throughput r, Memory.call p (Memory.runFrames 4) Memory.rejecting.2.world =
          ((.ran (some (.ok 2)), { p₂ with throughput }), r) ∧
        outline r.transcript = outline r₁.transcript ++ outline r₂.transcript := by
  have runs : (Memory.rejecting.1.toOption.map fun p =>
      let ((reply, p₁), r₁) := Memory.call p (Memory.runFrames 2) Memory.rejecting.2.world
      let ((reply', p₂), _) := Memory.call p₁ (Memory.runFrames 2) r₁.world
      (reply.total?, reply'.total?, p₂.frame)) = some (some 1, some 1, 4) := by
    decide +kernel
  obtain ⟨p, ready, facts⟩ := Option.map_eq_some_iff.mp runs
  generalize first : Memory.call p (Memory.runFrames 2) Memory.rejecting.2.world = called at facts
  obtain ⟨⟨reply, p₁⟩, r₁⟩ := called
  dsimp only at facts
  generalize second : Memory.call p₁ (Memory.runFrames 2) r₁.world = called at facts
  obtain ⟨⟨reply', p₂⟩, r₂⟩ := called
  obtain ⟨total, total', frame⟩ := by simpa using facts
  obtain rfl := Reply.total?_eq_some total
  obtain rfl := Reply.total?_eq_some total'
  have steady := Memory.steady .singleOutput .plain (.failingAt .plain 2)
  have joined := run_split _ _ _ _ _ _ steady p p₁ p₂ _ first second (Nat.le_refl 4)
  exact ⟨p, p₁, p₂, r₁, r₂, ok_of_toOption ready, first, second, frame, joined⟩

end Scanout
