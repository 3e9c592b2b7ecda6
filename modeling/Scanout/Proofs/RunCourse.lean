import Scanout.Proofs.RunRecord

namespace Scanout

variable {σ α β : Type}

open Recorded (watch)

/-- That `Q` holds of what `act` gives in a world, and of the world it leaves. -/
def Ends (act : Act σ α) (world : σ) (Q : α → σ → Prop) : Prop :=
  Q (act world).1 (act world).2

theorem Ends.of_eq {act : Act σ α} {world after : σ} {Q : α → σ → Prop} {a : α}
    (h : Ends act world Q) (he : act world = (a, after)) : Q a after := by
  unfold Ends at h
  rwa [he] at h

theorem ends_pure {a : α} {world : σ} {Q : α → σ → Prop} (h : Q a world) :
    Ends (pure a) world Q :=
  h

theorem ends_bind {act : Act σ α} {next : α → Act σ β} {world : σ} {Q : β → σ → Prop}
    (hn : ∀ a after, act world = (a, after) → Ends (next a) after Q) :
    Ends (act >>= next) world Q :=
  hn _ _ rfl

/-- A frame that was tried: what came of it, and the calls it took. -/
structure Attempt where
  result : Except DisplayError Unit
  events : List Exchange

/-- The calls of a frame of the present loop, with the question before it. -/
def Attempt.asked (a : Attempt) : List Exchange :=
  .polled false :: a.events

/-- How many of some frames were shown. -/
def framesShown (frames : List Attempt) : Nat :=
  frames.countP (·.result.isOk)

@[simp] theorem framesShown_nil : framesShown [] = 0 := rfl

@[simp] theorem framesShown_shown (events : List Exchange) (later : List Attempt) :
    framesShown (⟨.ok (), events⟩ :: later) = framesShown later + 1 :=
  List.countP_cons_of_pos rfl

@[simp] theorem framesShown_unshown (e : DisplayError) (events : List Exchange)
    (later : List Attempt) : framesShown (⟨.error e, events⟩ :: later) = framesShown later :=
  List.countP_cons_of_neg Bool.false_ne_true

variable [World σ]

namespace Pipeline

/-- An actual frame of the present loop, which was told to go on before. -/
inductive Turn (c : Collaborators σ) (interrupted : Act σ Bool) (p : Pipeline) (r : Recorded σ) :
    Attempt → Pipeline → Recorded σ → Prop
  | intro {q : Pipeline} {asked s : Recorded σ} {result : Except DisplayError Unit}
      {events : List Exchange} : watch .polled interrupted r = (false, asked) →
      presentFrame c.recorded p asked = ((result, q), s) →
      s.transcript = asked.transcript ++ events →
      Turn c interrupted p r ⟨result, events⟩ q s

/-- The frames after which the present loop went on: shown, or dropped with a note. -/
inductive Turns (c : Collaborators σ) (interrupted : Act σ Bool) :
    Pipeline → Recorded σ → List Attempt → Pipeline → Recorded σ → Prop
  | none {p : Pipeline} {r : Recorded σ} : Turns c interrupted p r [] p r
  | shown {p q p' : Pipeline} {r s r' : Recorded σ} {events : List Exchange}
      {later : List Attempt} : Turn c interrupted p r ⟨.ok (), events⟩ q s →
      Turns c interrupted q s later p' r' →
      Turns c interrupted p r (⟨.ok (), events⟩ :: later) p' r'
  | dropped {p q p' : Pipeline} {r s r' : Recorded σ} {e : DisplayError}
      {events : List Exchange} {later : List Attempt} :
      Turn c interrupted p r ⟨.error e, events⟩ q s → e.isPerFrame = true →
      Turns c interrupted q (note (.frameDropped (q.frame - 1) e) s).2 later p' r' →
      Turns c interrupted p r (⟨.error e, events⟩ :: later) p' r'

/-- The present loop without the limit on its length: its frames, and how it ends. -/
inductive LoopCourse (c : Collaborators σ) (interrupted : Act σ Bool) (budget : Option Nat)
    (p : Pipeline) (r : Recorded σ) : LoopEnd → List Attempt → Pipeline → Recorded σ → Prop
  | spent {frames : List Attempt} {q : Pipeline} {s : Recorded σ} :
      Turns c interrupted p r frames q s → budget = some frames.length →
      LoopCourse c interrupted budget p r .done frames q s
  | interrupted {frames : List Attempt} {q : Pipeline} {s s' : Recorded σ} :
      Turns c interrupted p r frames q s → (∀ b ∈ budget, frames.length < b) →
      watch .polled interrupted s = (true, s') →
      LoopCourse c interrupted budget p r .done frames q (note .interrupted s').2
  | failed {frames : List Attempt} {q q' : Pipeline} {s s' : Recorded σ} {e : DisplayError}
      {events : List Exchange} : Turns c interrupted p r frames q s →
      (∀ b ∈ budget, frames.length < b) → Turn c interrupted q s ⟨.error e, events⟩ q' s' →
      e.isPerFrame = false →
      LoopCourse c interrupted budget p r (.failed e) (frames ++ [⟨.error e, events⟩]) q' s'
  | unfinished {frames : List Attempt} {q : Pipeline} {s : Recorded σ} :
      Turns c interrupted p r frames q s → (∀ b ∈ budget, frames.length < b) →
      LoopCourse c interrupted budget p r .unfinished frames q s

/-- A run: refused, or the loop with its measuring begun anew, and the last wait unless the loop
failed or was left off. -/
inductive RunCourse (c : Collaborators σ) (interrupted : Act σ Bool) (budget : Option Nat)
    (p : Pipeline) (r : Recorded σ) :
    Option (Except DisplayError Nat) → List Attempt → Pipeline → Recorded σ → Prop
  | refused {e : DisplayError} : p.checkFences c.renderer = .error e →
      RunCourse c interrupted budget p r (some (.error e)) [] p r
  | unfinished {time : Nat} {frames : List Attempt} {q : Pipeline} {s s' : Recorded σ} :
      p.checkFences c.renderer = .ok () → now r = (time, s) →
      LoopCourse c interrupted budget { p with throughput := .begin time } s .unfinished frames
        q s' →
      RunCourse c interrupted budget p r none frames q s'
  | failed {time : Nat} {e : DisplayError} {frames : List Attempt} {q : Pipeline}
      {s s' : Recorded σ} : p.checkFences c.renderer = .ok () → now r = (time, s) →
      LoopCourse c interrupted budget { p with throughput := .begin time } s (.failed e) frames
        q s' →
      RunCourse c interrupted budget p r (some (.error e)) frames q s'
  | ended {time : Nat} {frames : List Attempt} {q q' : Pipeline} {s s' s'' : Recorded σ} :
      p.checkFences c.renderer = .ok () → now r = (time, s) →
      LoopCourse c interrupted budget { p with throughput := .begin time } s .done frames q s' →
      finish c.waiter.recorded q s' = ((.ok (), q'), s'') →
      RunCourse c interrupted budget p r (some (.ok (framesShown frames))) frames q' s''
  | unwaited {time : Nat} {e : DisplayError} {frames : List Attempt} {q q' : Pipeline}
      {s s' s'' : Recorded σ} : p.checkFences c.renderer = .ok () → now r = (time, s) →
      LoopCourse c interrupted budget { p with throughput := .begin time } s .done frames q s' →
      finish c.waiter.recorded q s' = ((.error e, q'), s'') →
      RunCourse c interrupted budget p r (some (.error e)) frames q' s''

variable {c : Collaborators σ} {interrupted : Act σ Bool} {budget : Option Nat} {p q p' : Pipeline}
  {r s r' : Recorded σ}

omit [World σ] in
theorem watch_polled {stop : Bool} (h : watch .polled interrupted r = (stop, s)) :
    s.transcript = r.transcript ++ [.polled stop] := by
  obtain rfl : (interrupted r.world).1 = stop := congrArg Prod.fst h
  exact congrArg (·.2.transcript) h.symm

theorem note_transcript (n : Note) (r : Recorded σ) : (note n r).2.transcript = r.transcript :=
  rfl

theorem now_transcript {time : Nat} (clock : now r = (time, s)) : s.transcript = r.transcript :=
  congrArg (·.2.transcript) clock.symm

theorem Turn.record {a : Attempt} (h : Turn c interrupted p r a q s) :
    s.transcript = r.transcript ++ .polled false :: a.events ∧
      p.FrameRecord (a.result, q) a.events := by
  cases h with
  | @intro _ asked _ result events polled presented added =>
    obtain ⟨seen, hs, hf⟩ := (records_presentFrame c p).ended presented
    obtain rfl : seen = events := List.append_cancel_left (hs.symm.trans added)
    refine ⟨?_, hf⟩
    rw [added, watch_polled polled, List.append_assoc]
    rfl

/-- Frames tried one after the other, nothing being done in between. -/
inductive FramesRecord : Pipeline → List Attempt → Pipeline → Prop
  | none {p : Pipeline} : FramesRecord p [] p
  | more {p q p' : Pipeline} {a : Attempt} {later : List Attempt} :
      p.FrameRecord (a.result, q) a.events → FramesRecord q later p' →
      FramesRecord p (a :: later) p'

/-- The frames after which the loop went on follow each other, and none of them failed for good. -/
theorem Turns.record {frames : List Attempt} (h : Turns c interrupted p r frames q s) :
    s.transcript = r.transcript ++ frames.flatMap Attempt.asked ∧ FramesRecord p frames q ∧
      ∀ a ∈ frames, ∀ e, a.result = .error e → e.isPerFrame = true := by
  induction h with
  | none => exact ⟨by simp, .none, by simp⟩
  | shown turn _ ih =>
    obtain ⟨added, hf⟩ := turn.record
    obtain ⟨addedLater, hl, going⟩ := ih
    refine ⟨?_, .more hf hl, List.forall_mem_cons.mpr ⟨by simp, going⟩⟩
    rw [addedLater, added, List.append_assoc]
    rfl
  | @dropped _ q _ _ s _ e _ _ turn he _ ih =>
    obtain ⟨added, hf⟩ := turn.record
    obtain ⟨addedLater, hl, going⟩ := ih
    refine ⟨?_, .more hf hl, List.forall_mem_cons.mpr ⟨?_, going⟩⟩
    · rw [addedLater, note_transcript, added, List.append_assoc]
      rfl
    · rintro _ ⟨⟩
      exact he

theorem FramesRecord.concat {frames : List Attempt} {a : Attempt} (h : FramesRecord p frames q)
    (last : q.FrameRecord (a.result, p') a.events) : FramesRecord p (frames ++ [a]) p' := by
  induction h with
  | none => exact .more last .none
  | more first _ ih => exact .more first (ih last)

theorem LoopCourse.record {stop : LoopEnd} {frames : List Attempt}
    (h : LoopCourse c interrupted budget p r stop frames q s) :
    ∃ closing, (closing = [] ∨ closing = [.polled true]) ∧
      s.transcript = r.transcript ++ (frames.flatMap Attempt.asked ++ closing) ∧
      FramesRecord p frames q := by
  cases h with
  | spent turns =>
    obtain ⟨added, hl, -⟩ := turns.record
    exact ⟨[], .inl rfl, by rw [added, List.append_nil], hl⟩
  | @interrupted _ _ asked s' turns _ polled =>
    obtain ⟨added, hl, -⟩ := turns.record
    exact ⟨[.polled true], .inr rfl,
      by rw [note_transcript, watch_polled polled, added, List.append_assoc], hl⟩
  | failed turns _ last =>
    obtain ⟨added, hl, -⟩ := turns.record
    obtain ⟨addedLast, hf⟩ := last.record
    refine ⟨[], .inl rfl, ?_, hl.concat hf⟩
    rw [addedLast, added, List.flatMap_append, List.append_assoc, List.append_nil]
    simp [Attempt.asked]
  | unfinished turns =>
    obtain ⟨added, hl, -⟩ := turns.record
    exact ⟨[], .inl rfl, by rw [added, List.append_nil], hl⟩

theorem turn_of_polled (polled : watch .polled interrupted r = (false, s)) :
    ∃ events, Turn c interrupted p r ⟨(presentFrame c.recorded p s).1.1, events⟩
      (presentFrame c.recorded p s).1.2 (presentFrame c.recorded p s).2 := by
  obtain ⟨events, added, -⟩ := (records_presentFrame c p).ended (r := s) rfl
  exact ⟨events, .intro polled rfl added⟩

theorem budget_spent {n : Nat} (left : budget ≠ some 0) (h : budget.map (· - 1) = some n) :
    budget = some (n + 1) := by
  obtain ⟨b, rfl, rfl⟩ := Option.map_eq_some_iff.mp h
  have positive : b ≠ 0 := fun hb => left (congrArg some hb)
  congr 1
  omega

theorem budget_left {n : Nat} (h : ∀ b ∈ budget.map (· - 1), n < b) :
    ∀ b ∈ budget, n + 1 < b := by
  intro b hb
  have rest : n < b - 1 := h _ (Option.mem_map_of_mem (· - 1) hb)
  omega

theorem budget_unspent (left : budget ≠ some 0) : ∀ b ∈ budget, ([] : List Attempt).length < b := by
  rintro b rfl
  exact Nat.pos_of_ne_zero fun hb => left (congrArg some hb)

/-- The course of a loop that goes on after its first frame. -/
theorem LoopCourse.cons {stop : LoopEnd} {a : Attempt} {frames : List Attempt}
    (left : budget ≠ some 0)
    (first : ∀ {later p' r'}, Turns c interrupted q s later p' r' →
      Turns c interrupted p r (a :: later) p' r')
    (h : LoopCourse c interrupted (budget.map (· - 1)) q s stop frames p' r') :
    LoopCourse c interrupted budget p r stop (a :: frames) p' r' := by
  cases h with
  | spent turns spent => exact .spent (first turns) (budget_spent left spent)
  | interrupted turns more polled => exact .interrupted (first turns) (budget_left more) polled
  | failed turns more last fatal => exact .failed (first turns) (budget_left more) last fatal
  | unfinished turns more => exact .unfinished (first turns) (budget_left more)

variable (c interrupted)

/-- The loop takes a course as it should, and counts the frames that are shown. -/
theorem loop_course (patience : Nat) (budget : Option Nat) (presented : Nat) (p : Pipeline)
    (r : Recorded σ) :
    Ends (loop c.recorded (watch .polled interrupted) patience budget presented p) r
      fun result s => ∃ frames, LoopCourse c interrupted budget p r result.1 frames result.2.2 s ∧
        result.2.1 = presented + framesShown frames := by
  -- The budget that is left goes down with the patience, and so is general in the induction.
  induction patience generalizing budget presented p r with
  | zero =>
    unfold loop
    by_cases hb : budget = some 0
    · subst budget
      exact ends_pure ⟨[], .spent .none rfl, rfl⟩
    · simp only [hb, ↓reduceIte]
      exact ends_pure ⟨[], .unfinished .none (budget_unspent hb), rfl⟩
  | succ patience ih =>
    unfold loop
    by_cases hb : budget = some 0
    · subst budget
      exact ends_pure ⟨[], .spent .none rfl, rfl⟩
    · simp only [hb, ↓reduceIte]
      refine ends_bind ?_
      intro stop asked polled
      cases stop with
      | true => exact ⟨[], .interrupted .none (budget_unspent hb) polled, rfl⟩
      | false =>
        obtain ⟨events, turn⟩ := turn_of_polled (c := c) (p := p) polled
        refine ends_bind ?_
        rintro ⟨result, q⟩ s presenting
        rw [presenting] at turn
        cases result with
        | ok _ =>
          obtain ⟨frames, course, counted⟩ := ih (budget.map (· - 1)) (presented + 1) q s
          refine ⟨⟨.ok (), events⟩ :: frames, course.cons hb (.shown turn), ?_⟩
          rw [framesShown_shown]
          exact counted.trans (Nat.add_right_comm _ _ _)
        | error e =>
          cases he : e.isPerFrame with
          | true =>
            simp only [he, ↓reduceIte]
            refine ends_bind ?_
            intro _ s' noted
            obtain ⟨frames, course, counted⟩ := ih (budget.map (· - 1)) presented q s'
            obtain rfl : (note (.frameDropped (q.frame - 1) e) s).2 = s' := congrArg Prod.snd noted
            refine ⟨⟨.error e, events⟩ :: frames, course.cons hb (.dropped turn he), ?_⟩
            rw [framesShown_unshown]
            exact counted
          | false =>
            simp only [he, Bool.false_eq_true, ↓reduceIte]
            exact ends_pure ⟨[⟨.error e, events⟩], .failed .none (budget_unspent hb) turn he, rfl⟩

theorem run_course (patience : Nat) (budget : Option Nat) (p : Pipeline) (r : Recorded σ) :
    Ends (run c.recorded (watch .polled interrupted) patience budget p) r fun result s =>
      ∃ frames, RunCourse c interrupted budget p r result.1 frames result.2 s := by
  have same : p.checkFences c.recorded.renderer = p.checkFences c.renderer := rfl
  unfold run
  rw [same]
  cases hc : p.checkFences c.renderer with
  | error e => exact ends_pure ⟨[], .refused hc⟩
  | ok _ =>
    refine ends_bind ?_
    intro time s clock
    refine ends_bind ?_
    rintro ⟨stop, presented, q⟩ s' looping
    obtain ⟨frames, course, counted⟩ :=
      (loop_course c interrupted patience budget 0 { p with throughput := .begin time } s).of_eq
        looping
    cases stop with
    | unfinished => exact ends_pure ⟨frames, .unfinished hc clock course⟩
    | failed e => exact ends_pure ⟨frames, .failed hc clock course⟩
    | done =>
      obtain rfl : presented = framesShown frames := by simpa using counted
      refine ends_bind ?_
      rintro ⟨result, q'⟩ s'' finishing
      cases result with
      | ok _ => exact ends_pure ⟨frames, .ended hc clock course finishing⟩
      | error e => exact ends_pure ⟨frames, .unwaited hc clock course finishing⟩

end Pipeline

end Scanout
