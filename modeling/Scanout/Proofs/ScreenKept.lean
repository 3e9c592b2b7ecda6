import Scanout.Proofs.Ending
import Scanout.Proofs.SurfaceCustody

namespace Scanout

open Custody (held_balance held_beside held_idle held_skip held_skipAll held_split
  held_trans held_untaken idle_of_mark idle_of_setUp)

/-- What comes before the next call or poll, that is what is left of a frame. -/
def frameRest (after : List Exchange) : List Exchange :=
  after.takeWhile fun e => !e.isMark

theorem beginsFrame_isMark {e : Exchange} (h : e.beginsFrame = true) : e.isMark = true := by
  cases e <;> simp_all [Exchange.beginsFrame, Exchange.isMark]

theorem Pipeline.FinishRecord.unmarked {p : Pipeline}
    {result : Except DisplayError Unit × Pipeline} {added : List Exchange}
    (h : p.FinishRecord result added) : ∀ e ∈ added, e.isMark = false := by
  cases h <;> simp [Exchange.isMark]

theorem StepRecord.frame_at {p q : Pipeline} {before after : List Exchange} {mark : Exchange}
    (hb : mark.beginsFrame = true) (h : StepRecord p (before ++ mark :: after) q) :
    before = [] ∧ ∃ result, p.FrameRecord (result, q) after := by
  generalize ha : before ++ mark :: after = added at h
  have mem : mark ∈ added := by simp [← ha]
  have marked := beginsFrame_isMark hb
  cases h with
  | marked _ unbegun =>
    obtain rfl := List.mem_singleton.mp mem
    simp [hb] at unbegun
  | @frame _ _ result shown _ _ hf =>
    have inside : mark ∉ shown := fun hm => by simp [hf.unmarked mark hm] at marked
    obtain ⟨rfl, -, rfl⟩ := split_head ha.symm inside
    exact ⟨rfl, result, hf⟩
  | finish hw => simp [hw.unmarked mark mem] at marked
  | timed => simp at mem

/-- A frame takes up what follows its mark, as far as it goes. -/
theorem Steps.frame_at {p₀ p' : Pipeline} {events before after : List Exchange} {mark : Exchange}
    (h : Steps p₀ events p') (hs : events = before ++ mark :: after)
    (hb : mark.beginsFrame = true) :
    ∃ p q result added rest, Steps p₀ before p ∧ p.FrameRecord (result, q) added ∧
      Steps q rest p' ∧ after = added ++ rest := by
  induction h generalizing before with
  | none => simp at hs
  | @more p₀ mid _ first _ step hl ih =>
    rcases split_cases hs with ⟨past, rfl, hr⟩ | ⟨rest, rfl, rfl⟩
    · obtain ⟨p, q, result, added, rest, began, hf, ended, ha⟩ := ih hr
      exact ⟨p, q, result, added, rest, .more step began, hf, ended, ha⟩
    · obtain ⟨rfl, result, hf⟩ := step.frame_at hb
      exact ⟨p₀, mid, result, rest, _, .none, hf, hl, rfl⟩

/-- Between the end of a frame and the next call or poll, the display path at most waits for a
flip. -/
theorem Steps.frameRest_quiet {p q : Pipeline} {added : List Exchange} (h : Steps p added q) :
    ∀ e ∈ frameRest added, lockedBuffers.Idle e := by
  induction h with
  | none => simp [frameRest]
  | more step _ ih =>
    cases step with
    | marked hm => simp [frameRest, hm]
    | frame hm => simp [frameRest, hm]
    | finish hw =>
      have unmarked := hw.unmarked
      have quiet := hw.locks_idle
      unfold frameRest at ih ⊢
      rw [List.takeWhile_append_of_pos (by simpa using unmarked)]
      grind
    | timed => exact ih

namespace Pipeline

variable {onScreen : Option Buffer} {q : Pipeline} {result : Except DisplayError Unit}
  {added sofar later : List Exchange}

theorem ScreenRecord.held (h : ScreenRecord onScreen (result, q) added) :
    lockedBuffers.held onScreen.toList added = some q.onScreen.toList := by
  cases h with
  | refused _ same held =>
    rw [same]
    simpa using held_beside onScreen.toList held
  | shown _ _ shows _ held _ exchanged =>
    rw [shows]
    exact held_trans (held_beside onScreen.toList held) (held_skip ⟨rfl, rfl⟩ exchanged)

theorem ScreenRecord.unshown (h : ScreenRecord onScreen (result, q) added)
    (none : accepted added = []) :
    q.onScreen = onScreen ∧ lockedBuffers.held [] added = some [] := by
  cases h with
  | refused _ same held => exact ⟨same, held⟩
  | shown => simp [Exchange.accepted?] at none

/-- Until it is shown, a frame gives back only what it took. -/
theorem ScreenRecord.own (h : ScreenRecord onScreen (result, q) (sofar ++ later))
    (none : accepted sofar = []) : ∃ own, lockedBuffers.held [] sofar = some own := by
  generalize ha : sofar ++ later = added at h
  cases h with
  | refused _ _ held =>
    rw [← ha] at held
    obtain ⟨own, first, -⟩ := held_split held
    exact ⟨own, first⟩
  | @shown _ buffer txn outFence drawing last _ _ _ _ held =>
    rcases split_cases ha with ⟨rest, rfl, -⟩ | ⟨rest, rfl, -⟩
    · obtain ⟨own, first, -⟩ := held_split held
      exact ⟨own, first⟩
    · simp [Exchange.accepted?] at none

/-- Where a frame is shown, it has taken one buffer out of the surface, which is then on screen. -/
theorem ScreenRecord.at_accepted {txn : Transaction} {outFence : Option Fence}
    (h : ScreenRecord onScreen (result, q) (sofar ++ .submitted txn (.ok outFence) :: later)) :
    ∃ buffer, q.onScreen = some buffer ∧ lockedBuffers.takenIn sofar = [buffer] ∧
      lockedBuffers.held [] sofar = some [buffer] ∧ lockedBuffers.takenIn later = [] ∧
      lockedBuffers.held (buffer :: onScreen.toList) later = some [buffer] := by
  generalize ha : sofar ++ .submitted txn (.ok outFence) :: later = added at h
  cases h with
  | refused none =>
    rw [← ha] at none
    simp [Exchange.accepted?] at none
  | @shown _ buffer _ _ drawing last noneBefore noneAfter shows taken held untaken exchanged =>
    -- Of the commits of a frame one is accepted, so that the two splits are the same.
    rcases split_cases ha with ⟨rest, rfl, hr⟩ | ⟨rest, -, rfl⟩
    · cases rest with
      | nil =>
        obtain ⟨-, rfl⟩ := List.cons.inj hr
        rw [List.append_nil] at taken held
        exact ⟨buffer, shows, taken, held, untaken, exchanged⟩
      | cons x rest =>
        obtain ⟨rfl, -⟩ := List.cons.inj hr
        simp [Exchange.accepted?] at noneBefore
    · simp [Exchange.accepted?] at noneAfter

/-- That of the buffers of the surface the one on screen is kept, and no other. -/
structure KeepsScreen (p q : Pipeline) (added : List Exchange) : Prop where
  held : lockedBuffers.held p.onScreen.toList added = some q.onScreen.toList
  unshown : accepted added = [] → q.onScreen = p.onScreen
  /-- Until a frame is shown, only what is taken is given back. -/
  own : ∀ sofar later, added = sofar ++ later → accepted sofar = [] →
    ∃ own, lockedBuffers.held [] sofar = some own

theorem KeepsScreen.trans {p q p' : Pipeline} {added later : List Exchange}
    (h : p.KeepsScreen q added) (hl : q.KeepsScreen p' later) :
    p.KeepsScreen p' (added ++ later) := by
  refine ⟨held_trans h.held hl.held, ?_, ?_⟩
  · intro none
    obtain ⟨first, second⟩ := List.append_eq_nil_iff.mp (accepted_append added later ▸ none)
    exact (hl.unshown second).trans (h.unshown first)
  · intro sofar rest hs none
    -- The stretch ends in the second part or in the first.
    rcases List.append_eq_append_iff.mp hs with ⟨more, rfl, hm⟩ | ⟨more, ha, -⟩
    · obtain ⟨first, second⟩ := List.append_eq_nil_iff.mp (accepted_append added more ▸ none)
      obtain ⟨own, ho⟩ := h.own added [] (by simp) first
      obtain ⟨next, hn⟩ := hl.own more rest hm second
      exact ⟨next ++ own, held_trans ho (by simpa using held_beside own hn)⟩
    · exact h.own sofar more ha none

theorem keepsScreen_idle {p q : Pipeline} {added : List Exchange} (same : q.onScreen = p.onScreen)
    (quiet : ∀ e ∈ added, lockedBuffers.Idle e) : p.KeepsScreen q added := by
  refine ⟨by rw [same]; exact held_idle quiet, fun _ => same, ?_⟩
  rintro sofar later rfl -
  exact ⟨[], held_idle fun e he => quiet e (List.mem_append_left later he)⟩

theorem ScreenRecord.keepsScreen {p : Pipeline}
    (h : ScreenRecord p.onScreen (result, q) added) : p.KeepsScreen q added := by
  refine ⟨h.held, fun none => (h.unshown none).1, ?_⟩
  rintro sofar later rfl none
  exact h.own none

end Pipeline

theorem StepRecord.keepsScreen {p q : Pipeline} {surface : Surface} {added : List Exchange}
    (hs : p.pool.surface = some surface) (h : StepRecord p added q) : p.KeepsScreen q added := by
  cases h with
  | marked hm _ => exact Pipeline.keepsScreen_idle rfl (by simpa using (idle_of_mark hm).2.1)
  | @frame _ mark result shown hm _ hf =>
    have called : p.KeepsScreen p [mark] :=
      Pipeline.keepsScreen_idle rfl (by simpa using (idle_of_mark hm).2.1)
    exact called.trans (hf.screen hs).keepsScreen
  | finish hw =>
    have same := congrArg Pipeline.onScreen hw.leaves
    exact Pipeline.keepsScreen_idle same hw.locks_idle
  | timed => exact Pipeline.keepsScreen_idle rfl (by simp)

theorem Steps.keepsScreen {p q : Pipeline} {surface : Surface} {added : List Exchange}
    (hs : p.pool.surface = some surface) (h : Steps p added q) : p.KeepsScreen q added := by
  induction h with
  | none => exact Pipeline.keepsScreen_idle rfl (by simp)
  | more step _ ih =>
    have same := surface_compositional.step step
    exact (step.keepsScreen hs).trans (ih (same.trans hs))

/-- Once a frame is shown, the buffer it took out of the surface is kept until another is. -/
theorem Steps.keeps_shown {p₀ p' : Pipeline} {surface : Surface}
    {before mid after : List Exchange} {txn : Transaction} {outFence : Option Fence}
    (hs : p₀.pool.surface = some surface)
    (h : Steps p₀ (before ++ .submitted txn (.ok outFence) :: (mid ++ after)) p')
    (none : accepted mid = []) (earlier : List Exchange) :
    ∃ buffer kept, lockedBuffers.takenIn (frameSoFar (earlier ++ before)) = [buffer] ∧
      lockedBuffers.held p₀.onScreen.toList (before ++ .submitted txn (.ok outFence) :: mid) =
        some kept ∧ buffer ∈ kept := by
  have hm := h.midFrame rfl rfl
  generalize he : Exchange.submitted txn (.ok outFence) = e at hm
  generalize ha : mid ++ after = rest at hm
  cases hm with
  | @intro start stop result past sofar later rest mark _ began hm _ hf ended =>
    subst he
    have same := surface_compositional.steps began
    have sameOn := surface_compositional.frame hf
    obtain ⟨buffer, shows, taken, held, untaken, exchanged⟩ :=
      (hf.screen (same.trans hs)).at_accepted
    have drawn : lockedBuffers.held p₀.onScreen.toList
        (past ++ mark :: sofar) = some (buffer :: start.onScreen.toList) :=
      held_trans (began.keepsScreen hs).held (held_skip (idle_of_mark hm).2.1
        (held_beside start.onScreen.toList held))
    have only : lockedBuffers.takenIn (frameSoFar (earlier ++ (past ++ mark :: sofar))) =
        [buffer] := by
      rw [← List.append_assoc, frameSoFar_mark hm hf.unmarked_before]
      exact taken
    -- The stretch ends in the frame that is shown, or goes on after it.
    rcases List.append_eq_append_iff.mp ha with ⟨more, rfl, -⟩ | ⟨more, rfl, hr⟩
    · obtain ⟨kept, hk, hl⟩ := held_split exchanged
      have noMore : lockedBuffers.takenIn more = [] :=
        (List.append_eq_nil_iff.mp (Custody.takenIn_append _ mid more ▸ untaken)).2
      exact ⟨buffer, kept, only, held_trans drawn (held_skip ⟨rfl, rfl⟩ hk),
        held_untaken noMore hl buffer (by simp)⟩
    · rw [accepted_append] at none
      obtain ⟨own, ho⟩ := (ended.keepsScreen ((sameOn.trans same).trans hs)).own more after hr
        (List.append_eq_nil_iff.mp none).2
      exact ⟨buffer, own ++ [buffer], only, held_trans drawn (held_skip ⟨rfl, rfl⟩
        (held_trans exchanged (held_beside [buffer] ho))), by simp⟩

theorem BufferPool.DisposalRecord.locks_idle {entries : List PoolEntry} {added : List Exchange}
    (h : DisposalRecord entries added) : ∀ e ∈ added, lockedBuffers.Idle e := by
  intro e he
  rcases h.disposes e he with ⟨framebuffer, answer, rfl⟩ | ⟨buffer, rfl⟩ <;> exact ⟨rfl, rfl⟩

theorem Pipeline.EndRecord.releases_first {p : Pipeline} {added : List Exchange}
    (h : p.EndRecord added) : ∃ rest, added = p.onScreen.toList.map .released ++ rest ∧
      ∀ e ∈ rest, lockedBuffers.Idle e := by
  obtain ⟨hd⟩ := h
  refine ⟨_, rfl, ?_⟩
  have disposing := hd.locks_idle
  intro e he
  rcases List.mem_append.mp he with he | he
  · obtain ⟨fence, -, rfl⟩ := List.mem_map.mp he
    exact ⟨rfl, rfl⟩
  · rcases List.mem_append.mp he with he | he
    · exact disposing e he
    · obtain ⟨surface, -, rfl⟩ := List.mem_map.mp he
      exact ⟨rfl, rfl⟩

/-- How the buffers of a surface are kept in a life of a display path, which it lived and then
ended. -/
structure ScreenKept (p : Pipeline) (lived ending : List Exchange) : Prop where
  /-- The buffer on screen is out of the surface, and no other is. -/
  onScreen : lockedBuffers.held [] lived = some p.onScreen.toList
  unshown : accepted lived = [] → p.onScreen = none
  /-- On screen is the buffer of the frame whose commit was accepted last. -/
  last : ∀ before txn outFence after,
    lived = before ++ .submitted txn (.ok outFence) :: after → accepted after = [] →
    ∃ buffer, p.onScreen = some buffer ∧ lockedBuffers.takenIn (frameSoFar before) = [buffer]
  /-- It does not go back before another commit is accepted. -/
  kept : ∀ before txn outFence mid after,
    lived = before ++ .submitted txn (.ok outFence) :: (mid ++ after) → accepted mid = [] →
    ∃ buffer kept, lockedBuffers.takenIn (frameSoFar before) = [buffer] ∧
      lockedBuffers.held [] (before ++ .submitted txn (.ok outFence) :: mid) = some kept ∧
      buffer ∈ kept
  /-- A frame that is not shown gives back what it took, and only that. -/
  givenUp : ∀ before mark after, lived = before ++ mark :: after → mark.beginsFrame →
    accepted (frameRest after) = [] → lockedBuffers.held [] (frameRest after) = some []
  /-- In the end the buffer on screen goes back before anything else is given up. -/
  first : ∃ rest, ending = p.onScreen.toList.map .released ++ rest ∧
    ∀ e ∈ rest, lockedBuffers.Idle e
  ended : lockedBuffers.held [] (lived ++ ending) = some []
  once : (lockedBuffers.takenIn (lived ++ ending)).Perm (lockedBuffers.givenIn (lived ++ ending))

theorem Steps.gives_up {p₀ p' : Pipeline} {surface : Surface} {before after : List Exchange}
    {mark : Exchange} (hs : p₀.pool.surface = some surface)
    (h : Steps p₀ (before ++ mark :: after) p') (hb : mark.beginsFrame = true)
    (none : accepted (frameRest after) = []) :
    lockedBuffers.held [] (frameRest after) = some [] := by
  obtain ⟨p, q, result, added, rest, began, hf, ended, rfl⟩ := h.frame_at rfl hb
  have unmarked := hf.unmarked
  have split : frameRest (added ++ rest) = added ++ frameRest rest :=
    List.takeWhile_append_of_pos (by simpa using unmarked)
  rw [split] at none ⊢
  rw [accepted_append] at none
  have same := surface_compositional.steps began
  have own := ((hf.screen (same.trans hs)).unshown (List.append_eq_nil_iff.mp none).1).2
  exact held_trans own (held_idle ended.frameRest_quiet)

/-- A frame or a finish that fails leaves what is on screen alone, and gives back what it took. -/
theorem AnswerRecord.screen_of_error {σ : Type} {p : Pipeline} {surface : Surface}
    {request : Request σ} {reply : Reply × Pipeline} {e : DisplayError} {added : List Exchange}
    (hs : p.pool.surface = some surface) (failed : reply.1.error? = some e)
    (h : AnswerRecord p request reply added) :
    reply.2.onScreen = p.onScreen ∧ lockedBuffers.held [] added = some [] := by
  cases h with
  | @presented _ _ q result _ hf =>
    cases result with
    | ok _ => simp [Reply.error?] at failed
    | error cause =>
      have screen := hf.screen hs
      cases screen with
      | refused _ same held => exact ⟨same, held⟩
  | finished hw =>
    have same := congrArg Pipeline.onScreen hw.leaves
    exact ⟨same, held_idle hw.locks_idle⟩
  | ran => simp [Reply.error?] at failed

theorem BufferPool.Fresh.surfaced {pool : BufferPool} (h : pool.Fresh false) :
    ∃ surface, pool.surface = some surface := by
  have made := h.surface
  exact Option.isSome_iff_exists.mp (by simpa using made)

/-- In any life of a display path with a surface, whatever its collaborators answer, every buffer
goes back to the surface exactly once, and between calls only the one on screen is out of it. A
frame or a finish that fails leaves that one alone. -/
theorem screen_kept {σ : Type} [World σ] (device : Device σ) (allocator : Allocator σ)
    (options : Options) (requests : List (Request σ)) (world : σ) {p : Pipeline} {r : Recorded σ}
    (surfaced : options.surfaceless = false)
    (h : recordLife device allocator options requests world = (.ok p, r)) :
    ScreenKept p r.transcript (recordDrop device allocator p r.world).transcript ∧
      ∀ request reply q r' e, recordCall device allocator p request r.world = ((reply, q), r') →
        reply.error? = some e →
        q.onScreen = p.onScreen ∧ lockedBuffers.held [] r'.transcript = some [] := by
  obtain ⟨p₀, readying, lived, quiet, fresh, ht, steps⟩ := recordLife_lived h
  have quietly := fun e he => (idle_of_setUp quiet e he).2.1
  have bare : p₀.onScreen.toList = [] := by simp [fresh.onScreen]
  rw [surfaced] at fresh
  obtain ⟨surface, hs⟩ := fresh.pool.surfaced
  have keeps := steps.keepsScreen hs
  have onScreen : lockedBuffers.held [] r.transcript = some p.onScreen.toList := by
    have used := keeps.held
    rw [bare] at used
    rw [ht]
    exact held_skipAll quietly used
  have kept : ∀ before txn outFence mid after,
      r.transcript = before ++ .submitted txn (.ok outFence) :: (mid ++ after) →
      accepted mid = [] → ∃ buffer kept, lockedBuffers.takenIn (frameSoFar before) = [buffer] ∧
        lockedBuffers.held [] (before ++ .submitted txn (.ok outFence) :: mid) = some kept ∧
        buffer ∈ kept := by
    intro before txn outFence mid after hsplit none
    obtain ⟨past, rfl, rfl⟩ := split_readied quiet rfl (ht.symm.trans hsplit)
    obtain ⟨buffer, kept, taken, held, member⟩ := steps.keeps_shown hs none readying
    rw [bare] at held
    refine ⟨buffer, kept, taken, ?_, member⟩
    rw [List.append_assoc]
    exact held_skipAll quietly held
  have ending := (recordDrop_record device allocator p r.world).releases_first
  have settled : lockedBuffers.held [] (r.transcript ++
      (recordDrop device allocator p r.world).transcript) = some [] := by
    obtain ⟨rest, he, idle⟩ := ending
    rw [he]
    exact held_trans onScreen (held_trans (Pipeline.held_released _) (held_idle idle))
  refine ⟨⟨onScreen, ?_, ?_, kept, ?_, ending, settled, by simpa using held_balance settled⟩, ?_⟩
  · intro none
    rw [ht, accepted_append] at none
    rw [keeps.unshown (List.append_eq_nil_iff.mp none).2, fresh.onScreen]
  · intro before txn outFence after hsplit none
    obtain ⟨buffer, held, taken, now, member⟩ :=
      kept before txn outFence after [] (by simpa using hsplit) none
    rw [← hsplit, onScreen] at now
    obtain rfl := Option.some.inj now
    exact ⟨buffer, by simpa using member, taken⟩
  · intro before mark after hsplit hb none
    have unready : mark.isSetUp = false := by
      cases mark <;> simp_all [Exchange.beginsFrame, Exchange.isSetUp]
    obtain ⟨past, rfl, rfl⟩ := split_readied quiet unready (ht.symm.trans hsplit)
    exact steps.gives_up hs hb none
  · intro request reply q r' e hc failed
    have record := recordCall_record device allocator p request r.world
    rw [hc] at record
    exact record.screen_of_error ((surface_compositional.steps steps).trans hs) failed

/-- Three frames on the device in memory, drawn onto a surface. The first commit is rejected. -/
def Memory.surfaceFrames : Except DisplayError Pipeline × Recorded Memory :=
  recordLife MemoryDisplay.singleOutput.device MemoryAllocator.plain.allocator
    ⟨none, 0, .xrgb8888, .linear, false⟩
    (.replicate 3 (.present MemoryRenderer.plain.renderer Memory.waiter)) (Memory.fresh 1)

/-- Of the three buffers in memory, that of the second frame goes back when the third is shown. -/
theorem screen_kept_in_memory :
    ∃ p, Memory.surfaceFrames.1 = .ok p ∧ p.onScreen.isSome ∧
      (accepted Memory.surfaceFrames.2.transcript).length = 2 ∧
      (lockedBuffers.takenIn Memory.surfaceFrames.2.transcript).map Buffer.id = [0, 1, 2] ∧
      (lockedBuffers.givenIn Memory.surfaceFrames.2.transcript).map Buffer.id = [0, 1] ∧
      ScreenKept p Memory.surfaceFrames.2.transcript
        (recordDrop MemoryDisplay.singleOutput.device MemoryAllocator.plain.allocator p
          Memory.surfaceFrames.2.world).transcript := by
  have chosen : (Memory.surfaceFrames.1.toOption.map fun p => p.onScreen.isSome) = some true := by
    decide +kernel
  have two : (accepted Memory.surfaceFrames.2.transcript).length = 2 := by decide +kernel
  have taken : (lockedBuffers.takenIn Memory.surfaceFrames.2.transcript).map Buffer.id =
      [0, 1, 2] := by
    decide +kernel
  have given : (lockedBuffers.givenIn Memory.surfaceFrames.2.transcript).map Buffer.id =
      [0, 1] := by
    decide +kernel
  obtain ⟨p, hp, shows⟩ := Option.map_eq_some_iff.mp chosen
  have life := ok_of_toOption hp
  unfold Memory.surfaceFrames at life two taken given ⊢
  exact ⟨p, life, shows, two, taken, given, (screen_kept _ _ _ _ _ rfl (pair_of_fst life)).1⟩

end Scanout
