import Scanout.Proofs.PoolAccounts

namespace Scanout

open Custody (givenIn_idle idle_of_mark takenIn_idle)

namespace BufferPool.MakingRecord

variable {made later : List MadeFramebuffer} {place : Nat} {buffer : Buffer}
  {result : Option FramebufferId} {added : List Exchange}

theorem seeing (h : MakingRecord made place buffer result later added) :
    BufferLog.seeing ⟨some (place, buffer), made⟩ added = ⟨some (place, buffer), later⟩ := by
  cases h with
  | reused => rfl
  | failed _ hf => exact hf.seeing_error
  | made _ hf =>
    rw [hf.seeing_ok]
    rfl

/-- What the transcript says of buffers after a frame got its buffer and the framebuffer of that. -/
theorem seeing_around {e : Exchange} {before after : List Exchange}
    (hb : ∀ x ∈ before, x.isAside) (shows : e.presents? = some (place, buffer))
    (h : MakingRecord made place buffer result later added) (ha : ∀ x ∈ after, x.isAside) :
    BufferLog.seeing ⟨none, made⟩ (before ++ e :: (added ++ after)) =
      ⟨some (place, buffer), later⟩ := by
  rw [BufferLog.seeing_append, BufferLog.seeing_aside hb, BufferLog.seeing_cons,
    BufferLog.see_presenting shows, BufferLog.seeing_append, h.seeing,
    BufferLog.seeing_aside ha]

theorem asks (h : MakingRecord made place buffer result later added) :
    ∀ e ∈ added, e.asksFramebuffer = true := by
  cases h with
  | reused => simp
  | failed _ hf => exact hf.asks.2
  | made _ hf => exact hf.asks.2

theorem ne_nil (bare : ∀ m ∈ made, m.place ≠ place)
    (h : MakingRecord made place buffer result later added) : added ≠ [] := by
  cases h with
  | reused hm same => exact absurd same (bare _ hm)
  | failed _ hf => exact hf.asks.1
  | made _ hf => exact hf.asks.1

theorem takenIn (h : MakingRecord made place buffer result later added) :
    later.map (·.framebuffer) = made.map (·.framebuffer) ++ framebuffers.takenIn added ∧
      framebuffers.givenIn added = [] := by
  cases h with
  | reused => exact ⟨(List.append_nil _).symm, rfl⟩
  | failed _ hf =>
    obtain ⟨taken, given⟩ := hf.takenIn
    exact ⟨by simp [taken, Except.toOption], given⟩
  | made _ hf =>
    obtain ⟨taken, given⟩ := hf.takenIn
    exact ⟨by simp [taken, Except.toOption], given⟩

/-- What comes of it is the framebuffer that was made for the place. -/
theorem found {pool : BufferPool} {framebuffer : FramebufferId} (accounts : pool.Accounts made)
    (at' : pool.IsAt place buffer)
    (h : MakingRecord made place buffer (some framebuffer) later added) :
    ∃ m ∈ later, m.place = place ∧ m.framebuffer = framebuffer ∧ pool.IsAt place m.buffer := by
  cases h with
  | @reused m hm same => exact ⟨m, hm, same, rfl, same ▸ accounts.own m hm⟩
  | made => exact ⟨⟨place, buffer, framebuffer⟩, by simp, rfl, rfl, at'⟩

end BufferPool.MakingRecord

namespace Pipeline

namespace PresentRecord

variable {pool : BufferPool} {made later : List MadeFramebuffer} {result : Option FramebufferId}
  {added before after sofar rest : List Exchange}

theorem within (hb : ∀ e ∈ before, e.isAside) (ha : ∀ e ∈ after, e.isAside)
    (h : PresentRecord pool made result later added) :
    PresentRecord pool made result later (before ++ (added ++ after)) := by
  cases h with
  | nothing quiet => exact .nothing (by grind)
  | @buffer _ _ _ _ e first making last quiet shows making' at' quietly =>
    have whole : PresentRecord pool made result later
        ((before ++ first) ++ e :: (making ++ (last ++ after))) :=
      .buffer (by grind) shows making' at' (by grind)
    simpa using whole

theorem seeing (h : PresentRecord pool made result later added) :
    (BufferLog.seeing ⟨none, made⟩ added).made = later := by
  cases h with
  | nothing quiet => rw [BufferLog.seeing_aside quiet]
  | buffer quiet shows making _ quietly => rw [making.seeing_around quiet shows quietly]

theorem takenIn (h : PresentRecord pool made result later added) :
    later.map (·.framebuffer) = made.map (·.framebuffer) ++ framebuffers.takenIn added ∧
      framebuffers.givenIn added = [] := by
  cases h with
  | nothing quiet =>
    have idle := fun e he => Exchange.aside_idle (quiet e he)
    simp [takenIn_idle idle, givenIn_idle idle]
  | buffer quiet shows making _ quietly =>
    have idle := fun e he => Exchange.aside_idle (quiet e he)
    have idly := fun e he => Exchange.aside_idle (quietly e he)
    obtain ⟨unmade, kept⟩ := Exchange.idle_of_presents shows
    obtain ⟨taken, given⟩ := making.takenIn
    simp [takenIn_idle idle, givenIn_idle idle, takenIn_idle idly, givenIn_idle idly, unmade, kept,
      taken, given]

/-- A frame that has a framebuffer got that of the buffer it has in hand. -/
theorem shown {framebuffer : FramebufferId} (accounts : pool.Accounts made)
    (h : PresentRecord pool made (some framebuffer) later added) :
    ∃ place buffer, BufferLog.seeing ⟨none, made⟩ added = ⟨some (place, buffer), later⟩ ∧
      pool.IsAt place buffer ∧ ∃ m ∈ later, m.place = place ∧ m.framebuffer = framebuffer ∧
        pool.IsAt place m.buffer := by
  cases h with
  | buffer quiet shows making at' quietly =>
    exact ⟨_, _, making.seeing_around quiet shows quietly, at', making.found accounts at'⟩

/-- Where a framebuffer is asked for, it is for the buffer in hand, whose place has none. -/
theorem at_ask {e : Exchange} (asks : e.asksFramebuffer = true)
    (h : PresentRecord pool made result later (sofar ++ e :: rest)) :
    ∃ place buffer, BufferLog.seeing ⟨none, made⟩ sofar = ⟨some (place, buffer), made⟩ ∧
      (∀ m ∈ made, m.place ≠ place) ∧ ∃ layout withModifiers answer,
        e = .framebufferAdded layout withModifiers answer ∧
          (layout = buffer.layout ∨ layout = buffer.layout.singlePlane) := by
  generalize ha : sofar ++ e :: rest = added at h
  have notAside {events : List Exchange} (quiet : ∀ x ∈ events, x.isAside) : e ∉ events := by
    intro hm
    simp [Exchange.unasked_of_aside (quiet e hm)] at asks
  cases h with
  | nothing quiet => exact absurd (by simp [← ha]) (notAside quiet)
  | @buffer place buffer _ _ x first making last quiet shows making' _ quietly =>
    -- Nothing but the making asks for framebuffers, so the split falls in it.
    have other : e ≠ x := by
      rintro rfl
      simp [Exchange.presents_of_asks asks] at shows
    have notFirst : e ∉ first ++ [x] := by simp [notAside quiet, other]
    obtain ⟨more, rfl, hmore⟩ := split_late (by simpa using ha.symm) notFirst
    obtain ⟨tail, rfl, -⟩ := split_early hmore (notAside quietly)
    have there : BufferLog.seeing ⟨none, made⟩ (first ++ [x]) = ⟨some (place, buffer), made⟩ := by
      simp [BufferLog.seeing_aside quiet, BufferLog.see_presenting shows]
    generalize hq : more ++ e :: tail = asking at making'
    cases making' with
    | reused => simp at hq
    | failed bare hf =>
      subst hq
      obtain ⟨same, asked⟩ := hf.at_ask
      exact ⟨place, buffer, by rw [BufferLog.seeing_append, there, same], bare, asked⟩
    | made bare hf =>
      subst hq
      obtain ⟨same, asked⟩ := hf.at_ask
      exact ⟨place, buffer, by rw [BufferLog.seeing_append, there, same], bare, asked⟩

/-- Where a buffer comes to hand whose place has no framebuffer, one is asked for at once. -/
theorem at_presenting {e : Exchange} {place : Nat} {buffer : Buffer}
    (shows : e.presents? = some (place, buffer))
    (h : PresentRecord pool made result later (sofar ++ e :: rest)) :
    BufferLog.seeing ⟨none, made⟩ sofar = ⟨none, made⟩ ∧ ((∀ m ∈ made, m.place ≠ place) →
      ∃ next last, rest = next :: last ∧ next.asksFramebuffer = true) := by
  generalize ha : sofar ++ e :: rest = added at h
  have notAside {events : List Exchange} (quiet : ∀ x ∈ events, x.isAside) : e ∉ events := by
    intro hm
    simp [Exchange.unshown_of_aside (quiet e hm)] at shows
  cases h with
  | nothing quiet => exact absurd (by simp [← ha]) (notAside quiet)
  | @buffer _ _ _ _ x first making last quiet showsToo making' _ quietly =>
    have notMaking : e ∉ making := by
      intro hm
      simp [Exchange.presents_of_asks (making'.asks e hm)] at shows
    obtain ⟨more, rfl, hmore⟩ := split_late ha.symm (notAside quiet)
    obtain ⟨rfl, rfl, rfl⟩ := split_head hmore (by simp [notMaking, notAside quietly])
    refine ⟨by simpa using BufferLog.seeing_aside quiet, ?_⟩
    intro bare
    obtain ⟨rfl, rfl⟩ := by simpa [shows] using showsToo
    obtain ⟨next, tail, rfl⟩ := List.exists_cons_of_ne_nil (making'.ne_nil bare)
    exact ⟨next, tail ++ last, rfl, making'.asks next List.mem_cons_self⟩

end PresentRecord

end Pipeline

theorem SubmitRecord.aside {topology : Topology} {tables : PropertyCache}
    {request : CommitRequest} {blob : Option UInt64} {outcome : CommitOutcome}
    {added : List Exchange} (h : SubmitRecord topology tables request blob outcome added) :
    ∀ e ∈ added, e.isAside := by
  cases h with
  | unbuilt => simp
  | rejected => simp [Exchange.isAside]
  | accepted => simp [Exchange.isAside]

theorem CommitRecord.aside {topology : Topology} {tables : PropertyCache}
    {request : CommitRequest} {outcome : CommitOutcome} {added : List Exchange}
    (h : CommitRecord topology tables request outcome added) : ∀ e ∈ added, e.isAside := by
  cases h with
  | flip _ hs => exact hs.aside
  | blobless => simp [Exchange.isAside]
  | modeset blob answer _ hs =>
    have inner := hs.aside
    grind [Exchange.isAside]

namespace Pipeline

theorem GpuWaitRecord.aside {pending : Option Fence} {added : List Exchange}
    (h : GpuWaitRecord pending added) : ∀ e ∈ added, e.isAside := by
  cases h <;> simp [Exchange.isAside]

theorem FinishRecord.aside {p : Pipeline} {result : Except DisplayError Unit × Pipeline}
    {added : List Exchange} (h : p.FinishRecord result added) : ∀ e ∈ added, e.isAside := by
  cases h <;> simp [Exchange.isAside]

theorem aside_released (buffers : List Buffer) :
    ∀ e ∈ buffers.map Exchange.released, e.isAside := by
  simp [Exchange.isAside]

theorem FlipRecord.aside {p : Pipeline} {frame : Nat} {drawn : Drawn}
    {result : Except DisplayError Unit × Pipeline} {added : List Exchange}
    (h : p.FlipRecord frame drawn result added) : ∀ e ∈ added, e.isAside := by
  intro e he
  cases h with
  | shown throughput hc =>
    rcases List.mem_append.mp he with he | he
    · exact hc.aside e he
    · split at he
      · exact aside_released _ e he
      · simp at he
  | @refused cause inFence committing hc =>
    rcases List.mem_append.mp he with he | he
    · exact hc.aside e he
    · rcases List.mem_append.mp he with he | he
      · obtain ⟨fence, -, rfl⟩ := List.mem_map.mp he
        rfl
      · exact aside_released _ e he

/-- What a frame does to the framebuffers is what its drawing does. -/
theorem FrameRecord.presents {p : Pipeline} {made : List MadeFramebuffer}
    {result : Except DisplayError Unit × Pipeline} {added : List Exchange}
    (h : p.FrameRecord result added) (accounts : p.pool.Accounts made) :
    ∃ found later, PresentRecord p.pool made found later added ∧ result.2.pool.Accounts later := by
  cases h with
  | @undrawn pool e queued drawing hq hd =>
    obtain ⟨later, presents, still⟩ := hd.presents accounts
    have whole := presents.within hq.aside (List.forall_mem_nil _)
    rw [List.append_nil] at whole
    exact ⟨_, later, whole, still⟩
  | @unwaited pool drawn e q queued drawing waiting hq hd hw =>
    obtain ⟨later, presents, still⟩ := hd.presents accounts
    have same := congrArg Pipeline.pool hw.leaves
    have given : ∀ x ∈ waiting ++ (.closed drawn.fence :: drawn.locked.toList.map .released),
        x.isAside := by
      have waited := hw.aside
      have released := aside_released drawn.locked.toList
      grind [Exchange.isAside]
    refine ⟨_, later, presents.within hq.aside given, ?_⟩
    rw [same]
    exact still
  | @committed pool drawn q result queued drawing waiting flipping hq hd hw hf =>
    obtain ⟨later, presents, still⟩ := hd.presents accounts
    have same := congrArg Pipeline.pool hw.leaves
    have kept : result.2.pool = q.pool := by cases hf <;> rfl
    have given : ∀ x ∈ waiting ++ flipping, x.isAside := by
      have waited := hw.aside
      have flipped := hf.aside
      grind
    refine ⟨_, later, presents.within hq.aside given, ?_⟩
    rw [kept, same]
    exact still

/-- A frame that comes to its submission submits the framebuffer of the buffer it has in hand. -/
theorem FrameRecord.presents_at_submission {p : Pipeline} {made : List MadeFramebuffer}
    {result : Except DisplayError Unit × Pipeline} {sofar later : List Exchange}
    {txn : Transaction} {answer : Except CallError (Option Fence)}
    (h : p.FrameRecord result (sofar ++ .submitted txn answer :: later))
    (accounts : p.pool.Accounts made) :
    ∃ pool drawn begun last, (p.readied pool).SubmittedAs drawn txn begun ∧
      PresentRecord p.pool made (some drawn.framebuffer) last sofar := by
  obtain ⟨pool, drawn, q, queued, drawing, waiting, begun, hq, hd, hw, hf, rfl⟩ :=
    h.at_commit rfl
  obtain rfl : q = p.readied pool := hw.leaves
  obtain ⟨hs, -, -⟩ := hf.at_submit
  obtain ⟨last, presents, -⟩ := hd.presents accounts
  have begunAside : ∀ e ∈ begun, e.isAside := by
    cases hs with
    | flip => simp
    | modeset => simp [Exchange.isAside]
  have given : ∀ e ∈ waiting ++ begun, e.isAside := by
    have waited := hw.aside
    grind
  exact ⟨pool, drawn, begun, last, hs, presents.within hq.aside given⟩

end Pipeline

open Pipeline (PresentRecord)

theorem bufferLog_mark {past sofar : List Exchange} {mark : Exchange} (hm : mark.isMark = true) :
    bufferLog (past ++ mark :: sofar) = BufferLog.seeing ⟨none, (bufferLog past).made⟩ sofar := by
  rw [bufferLog_append, BufferLog.seeing_cons, BufferLog.see_mark hm]

/-- That over a stretch of a life the pool goes on to account for the framebuffers that are made,
and that none is removed. -/
structure Accounting (log : BufferLog) (q : Pipeline) (events : List Exchange) : Prop where
  accounts : q.pool.Accounts (log.seeing events).made
  taken : (log.seeing events).made.map (·.framebuffer) =
    log.made.map (·.framebuffer) ++ framebuffers.takenIn events
  kept : framebuffers.givenIn events = []

theorem Accounting.trans {log : BufferLog} {q p' : Pipeline} {events later : List Exchange}
    (h : Accounting log q events) (hl : Accounting (log.seeing events) p' later) :
    Accounting log p' (events ++ later) where
  accounts := by simpa using hl.accounts
  taken := by simp [hl.taken, h.taken]
  kept := by simp [h.kept, hl.kept]

theorem accounting_aside {log : BufferLog} {q : Pipeline} {events : List Exchange}
    (start : q.pool.Accounts log.made) (quiet : ∀ e ∈ events, e.isAside = true) :
    Accounting log q events := by
  have idle := fun e he => Exchange.aside_idle (quiet e he)
  have same : log.seeing events = log := BufferLog.seeing_aside quiet
  refine ⟨?_, ?_, givenIn_idle idle⟩
  · rw [same]
    exact start
  · rw [same, takenIn_idle idle, List.append_nil]

theorem accounting_mark {log : BufferLog} {q : Pipeline} {mark : Exchange}
    (start : q.pool.Accounts log.made) (hm : mark.isMark = true) : Accounting log q [mark] := by
  have idle := (idle_of_mark hm).2.2
  have same : log.seeing [mark] = ⟨none, log.made⟩ := BufferLog.see_mark hm
  refine ⟨?_, ?_, givenIn_idle (by simpa using idle)⟩
  · rw [same]
    exact start
  · rw [same, takenIn_idle (by simpa using idle), List.append_nil]

theorem Pipeline.FrameRecord.accounting {p : Pipeline} {made : List MadeFramebuffer}
    {result : Except DisplayError Unit × Pipeline} {added : List Exchange}
    (start : p.pool.Accounts made) (h : p.FrameRecord result added) :
    Accounting ⟨none, made⟩ result.2 added := by
  obtain ⟨found, later, presents, still⟩ := h.presents start
  have seen := presents.seeing
  obtain ⟨taken, given⟩ := presents.takenIn
  exact ⟨seen ▸ still, seen ▸ taken, given⟩

theorem StepRecord.accounting {log : BufferLog} {p q : Pipeline} {added : List Exchange}
    (start : p.pool.Accounts log.made) (h : StepRecord p added q) : Accounting log q added := by
  cases h with
  | marked hm _ => exact accounting_mark start hm
  | @frame _ mark result shown hm _ hf =>
    have framed := hf.accounting start
    have same : log.seeing [mark] = ⟨none, log.made⟩ := BufferLog.see_mark hm
    rw [← same] at framed
    exact (accounting_mark start hm).trans framed
  | finish hw =>
    have same := congrArg Pipeline.pool hw.leaves
    have still : q.pool.Accounts log.made := by
      rw [same]
      exact start
    exact accounting_aside still hw.aside
  | timed => exact accounting_aside start (by simp)

theorem Steps.accounting {log : BufferLog} {p q : Pipeline} {added : List Exchange}
    (start : p.pool.Accounts log.made) (h : Steps p added q) : Accounting log q added := by
  induction h generalizing log with
  | none => exact ⟨start, by simp [Custody.takenIn], rfl⟩
  | more step _ ih =>
    have now := step.accounting start
    exact now.trans (ih now.accounts)

/-- Where a call is made in a frame, the pool accounts for the framebuffers that were made before
the frame. -/
theorem MidFrame.accounts {p₀ p' : Pipeline} {readying before after : List Exchange} {e : Exchange}
    (start : p₀.pool.Accounts (bufferLog readying).made) (h : MidFrame p₀ p' before e after) :
    ∃ p result sofar later rest made, p.FrameRecord result (sofar ++ e :: later) ∧
      after = later ++ rest ∧ p.pool.Accounts made ∧
      bufferLog (readying ++ before) = BufferLog.seeing ⟨none, made⟩ sofar ∧
      p₀.SameOutput p ∧ p.pool.surface = p₀.pool.surface := by
  cases h with
  | @intro p q result past sofar later rest mark _ began hm _ hf _ =>
    have accounting := began.accounting start
    refine ⟨p, (result, q), sofar, later, rest, (bufferLog (readying ++ past)).made, hf, rfl, ?_,
      ?_, sameOutput_compositional.steps began, surface_compositional.steps began⟩
    · rw [bufferLog_append]
      exact accounting.accounts
    · rw [← List.append_assoc, bufferLog_mark hm]

end Scanout
