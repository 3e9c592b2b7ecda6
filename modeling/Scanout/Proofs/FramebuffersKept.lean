import Scanout.Proofs.FramePresents
import Scanout.Proofs.FrameTransaction
import Scanout.Proofs.PoolDisposal

namespace Scanout

open Custody (held_balance held_idle held_perm held_trans held_ungiven)

theorem BufferPool.Fresh.accounts {pool : BufferPool} {surfaceless : Bool}
    (h : pool.Fresh surfaceless) : pool.Accounts [] := by
  have none : pool.entries.filterMap (·.framebuffer) = [] :=
    List.filterMap_eq_nil_iff.mpr h.bare
  refine ⟨?_, by simp, by simp [none], by simp, ?_⟩
  · intro place framebuffer
    have lacking : pool.framebufferOf place = .none := by
      unfold framebufferOf framebuffer?
      cases hp : pool.position? place with
      | none => rfl
      | some index =>
        cases he : pool.entries[index]? with
        | none => simp [he]
        | some entry => simp [he, h.bare entry (List.mem_of_getElem? he)]
    simp [lacking]
  · intro entry he
    unfold isSurfaceless
    rw [h.surface]
    cases surfaceless with
    | true => exact h.owned rfl entry he
    | false => simp [h.empty rfl] at he

/-- What removes the framebuffers that a pool has removes what is left of those that were made. -/
theorem Accounting.emptied {p : Pipeline} {events removing : List Exchange}
    (h : Accounting ⟨none, []⟩ p events)
    (hr : framebuffers.held (p.pool.entries.filterMap (·.framebuffer)) removing = some []) :
    framebuffers.held [] (events ++ removing) = some [] := by
  -- Nothing was removed so far, so what is left is what was made, and the pool has just that.
  obtain ⟨left, hl⟩ : ∃ left, framebuffers.held [] events = some left := held_ungiven h.kept
  have balance := held_balance hl
  rw [h.kept] at balance
  have same : (p.pool.entries.filterMap (·.framebuffer)).Perm left := by
    have all := h.accounts.all
    rw [h.taken] at all
    exact all.trans balance
  obtain ⟨kept, hk, perm⟩ := held_perm same hr
  obtain rfl := perm.nil_eq
  exact held_trans hl hk

namespace MidFrame

variable {p₀ p' : Pipeline} {readying before after : List Exchange} {e : Exchange}

theorem at_ask (start : p₀.pool.Accounts (bufferLog readying).made)
    (asks : e.asksFramebuffer = true) (h : MidFrame p₀ p' before e after) :
    ∃ place buffer, (bufferLog (readying ++ before)).inHand = some (place, buffer) ∧
      (∀ m ∈ (bufferLog (readying ++ before)).made, m.place ≠ place) ∧
      ∃ layout withModifiers answer, e = .framebufferAdded layout withModifiers answer ∧
        (layout = buffer.layout ∨ layout = buffer.layout.singlePlane) := by
  obtain ⟨p, result, sofar, later, rest, made, hf, rfl, accounts, seen, -, -⟩ := h.accounts start
  obtain ⟨found, last, presents, -⟩ := hf.presents accounts
  obtain ⟨place, buffer, inHand, bare, asked⟩ := presents.at_ask asks
  rw [seen, inHand]
  exact ⟨place, buffer, rfl, bare, asked⟩

theorem at_presenting {place : Nat} {buffer : Buffer}
    (start : p₀.pool.Accounts (bufferLog readying).made)
    (shows : e.presents? = some (place, buffer)) (h : MidFrame p₀ p' before e after)
    (bare : ∀ m ∈ (bufferLog (readying ++ before)).made, m.place ≠ place) :
    ∃ next later, after = next :: later ∧ next.asksFramebuffer = true := by
  obtain ⟨p, result, sofar, later, rest, made, hf, rfl, accounts, seen, -, -⟩ := h.accounts start
  obtain ⟨found, last, presents, -⟩ := hf.presents accounts
  obtain ⟨yet, asked⟩ := presents.at_presenting shows
  rw [seen, yet] at bare
  obtain ⟨next, others, rfl, asks⟩ := asked bare
  exact ⟨next, others ++ rest, rfl, asks⟩

theorem at_submission {txn : Transaction} {answer : Except CallError (Option Fence)}
    (start : p₀.pool.Accounts (bufferLog readying).made)
    (described : p₀.tables.Describes p₀.topology)
    (h : MidFrame p₀ p' before (.submitted txn answer) after) :
    ∃ place buffer m, (bufferLog (readying ++ before)).inHand = some (place, buffer) ∧
      m ∈ (bufferLog (readying ++ before)).made ∧ m.place = place ∧ m.buffer.id = buffer.id ∧
      (p₀.pool.surface = none → m.buffer = buffer) ∧
      txn.Puts p₀.topology p₀.tables m.framebuffer := by
  obtain ⟨p, result, sofar, later, rest, made, hf, rfl, accounts, seen, same, surface⟩ :=
    h.accounts start
  obtain ⟨pool, drawn, begun, last, submitted, presents⟩ := hf.presents_at_submission accounts
  obtain ⟨place, buffer, inHand, at', m, hm, there, shows, own⟩ := presents.shown accounts
  rw [seen, inHand]
  refine ⟨place, buffer, m, rfl, hm, there, at'.same_id own, ?_, ?_⟩
  · intro ring
    rw [← surface] at ring
    exact Option.some.inj ((own.slot ring).symm.trans (at'.slot ring))
  · have output : p₀.SameOutput (p.readied pool) := ⟨same.topology, same.tables⟩
    have puts := submitted.puts (output.describes described)
    rw [output.topology, output.tables] at puts
    rw [shows]
    exact puts

end MidFrame

/-- How framebuffers are kept in a life of a display path, which it lived and then ended. -/
structure FramebuffersKept (p : Pipeline) (lived ending : List Exchange) : Prop where
  once : ((bufferLog lived).made.map (·.place)).Nodup
  accounted : (bufferLog lived).made.map (·.framebuffer) = framebuffers.takenIn lived
  /-- The pool has what was made, and nothing where nothing was. -/
  cached : ∀ place framebuffer, p.pool.framebufferOf place = some framebuffer ↔
    ∃ m ∈ (bufferLog lived).made, m.place = place ∧ m.framebuffer = framebuffer
  /-- A framebuffer is asked for only where none was made, for the buffer that the frame has in
  hand. -/
  asked : ∀ before layout withModifiers answer after,
    lived = before ++ .framebufferAdded layout withModifiers answer :: after →
      ∃ place buffer, (bufferLog before).inHand = some (place, buffer) ∧
        (∀ m ∈ (bufferLog before).made, m.place ≠ place) ∧
        (layout = buffer.layout ∨ layout = buffer.layout.singlePlane)
  /-- Whenever a buffer comes to hand without a framebuffer, one is asked for next. -/
  retried : ∀ before e after place buffer, lived = before ++ e :: after →
    e.presents? = some (place, buffer) →
    (∀ m ∈ (bufferLog before).made, m.place ≠ place) →
      ∃ next later, after = next :: later ∧ next.asksFramebuffer = true
  /-- What is submitted shows the framebuffer that was made of the buffer in hand. -/
  shown : ∀ before txn answer after, lived = before ++ .submitted txn answer :: after →
    ∃ place buffer m, (bufferLog before).inHand = some (place, buffer) ∧
      m ∈ (bufferLog before).made ∧ m.place = place ∧ m.buffer.id = buffer.id ∧
      (p.pool.surface = none → m.buffer = buffer) ∧
      txn.Puts p.topology p.tables m.framebuffer
  unremoved : framebuffers.givenIn lived = []
  /-- The ring is freed slot by slot, each buffer after the framebuffers up to its own. -/
  freed : ∀ before buffer after, ending = before ++ .freed buffer :: after →
    p.pool.buffer? (freedIn before).length = some buffer ∧
      framebuffers.givenIn before =
        (List.range ((freedIn before).length + 1)).filterMap p.pool.framebufferOf
  /-- A surface is dropped last, when no framebuffer is left. -/
  dropped : ∀ before surface after, ending = before ++ .surfaceDropped surface :: after →
    framebuffers.held [] (lived ++ before) = some [] ∧ after = []
  /-- In the end every framebuffer is removed, and only what was left was removed. -/
  ended : framebuffers.held [] (lived ++ ending) = some []
  removedOnce : (framebuffers.takenIn (lived ++ ending)).Perm
    (framebuffers.givenIn (lived ++ ending))

/-- In any life of a display path, whatever its collaborators answer, the framebuffer of a buffer
is made once, is shown whenever that buffer is, and is removed once, when the display path is given
up. -/
theorem framebuffers_kept {σ : Type} [World σ] (device : Device σ) (allocator : Allocator σ)
    (options : Options) (requests : List (Request σ)) (world : σ) {p : Pipeline} {r : Recorded σ}
    (h : recordLife device allocator options requests world = (.ok p, r)) :
    FramebuffersKept p r.transcript (recordDrop device allocator p r.world).transcript := by
  obtain ⟨p₀, readying, lived, quiet, fresh, ht, steps⟩ := recordLife_lived h
  have aside := fun e he => Exchange.aside_of_setUp (quiet e he)
  have readied : Accounting ⟨none, []⟩ p₀ readying := accounting_aside fresh.pool.accounts aside
  have accounting := readied.trans (steps.accounting readied.accounts)
  rw [← ht] at accounting
  have same := sameOutput_compositional.steps steps
  have surface := surface_compositional.steps steps
  have ending := recordDrop_record device allocator p r.world
  have settled : framebuffers.held [] (r.transcript ++
      (recordDrop device allocator p r.world).transcript) = some [] := by
    obtain ⟨removing, he, -, removes⟩ := ending.removes
    rw [he, ← List.append_assoc]
    exact held_trans (accounting.emptied removes) (held_idle (by simp [Custody.Idle, framebuffers]))
  refine ⟨accounting.accounts.once, accounting.taken, accounting.accounts.cached,
    ?_, ?_, ?_, accounting.kept, ?_, ?_, settled, by simpa using held_balance settled⟩
  · intro before layout withModifiers answer after hs
    obtain ⟨past, rfl, rfl⟩ := split_readied quiet rfl (ht.symm.trans hs)
    obtain ⟨place, buffer, inHand, bare, _, _, _, he, asked⟩ :=
      (steps.midFrame rfl rfl).at_ask readied.accounts rfl
    obtain ⟨rfl, -, -⟩ := by simpa using he
    exact ⟨place, buffer, inHand, bare, asked⟩
  · intro before e after place buffer hs shows bare
    have framed := Exchange.inFrame_of_presents shows
    obtain ⟨past, rfl, rfl⟩ :=
      split_readied quiet (Exchange.unready_of_presents shows) (ht.symm.trans hs)
    exact (steps.midFrame rfl framed).at_presenting readied.accounts shows bare
  · intro before txn answer after hs
    obtain ⟨past, rfl, rfl⟩ := split_readied quiet rfl (ht.symm.trans hs)
    rw [same.topology, same.tables, surface]
    exact (steps.midFrame rfl rfl).at_submission readied.accounts fresh.tables
  · intro before buffer after he
    rw [he] at ending
    exact ending.at_freed accounting.accounts
  · intro before dropped after he
    rw [he] at ending
    obtain ⟨removes, last⟩ := ending.at_dropped
    exact ⟨accounting.emptied removes, last⟩

/-- Four frames in memory from a ring of two buffers, each of which gets one framebuffer. -/
theorem framebuffers_kept_in_memory :
    ∃ p, (Memory.frames .plain 4).1 = .ok p ∧
      (accepted (Memory.frames .plain 4).2.transcript).length = 4 ∧
      (bufferLog (Memory.frames .plain 4).2.transcript).made.map (·.place) = [0, 1] ∧
      FramebuffersKept p (Memory.frames .plain 4).2.transcript
        (recordDrop MemoryDisplay.singleOutput.device MemoryAllocator.plain.allocator p
          (Memory.frames .plain 4).2.world).transcript := by
  have chosen : (Memory.frames .plain 4).1.toOption.isSome := by decide +kernel
  have four : (accepted (Memory.frames .plain 4).2.transcript).length = 4 := by decide +kernel
  have two : (bufferLog (Memory.frames .plain 4).2.transcript).made.map (·.place) = [0, 1] := by
    decide +kernel
  obtain ⟨p, hp⟩ := Option.isSome_iff_exists.mp chosen
  have life := ok_of_toOption hp
  unfold Memory.frames at life four two ⊢
  exact ⟨p, life, four, two, framebuffers_kept _ _ _ _ _ (pair_of_fst life)⟩

end Scanout
