import Scanout.Proofs.Ending
import Scanout.Proofs.PoolAccounts

namespace Scanout

open Custody (held_give held_skipAll held_trans)

/-- The buffers that are freed. -/
def freedIn (events : List Exchange) : List Buffer :=
  events.filterMap fun
    | .freed buffer => some buffer
    | _ => none

@[simp] theorem freedIn_append (events later : List Exchange) :
    freedIn (events ++ later) = freedIn events ++ freedIn later :=
  List.filterMap_append

@[simp] theorem freedIn_freed (buffer : Buffer) (later : List Exchange) :
    freedIn (.freed buffer :: later) = buffer :: freedIn later := rfl

theorem framebuffers_freed (buffer : Option Buffer) :
    ∀ e ∈ buffer.toList.map Exchange.freed, framebuffers.Idle e := by
  simp [Custody.Idle, framebuffers]

namespace RemovalRecord

variable {made : Option FramebufferId} {added : List Exchange}

theorem givenIn (h : RemovalRecord made added) : framebuffers.givenIn added = made.toList := by
  cases h with
  | none bare => rw [bare]; rfl
  | removed answer made => rw [made]; rfl

theorem unfreed (h : RemovalRecord made added) : ∀ buffer, .freed buffer ∉ added := by
  cases h <;> simp

theorem freedIn (h : RemovalRecord made added) : Scanout.freedIn added = [] := by
  cases h <;> rfl

theorem removes (kept : List FramebufferId) (h : RemovalRecord made added) :
    framebuffers.held (made.toList ++ kept) added = some kept := by
  cases h with
  | none bare => rw [bare]; rfl
  | removed answer made => rw [made]; exact held_give rfl rfl rfl

end RemovalRecord

namespace BufferPool

variable {entries : List PoolEntry} {added before after : List Exchange}

/-- Every framebuffer that a pool has is removed, and no other. -/
theorem DisposalRecord.removes (h : DisposalRecord entries added) :
    framebuffers.held (entries.filterMap (·.framebuffer)) added = some [] := by
  induction h with
  | none => rfl
  | entry hr _ ih =>
    rw [filterMap_cons_toList]
    exact held_trans (hr.removes _) (held_skipAll (framebuffers_freed _) ih)

/-- Where the buffer of an entry is freed, those of the entries before it were, and the framebuffers
up to its own were removed. -/
theorem DisposalRecord.at_freed {buffer : Buffer}
    (h : DisposalRecord entries (before ++ .freed buffer :: after)) :
    ∃ index entry, entries[index]? = some entry ∧ entry.buffer = some buffer ∧
      freedIn before = (entries.take index).filterMap (·.buffer) ∧
      framebuffers.givenIn before = (entries.take (index + 1)).filterMap (·.framebuffer) := by
  generalize ha : before ++ .freed buffer :: after = added at h
  induction h generalizing before with
  | none => simp at ha
  | @entry entry entries removing later hr _ ih =>
    obtain ⟨past, rfl, hpast⟩ := split_late ha.symm (hr.unfreed buffer)
    -- It is the buffer of this entry, if that has one, or of a later one.
    cases hb : entry.buffer with
    | none =>
      simp only [hb, Option.toList_none, List.map_nil, List.nil_append] at hpast
      obtain ⟨index, own, found, owned, freed, removed⟩ := ih hpast.symm
      exact ⟨index + 1, own, by simpa using found, owned,
        by simp [hr.freedIn, freed, hb], by simp [hr.givenIn, removed, filterMap_cons_toList]⟩
    | some first =>
      simp only [hb, Option.toList_some, List.map_cons, List.map_nil] at hpast
      cases past with
      | nil =>
        obtain ⟨rfl, -⟩ := by simpa using hpast
        exact ⟨0, entry, rfl, hb, by simp [hr.freedIn],
          by simp [hr.givenIn, filterMap_cons_toList]⟩
      | cons x rest =>
        obtain ⟨rfl, hrest⟩ := List.cons.inj hpast
        obtain ⟨index, own, found, owned, freed, removed⟩ := ih hrest.symm
        have unremoved : framebuffers.givenIn (.freed first :: rest) =
            framebuffers.givenIn rest := rfl
        exact ⟨index + 1, own, by simpa using found, owned,
          by simp [hr.freedIn, freed, hb],
          by simp [hr.givenIn, unremoved, removed, filterMap_cons_toList]⟩

theorem range_filterMap_bind {α β : Type} (f : α → Option β) (as : List α) (count : Nat) :
    (List.range count).filterMap (fun index => as[index]?.bind f) =
      (as.take count).filterMap f := by
  induction count with
  | zero => simp
  | succ count ih =>
    rw [List.range_succ, List.filterMap_append, ih, List.take_add_one, List.filterMap_append]
    cases h : as[count]? <;> simp [filterMap_cons_toList, h]

/-- Where a buffer is freed, it is that of the next slot of the ring, and the framebuffers of the
slots up to that were removed. -/
theorem DisposalRecord.at_freed_slot {pool : BufferPool} {made : List MadeFramebuffer}
    {buffer : Buffer} (accounts : pool.Accounts made)
    (h : DisposalRecord pool.entries (before ++ .freed buffer :: after)) :
    pool.buffer? (freedIn before).length = some buffer ∧
      framebuffers.givenIn before =
        (List.range ((freedIn before).length + 1)).filterMap pool.framebufferOf := by
  obtain ⟨index, entry, found, owned, freed, removed⟩ := h.at_freed
  have ring : pool.isSurfaceless = true := by
    rw [← accounts.owned entry (List.mem_of_getElem? found), owned]
    rfl
  have all : ∀ x ∈ pool.entries.take index, x.buffer.isSome := by
    intro x hx
    rw [accounts.owned x (List.mem_of_mem_take hx), ring]
  have slot : (freedIn before).length = index := by
    obtain ⟨inside, -⟩ := List.getElem?_eq_some_iff.mp found
    rw [freed, List.filterMap_length_eq_length.mpr all]
    simp [inside.le]
  have framebufferOf : pool.framebufferOf =
      fun slot => pool.entries[slot]?.bind PoolEntry.framebuffer := by
    funext slot
    simp [BufferPool.framebufferOf, position?, ring, framebuffer?]
  rw [slot, framebufferOf, range_filterMap_bind]
  exact ⟨buffer?_of_entry found owned, removed⟩

end BufferPool

namespace Pipeline

variable {p : Pipeline} {ending before after : List Exchange}

/-- Before the pool is disposed of, the buffer on screen and the pending flip are given up. -/
theorem EndRecord.parts (h : p.EndRecord ending) :
    ∃ first disposing, ending = first ++ (disposing ++ p.pool.surface.toList.map .surfaceDropped) ∧
      (∀ e ∈ first, (∃ buffer, e = .released buffer) ∨ ∃ fence, e = .closed fence) ∧
      BufferPool.DisposalRecord p.pool.entries disposing := by
  cases h with
  | @intro disposing hd =>
    refine ⟨p.onScreen.toList.map .released ++ p.pendingFlip.toList.map .closed, disposing,
      by simp, ?_, hd⟩
    intro e he
    rcases List.mem_append.mp he with he | he
    · obtain ⟨buffer, -, rfl⟩ := List.mem_map.mp he
      exact .inl ⟨buffer, rfl⟩
    · obtain ⟨fence, -, rfl⟩ := List.mem_map.mp he
      exact .inr ⟨fence, rfl⟩

theorem idle_of_parts {first : List Exchange}
    (given : ∀ e ∈ first, (∃ buffer, e = .released buffer) ∨ ∃ fence, e = .closed fence) :
    (∀ e ∈ first, framebuffers.Idle e) ∧ freedIn first = [] := by
  constructor
  · intro e he
    rcases given e he with ⟨_, rfl⟩ | ⟨_, rfl⟩ <;> exact ⟨rfl, rfl⟩
  · apply List.filterMap_eq_nil_iff.mpr
    intro e he
    rcases given e he with ⟨_, rfl⟩ | ⟨_, rfl⟩ <;> rfl

theorem EndRecord.at_freed {made : List MadeFramebuffer} {buffer : Buffer}
    (accounts : p.pool.Accounts made) (h : p.EndRecord (before ++ .freed buffer :: after)) :
    p.pool.buffer? (freedIn before).length = some buffer ∧
      framebuffers.givenIn before =
        (List.range ((freedIn before).length + 1)).filterMap p.pool.framebufferOf := by
  obtain ⟨first, disposing, he, given, hd⟩ := h.parts
  have notFirst : .freed buffer ∉ first := by
    intro hm
    simpa using given _ hm
  obtain ⟨more, rfl, hmore⟩ := split_late he.symm notFirst
  obtain ⟨rest, rfl, -⟩ := split_early hmore (by simp)
  obtain ⟨idle, unfreed⟩ := idle_of_parts given
  rw [freedIn_append, Custody.givenIn_append, unfreed, Custody.givenIn_idle idle]
  exact hd.at_freed_slot accounts

/-- Every framebuffer of the pool is removed, and no other, before the surface is dropped. -/
theorem EndRecord.removes (h : p.EndRecord ending) :
    ∃ removing, ending = removing ++ p.pool.surface.toList.map .surfaceDropped ∧
      (∀ surface, .surfaceDropped surface ∉ removing) ∧
      framebuffers.held (p.pool.entries.filterMap (·.framebuffer)) removing = some [] := by
  obtain ⟨first, disposing, he, given, hd⟩ := h.parts
  refine ⟨first ++ disposing, by simpa using he, ?_,
    held_skipAll (idle_of_parts given).1 hd.removes⟩
  intro surface hm
  rcases List.mem_append.mp hm with hm | hm
  · simpa using given _ hm
  · simpa using hd.disposes _ hm

/-- When the surface is dropped, every framebuffer of the pool was removed. Nothing comes after. -/
theorem EndRecord.at_dropped {surface : Surface}
    (h : p.EndRecord (before ++ .surfaceDropped surface :: after)) :
    framebuffers.held (p.pool.entries.filterMap (·.framebuffer)) before = some [] ∧
      after = [] := by
  obtain ⟨removing, he, undropped, removes⟩ := h.removes
  obtain ⟨more, rfl, hmore⟩ := split_late he.symm (undropped surface)
  cases hs : p.pool.surface with
  | none => simp [hs] at hmore
  | some surface =>
    rw [hs] at hmore
    obtain ⟨rfl, -, rfl⟩ := split_head hmore (by simp)
    exact ⟨by simpa using removes, rfl⟩

end Pipeline

end Scanout
