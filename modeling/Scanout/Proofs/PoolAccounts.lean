import Scanout.Proofs.BufferLog
import Scanout.Proofs.RingKept
import Scanout.Proofs.SurfaceCustody

namespace Scanout

namespace BufferPool

/-- The position of the entry of the buffer with a place: a slot of the ring is its own, a buffer
of the surface has the first with its number. -/
def position? (pool : BufferPool) (place : Nat) : Option Nat :=
  if pool.isSurfaceless then some place else pool.entries.findIdx? (·.id == place)

/-- The framebuffer that the buffer with a place has so far. -/
def framebufferOf (pool : BufferPool) (place : Nat) : Option FramebufferId :=
  (pool.position? place).bind pool.framebuffer?

/-- That a buffer has a place: the ring holds it there, or it has that number in the surface. -/
structure IsAt (pool : BufferPool) (place : Nat) (buffer : Buffer) : Prop where
  slot : pool.surface = none → pool.buffer? place = some buffer
  number : pool.surface ≠ none → buffer.id = place

/-- That a pool accounts for the framebuffers that were made: it has those, at most one for a
place, and no others. -/
structure Accounts (pool : BufferPool) (made : List MadeFramebuffer) : Prop where
  cached : ∀ place framebuffer, pool.framebufferOf place = some framebuffer ↔
    ∃ m ∈ made, m.place = place ∧ m.framebuffer = framebuffer
  once : (made.map (·.place)).Nodup
  all : (pool.entries.filterMap (·.framebuffer)).Perm (made.map (·.framebuffer))
  own : ∀ m ∈ made, pool.IsAt m.place m.buffer
  /-- The buffers of a ring are the pool's, those of a surface are not. -/
  owned : ∀ entry ∈ pool.entries, entry.buffer.isSome = pool.isSurfaceless

variable {pool : BufferPool} {made : List MadeFramebuffer} {place index : Nat}
  {entry : PoolEntry} {buffer : Buffer}

theorem IsAt.same_id {other : Buffer} (h : pool.IsAt place buffer) (ho : pool.IsAt place other) :
    other.id = buffer.id := by
  by_cases ring : pool.surface = none
  · rw [Option.some.inj ((ho.slot ring).symm.trans (h.slot ring))]
  · rw [ho.number ring, h.number ring]

theorem Accounts.none_iff (h : pool.Accounts made) :
    pool.framebufferOf place = none ↔ ∀ m ∈ made, m.place ≠ place := by
  constructor
  · intro none m hm same
    have found := (h.cached place m.framebuffer).mpr ⟨m, hm, same, rfl⟩
    simp [none] at found
  · intro bare
    by_contra found
    obtain ⟨framebuffer, hf⟩ := Option.ne_none_iff_exists'.mp found
    obtain ⟨m, hm, same, -⟩ := (h.cached place framebuffer).mp hf
    exact bare m hm same

theorem position?_inj {other : Nat} (h : pool.position? place = some index)
    (ho : pool.position? other = some index) : place = other := by
  unfold position? at h ho
  split at h
  next ring =>
    simp only [ring, ↓reduceIte] at ho
    exact (Option.some.inj h).trans (Option.some.inj ho).symm
  next ring =>
    simp only [ring] at ho
    obtain ⟨_, hn, -⟩ := List.findIdx?_eq_some_iff_getElem.mp h
    obtain ⟨_, hm, -⟩ := List.findIdx?_eq_some_iff_getElem.mp ho
    simp_all

theorem position?_withFramebuffer (framebuffer : FramebufferId)
    (he : pool.entries[index]? = some entry) (place : Nat) :
    (pool.withFramebuffer index entry framebuffer).position? place = pool.position? place := by
  have ids : (pool.entries.set index { entry with framebuffer := some framebuffer }).map
      PoolEntry.id = pool.entries.map PoolEntry.id := by
    rw [List.map_set]
    apply List.ext_getElem?
    grind
  have found := congrArg (List.findIdx? (· == place)) ids
  rw [List.findIdx?_map, List.findIdx?_map] at found
  have same : (pool.withFramebuffer index entry framebuffer).entries.findIdx? (·.id == place) =
      pool.entries.findIdx? (·.id == place) := found
  unfold position?
  rw [same]
  rfl

theorem framebufferOf_withFramebuffer (framebuffer : FramebufferId)
    (hp : pool.position? place = some index) (he : pool.entries[index]? = some entry)
    (other : Nat) :
    (pool.withFramebuffer index entry framebuffer).framebufferOf other =
      if other = place then some framebuffer else pool.framebufferOf other := by
  unfold framebufferOf
  rw [position?_withFramebuffer framebuffer he]
  -- No two places have one position, so only the framebuffer of `place` changes.
  by_cases same : other = place
  · subst same
    simp [hp, framebuffer?_withFramebuffer framebuffer he]
  · cases ho : pool.position? other with
    | none => simp [same]
    | some at' =>
      have apart : index ≠ at' := by
        rintro rfl
        exact same (position?_inj ho hp)
      simp [same, framebuffer?, withFramebuffer, List.getElem?_set_ne apart]

theorem perm_withFramebuffer (framebuffer : FramebufferId) (he : pool.entries[index]? = some entry)
    (bare : entry.framebuffer = none) :
    ((pool.withFramebuffer index entry framebuffer).entries.filterMap (·.framebuffer)).Perm
      (pool.entries.filterMap (·.framebuffer) ++ [framebuffer]) := by
  obtain ⟨inside, rfl⟩ := List.getElem?_eq_some_iff.mp he
  have before : pool.entries =
      pool.entries.take index ++ pool.entries[index] :: pool.entries.drop (index + 1) := by
    rw [List.getElem_cons_drop, List.take_append_drop]
  have apart : pool.entries.filterMap (·.framebuffer) =
      (pool.entries.take index).filterMap (·.framebuffer) ++
        (pool.entries.drop (index + 1)).filterMap (·.framebuffer) := by
    refine (congrArg (List.filterMap PoolEntry.framebuffer) before).trans ?_
    rw [List.filterMap_append, List.filterMap_cons_none bare]
  have after : (pool.withFramebuffer index pool.entries[index] framebuffer).entries.filterMap
        (·.framebuffer) =
      (pool.entries.take index).filterMap (·.framebuffer) ++
        framebuffer :: (pool.entries.drop (index + 1)).filterMap (·.framebuffer) := by
    unfold withFramebuffer
    rw [List.set_eq_take_cons_drop _ inside]
    simp
  rw [after, apart]
  exact List.perm_middle.trans (List.perm_append_singleton framebuffer _).symm

theorem IsAt.of_same {later : BufferPool} (h : pool.IsAt place buffer)
    (surface : later.surface = pool.surface) (buffers : later.buffer? place = pool.buffer? place) :
    later.IsAt place buffer :=
  ⟨fun ring => buffers.trans (h.slot (surface.symm.trans ring)),
    fun ring => h.number fun none => ring (surface.trans none)⟩

/-- A framebuffer that is made for a place without one is accounted for. -/
theorem Accounts.withFramebuffer (h : pool.Accounts made) (framebuffer : FramebufferId)
    (hp : pool.position? place = some index) (he : pool.entries[index]? = some entry)
    (bare : entry.framebuffer = none) (at' : pool.IsAt place buffer) :
    (pool.withFramebuffer index entry framebuffer).Accounts
      (made ++ [⟨place, buffer, framebuffer⟩]) := by
  have lacking : pool.framebufferOf place = none := by
    simp [framebufferOf, hp, framebuffer?, he, bare]
  have unmade := h.none_iff.mp lacking
  have kept := buffer?_withFramebuffer framebuffer he
  refine ⟨?_, ?_, ?_, ?_, ?_⟩
  · intro other found
    have either : (∃ m ∈ made ++ [⟨place, buffer, framebuffer⟩],
        m.place = other ∧ m.framebuffer = found) ↔
          (∃ m ∈ made, m.place = other ∧ m.framebuffer = found) ∨
            (place = other ∧ framebuffer = found) := by
      simp [or_and_right, exists_or]
    rw [either, ← h.cached other found, framebufferOf_withFramebuffer framebuffer hp he]
    by_cases same : other = place
    · simp [same, lacking]
    · simp [same, Ne.symm same]
  · rw [List.map_append]
    refine List.nodup_append.mpr ⟨h.once, by simp, ?_⟩
    simpa using fun m hm => unmade m hm
  · rw [List.map_append]
    exact (perm_withFramebuffer framebuffer he bare).trans (h.all.append_right _)
  · intro m hm
    rcases List.mem_append.mp hm with hm | hm
    · exact (h.own m hm).of_same rfl (kept m.place)
    · rw [List.mem_singleton.mp hm]
      exact at'.of_same rfl (kept place)
  · intro x hx
    rcases List.mem_or_eq_of_mem_set hx with hx | rfl
    · exact h.owned x hx
    · exact h.owned entry (List.mem_of_getElem? he)

/-- The entry of a buffer of the surface is where its number is looked up. -/
theorem entryFor_position {wider : BufferPool} (h : pool.entryFor buffer = (index, entry, wider)) :
    wider.entries.findIdx? (·.id == buffer.id) = some index ∧
      wider.entries[index]? = some entry := by
  unfold entryFor at h
  split at h
  next hf =>
    obtain ⟨rfl, rfl, rfl⟩ := by simpa using h
    obtain ⟨inside, -⟩ := List.findIdx?_eq_some_iff_getElem.mp hf
    exact ⟨hf, by simp [inside]⟩
  next hf =>
    obtain ⟨rfl, rfl, rfl⟩ := by simpa using h
    exact ⟨by simp [List.findIdx?_append, hf], by simp⟩

theorem framebufferOf_wider {wider : BufferPool} {surface : Surface}
    (hs : pool.surface = some surface) (h : pool.entryFor buffer = (index, entry, wider))
    (place : Nat) : wider.framebufferOf place = pool.framebufferOf place := by
  rcases entryFor_cases h with ⟨rfl, -, -⟩ | ⟨rfl, rfl, rfl, -⟩
  · rfl
  -- A new entry stands behind all others, and has no framebuffer yet.
  · simp only [framebufferOf, position?, isSurfaceless, hs, List.findIdx?_append]
    cases hf : pool.entries.findIdx? (·.id == place) with
    | none =>
      by_cases same : buffer.id = place <;> simp [same, framebuffer?]
    | some found =>
      obtain ⟨inside, -⟩ := List.findIdx?_eq_some_iff_getElem.mp hf
      simp [framebuffer?, inside, List.getElem?_append_left inside]

theorem Accounts.wider {wider : BufferPool} {surface : Surface} (h : pool.Accounts made)
    (hs : pool.surface = some surface) (he : pool.entryFor buffer = (index, entry, wider)) :
    wider.Accounts made := by
  have same := framebufferOf_wider hs he
  rcases entryFor_cases he with ⟨rfl, -, -⟩ | ⟨rfl, -, rfl, -⟩
  · exact h
  · refine ⟨?_, h.once, ?_, ?_, ?_⟩
    · intro place framebuffer
      rw [same]
      exact h.cached place framebuffer
    · simpa using h.all
    · intro m hm
      have own := h.own m hm
      exact ⟨fun ring => by simp [hs] at ring, own.number⟩
    · intro x hx
      rcases List.mem_append.mp hx with hx | hx
      · exact h.owned x hx
      · rw [List.mem_singleton.mp hx]
        simp [isSurfaceless, hs]

/-- Getting the framebuffer of a buffer at a place: the one that was made for it, or a new one if
none was. -/
inductive MakingRecord (made : List MadeFramebuffer) (place : Nat) (buffer : Buffer) :
    Option FramebufferId → List MadeFramebuffer → List Exchange → Prop
  | reused {m : MadeFramebuffer} : m ∈ made → m.place = place →
      MakingRecord made place buffer (some m.framebuffer) made []
  | failed {e : DisplayError} {added : List Exchange} : (∀ m ∈ made, m.place ≠ place) →
      FramebufferRecord buffer.layout (.error e) added →
      MakingRecord made place buffer none made added
  | made {framebuffer : FramebufferId} {added : List Exchange} : (∀ m ∈ made, m.place ≠ place) →
      FramebufferRecord buffer.layout (.ok framebuffer) added →
      MakingRecord made place buffer (some framebuffer) (made ++ [⟨place, buffer, framebuffer⟩])
        added

theorem EnsureRecord.making {result : Except DisplayError FramebufferId × BufferPool}
    {added : List Exchange} (h : pool.EnsureRecord index entry buffer result added)
    (accounts : pool.Accounts made) (hp : pool.position? place = some index)
    (he : pool.entries[index]? = some entry) (at' : pool.IsAt place buffer) :
    ∃ later, MakingRecord made place buffer result.1.toOption later added ∧
      result.2.Accounts later := by
  have known : pool.framebufferOf place = entry.framebuffer := by
    simp [framebufferOf, hp, framebuffer?, he]
  cases h with
  | @cached framebuffer found =>
    obtain ⟨m, hm, same, rfl⟩ := (accounts.cached place framebuffer).mp (known.trans found)
    exact ⟨made, .reused hm same, accounts⟩
  | failed bare hf => exact ⟨made, .failed (accounts.none_iff.mp (known.trans bare)) hf, accounts⟩
  | @created framebuffer _ bare hf =>
    exact ⟨_, .made (accounts.none_iff.mp (known.trans bare)) hf,
      accounts.withFramebuffer framebuffer hp he bare at'⟩

theorem EnsureRecord.making_slot {slot : Nat}
    {result : Except DisplayError FramebufferId × BufferPool} {added : List Exchange}
    (h : pool.EnsureRecord slot entry buffer result added) (accounts : pool.Accounts made)
    (hs : pool.surface = none) (he : pool.entries[slot]? = some entry)
    (hb : entry.buffer = some buffer) :
    pool.IsAt slot buffer ∧ ∃ later, MakingRecord made slot buffer result.1.toOption later added ∧
      result.2.Accounts later := by
  have at' : pool.IsAt slot buffer :=
    ⟨fun _ => buffer?_of_entry he hb, fun surfaced => absurd hs surfaced⟩
  have hp : pool.position? slot = some slot := by simp [position?, isSurfaceless, hs]
  exact ⟨at', h.making accounts hp he at'⟩

theorem EnsureRecord.making_taken {wider : BufferPool} {surface : Surface}
    {result : Except DisplayError FramebufferId × BufferPool} {added : List Exchange}
    (h : wider.EnsureRecord index entry buffer result added) (accounts : pool.Accounts made)
    (hs : pool.surface = some surface) (he : pool.entryFor buffer = (index, entry, wider)) :
    pool.IsAt buffer.id buffer ∧
      ∃ later, MakingRecord made buffer.id buffer result.1.toOption later added ∧
        result.2.Accounts later := by
  have same : wider.surface = some surface := (entryFor_surface he).trans hs
  obtain ⟨found, there⟩ := entryFor_position he
  have hp : wider.position? buffer.id = some index := by
    simpa [position?, isSurfaceless, same] using found
  have at' : wider.IsAt buffer.id buffer := ⟨fun ring => by simp [same] at ring, fun _ => rfl⟩
  exact ⟨⟨fun ring => by simp [hs] at ring, fun _ => rfl⟩,
    h.making (accounts.wider hs he) hp there at'⟩

end BufferPool

namespace Pipeline

open BufferPool (MakingRecord)

/-- What drawing a frame does to the framebuffers: nothing, if it comes to no buffer to show, or it
gets that of its buffer. -/
inductive PresentRecord (pool : BufferPool) (made : List MadeFramebuffer) :
    Option FramebufferId → List MadeFramebuffer → List Exchange → Prop
  | nothing {added : List Exchange} : (∀ e ∈ added, e.isAside) →
      PresentRecord pool made none made added
  | buffer {place : Nat} {buffer : Buffer} {result : Option FramebufferId}
      {later : List MadeFramebuffer} {e : Exchange} {before making after : List Exchange} :
      (∀ x ∈ before, x.isAside) → e.presents? = some (place, buffer) →
      MakingRecord made place buffer result later making → pool.IsAt place buffer →
      (∀ x ∈ after, x.isAside) →
      PresentRecord pool made result later (before ++ e :: (making ++ after))

theorem DrawRecord.presents {pool : BufferPool} {made : List MadeFramebuffer} {frame : Nat}
    {result : Except DisplayError Drawn × BufferPool} {added : List Exchange}
    (h : DrawRecord pool frame result added) (accounts : pool.Accounts made) :
    ∃ later, PresentRecord pool made (result.1.toOption.map Drawn.framebuffer) later added ∧
      result.2.Accounts later := by
  cases h with
  | slotEmpty => exact ⟨made, .nothing (by simp [Exchange.isAside]), accounts⟩
  | slotUndrawn => exact ⟨made, .nothing (by simp [Exchange.isAside]), accounts⟩
  | slotUnframed fence hs he hb hr =>
    obtain ⟨at', later, making, still⟩ := hr.making_slot accounts hs he hb
    have given : ∀ x ∈ [Exchange.closed fence], x.isAside := by simp [Exchange.isAside]
    exact ⟨later, .buffer (List.forall_mem_nil _) rfl making at' given, still⟩
  | slotDrawn fence hs he hb hr =>
    obtain ⟨at', later, making, still⟩ := hr.making_slot accounts hs he hb
    have presents := PresentRecord.buffer (e := .rendered (.slot _ _) frame (.ok fence))
      (List.forall_mem_nil _) rfl making at' (List.forall_mem_nil _)
    rw [List.append_nil] at presents
    exact ⟨later, presents, still⟩
  | surfaceUndrawn => exact ⟨made, .nothing (by simp [Exchange.isAside]), accounts⟩
  | surfaceUnlocked => exact ⟨made, .nothing (by simp [Exchange.isAside]), accounts⟩
  | @surfaceUnframed surface buffer _ _ _ _ _ _ fence hs he hr =>
    obtain ⟨at', later, making, still⟩ := hr.making_taken accounts hs he
    have drawn : (Exchange.rendered (.surface surface) frame (.ok fence)).isAside := rfl
    have given : ∀ x ∈ [Exchange.released buffer, .closed fence], x.isAside := by
      simp [Exchange.isAside]
    have presents := PresentRecord.buffer (e := .locked surface (.ok buffer))
      (List.forall_mem_singleton.mpr drawn) rfl making at' given
    exact ⟨later, presents, still⟩
  | @surfaceDrawn surface buffer _ _ _ _ _ _ fence hs he hr =>
    obtain ⟨at', later, making, still⟩ := hr.making_taken accounts hs he
    have drawn : (Exchange.rendered (.surface surface) frame (.ok fence)).isAside := rfl
    have presents := PresentRecord.buffer (e := .locked surface (.ok buffer))
      (List.forall_mem_singleton.mpr drawn) rfl making at' (List.forall_mem_nil _)
    rw [List.append_nil] at presents
    exact ⟨later, presents, still⟩

end Pipeline

end Scanout
