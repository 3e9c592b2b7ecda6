import Scanout.Proofs.Custody

namespace Scanout

open Custody (givenIn_idle held_give held_idle held_perm held_skipAll held_take held_trans
  takenIn_idle)

/-- The buffers that an allocator hands out one by one. -/
def ringBuffers : Custody Buffer where
  taken?
    | .allocated _ _ (.ok buffer) => some buffer
    | _ => none
  given?
    | .freed buffer => some buffer
    | _ => none

def surfaces : Custody Surface where
  taken?
    | .surfaceCreated _ _ (.ok surface) => some surface
    | _ => none
  given?
    | .surfaceDropped surface => some surface
    | _ => none

/-- What a call for a buffer or a surface asks for. -/
def Exchange.spec? : Exchange → Option BufferSpec
  | allocated spec _ _ | surfaceCreated spec _ _ => some spec
  | _ => none

section Placing

variable {α : Type} {exchange : Placement → Except CallError α → Exchange} {spec : BufferSpec}
  {modifier : Modifier} {events : List Exchange} {c : Custody α}

/-- That the attempts at a kind of thing hand it out when they succeed, and give nothing back. -/
structure Custody.HandsOut (c : Custody α)
    (exchange : Placement → Except CallError α → Exchange) : Prop where
  taken : ∀ placement answer, c.taken? (exchange placement answer) = answer.toOption
  given : ∀ placement answer, c.given? (exchange placement answer) = none

theorem ringBuffers_handsOut (spec : BufferSpec) : ringBuffers.HandsOut (.allocated spec) where
  taken _ answer := by cases answer <;> rfl
  given _ _ := rfl

theorem surfaces_handsOut (spec : BufferSpec) : surfaces.HandsOut (.surfaceCreated spec) where
  taken _ answer := by cases answer <;> rfl
  given _ _ := rfl

theorem Custody.HandsOut.refused (h : c.HandsOut exchange) (placement : Placement)
    (cause : CallError) : c.Idle (exchange placement (.error cause)) :=
  ⟨h.taken placement (.error cause), h.given placement (.error cause)⟩

theorem PlaceRecord.idle {e : DisplayError} (ho : c.HandsOut exchange)
    (h : PlaceRecord exchange spec modifier (.error e) events) : ∀ x ∈ events, c.Idle x := by
  cases h with
  | refused cause _ => simpa using ho.refused (.explicit modifier) cause
  | failed cause later =>
    simpa using ⟨ho.refused (.explicit .linear) cause, ho.refused (.implicit scanoutUsage) later⟩

/-- What was obtained came last. -/
theorem PlaceRecord.takes {item : α} (ho : c.HandsOut exchange)
    (h : PlaceRecord exchange spec modifier (.ok item) events) :
    ∃ refused x, events = refused ++ [x] ∧ (∀ y ∈ refused, c.Idle y) ∧
      c.taken? x = some item ∧ c.given? x = none := by
  cases h with
  | placed =>
    exact ⟨[], _, rfl, by simp, ho.taken (.explicit modifier) (.ok item),
      ho.given (.explicit modifier) (.ok item)⟩
  | fellBack cause =>
    exact ⟨[_], _, rfl, by simpa using ho.refused (.explicit .linear) cause,
      ho.taken (.implicit scanoutUsage) (.ok item), ho.given (.implicit scanoutUsage) (.ok item)⟩

theorem PlaceRecord.takenIn {item : α} (ho : c.HandsOut exchange)
    (h : PlaceRecord exchange spec modifier (.ok item) events) : c.takenIn events = [item] := by
  obtain ⟨refused, x, rfl, idle, taken, -⟩ := h.takes ho
  rw [Custody.takenIn_append, takenIn_idle idle]
  simp [Custody.takenIn, taken]

theorem PlaceRecord.givenIn {item : α} (ho : c.HandsOut exchange)
    (h : PlaceRecord exchange spec modifier (.ok item) events) : c.givenIn events = [] := by
  obtain ⟨refused, x, rfl, idle, -, kept⟩ := h.takes ho
  rw [Custody.givenIn_append, givenIn_idle idle]
  simp [Custody.givenIn, kept]

theorem PlaceRecord.held [DecidableEq α] {item : α} (ho : c.HandsOut exchange) (start : List α)
    (h : PlaceRecord exchange spec modifier (.ok item) events) :
    c.held start events = some (item :: start) := by
  obtain ⟨refused, x, rfl, idle, taken, kept⟩ := h.takes ho
  exact held_skipAll idle (held_take taken kept rfl)

end Placing

theorem held_freed (buffers : List Buffer) :
    ringBuffers.held buffers (buffers.map .freed) = some [] := by
  induction buffers with
  | nil => rfl
  | cons buffer rest ih => exact held_give rfl rfl ih

section Ring

variable {spec : BufferSpec} {modifier : Modifier} {count : Nat} {buffers : List Buffer}
  {events : List Exchange}

/-- An allocation that fails halfway frees what it had come to, each buffer once. -/
theorem RingRecord.emptied {e : DisplayError} {start : List Buffer}
    (h : RingRecord spec modifier count buffers (.error e) events)
    (same : buffers.Perm start) : ringBuffers.held start events = some [] := by
  -- A buffer comes to the end of the ring and to the head of what is held, so the two agree only
  -- up to their order.
  generalize hr : Except.error e = result at h
  induction h generalizing start with
  | done => cases hr
  | @failed _ buffers _ placing unplaced =>
    obtain ⟨left, freed, none⟩ := held_perm same (held_freed buffers)
    obtain rfl := List.nil_perm.mp none
    exact held_skipAll (unplaced.idle (ringBuffers_handsOut spec)) freed
  | @placed _ buffers buffer _ _ _ placing _ ih =>
    have more : (buffers ++ [buffer]).Perm (buffer :: start) :=
      (List.perm_append_singleton buffer buffers).trans (same.cons buffer)
    exact held_trans (placing.held (ringBuffers_handsOut spec) start) (ih more hr)

/-- A finished ring consists of what it began with and what was handed out since. -/
theorem RingRecord.takenIn {ring : List Buffer}
    (h : RingRecord spec modifier count buffers (.ok ring) events) :
    ring = buffers ++ ringBuffers.takenIn events ∧ ringBuffers.givenIn events = [] := by
  generalize hr : Except.ok ring = result at h
  induction h with
  | done =>
    cases hr
    simp [Custody.takenIn, Custody.givenIn]
  | failed => cases hr
  | placed placing _ ih =>
    obtain ⟨whole, kept⟩ := ih hr
    have ho := ringBuffers_handsOut spec
    exact ⟨by simp [whole, placing.takenIn ho], by simp [kept, placing.givenIn ho]⟩

end Ring

theorem RingRecord.surfaces_idle {spec : BufferSpec} {modifier : Modifier} {count : Nat}
    {buffers : List Buffer} {result : Except DisplayError (List Buffer)} {events : List Exchange}
    (h : RingRecord spec modifier count buffers result events) :
    ∀ x ∈ events, surfaces.Idle x := by
  intro x hx
  obtain ⟨_, _, rfl⟩ | ⟨_, rfl⟩ := h.calls x hx <;> exact ⟨rfl, rfl⟩

theorem PlaceRecord.buffers_idle {spec : BufferSpec} {modifier : Modifier}
    {result : Except DisplayError Surface} {events : List Exchange}
    (h : PlaceRecord (.surfaceCreated spec) spec modifier result events) :
    ∀ x ∈ events, ringBuffers.Idle x := by
  intro x hx
  obtain ⟨_, _, rfl⟩ := h.attempts x hx
  exact ⟨rfl, rfl⟩

/-- That a call neither asks for a buffer or a surface nor gives one up. -/
structure Exchange.Preparatory (x : Exchange) : Prop where
  buffers : ringBuffers.Idle x
  surfaces : surfaces.Idle x
  unspecified : x.spec? = none

theorem Exchange.Preparatory.ofQuery {x : Exchange} (h : x.isQuery) : x.Preparatory := by
  cases x <;> first | exact ⟨⟨rfl, rfl⟩, ⟨rfl, rfl⟩, rfl⟩ | cases h

theorem EnableRecord.preparatory {result : Except DisplayError Unit} {events : List Exchange}
    (h : EnableRecord result events) : ∀ x ∈ events, x.Preparatory := by
  have told (capability : Capability) (answer : Except CallError Unit) :
      (Exchange.enabled capability answer).Preparatory := ⟨⟨rfl, rfl⟩, ⟨rfl, rfl⟩, rfl⟩
  cases h <;> simp [told]

theorem SelectionRecord.preparatory {σ : Type} [World σ] {device : Device σ} {options : Options}
    {result : Except DisplayError Topology} {events : List Exchange}
    (h : SelectionRecord device options result events) : ∀ x ∈ events, x.Preparatory :=
  fun x hx => .ofQuery (h.asked x hx)

theorem TablesRecord.preparatory {topology : Topology} {result : Except DisplayError PropertyCache}
    {events : List Exchange} (h : TablesRecord topology result events) :
    ∀ x ∈ events, x.Preparatory :=
  fun x hx => .ofQuery (h.isQuery x hx)

/-- What was handed out for a display path, and is its own: two buffers in a ring, or a surface. -/
inductive Allotment (options : Options) : BufferPool → List Exchange → Prop
  | ring {first second : Buffer} {events : List Exchange} : options.surfaceless = true →
      ringBuffers.takenIn events = [first, second] → surfaces.takenIn events = [] →
      Allotment options ⟨[⟨first.id, some first, none⟩, ⟨second.id, some second, none⟩], none⟩
        events
  | surface {surface : Surface} {events : List Exchange} : options.surfaceless = false →
      ringBuffers.takenIn events = [] → surfaces.takenIn events = [surface] →
      Allotment options ⟨[], some surface⟩ events

theorem Allotment.after {options : Options} {pool : BufferPool} {before events : List Exchange}
    (hb : ∀ x ∈ before, x.Preparatory) (h : Allotment options pool events) :
    Allotment options pool (before ++ events) := by
  have buffers := takenIn_idle fun x hx => (hb x hx).buffers
  have none := takenIn_idle fun x hx => (hb x hx).surfaces
  cases h with
  | ring surfaceless taken unsurfaced =>
    exact .ring surfaceless (by simp [buffers, taken]) (by simp [none, unsurfaced])
  | surface surfaced untaken created =>
    exact .surface surfaced (by simp [buffers, untaken]) (by simp [none, created])

section Pool

variable {topology : Topology} {options : Options} {events : List Exchange}

/-- Every buffer and surface is asked for with the size of the mode and the wanted format. -/
theorem PoolRecord.sized {result : Except DisplayError BufferPool} {spec : BufferSpec}
    (h : PoolRecord topology options result events) {x : Exchange} (hx : x ∈ events)
    (asked : x.spec? = some spec) : spec = topology.spec options := by
  obtain ⟨_, _, rfl⟩ | ⟨_, _, rfl⟩ | ⟨_, rfl⟩ := h.calls x hx
  · exact (Option.some.inj asked).symm
  · exact (Option.some.inj asked).symm
  · cases asked

theorem PoolRecord.emptied {e : DisplayError} (h : PoolRecord topology options (.error e) events) :
    ringBuffers.held [] events = some [] ∧ surfaces.takenIn events = [] := by
  cases h with
  | ringless _ ring =>
    exact ⟨ring.emptied List.Perm.nil, takenIn_idle ring.surfaces_idle⟩
  | unsurfaced _ surface =>
    exact ⟨held_idle surface.buffers_idle, takenIn_idle (surface.idle (surfaces_handsOut _))⟩

theorem PoolRecord.allotment {pool : BufferPool}
    (h : PoolRecord topology options (.ok pool) events) :
    Allotment options pool events ∧ ringBuffers.givenIn events = [] ∧
      surfaces.givenIn events = [] := by
  cases h with
  | @ring buffers _ surfaceless ring =>
    obtain ⟨whole, kept⟩ := ring.takenIn
    obtain ⟨first, second, rfl⟩ := List.length_eq_two.mp ring.length
    exact ⟨.ring surfaceless whole.symm (takenIn_idle ring.surfaces_idle), kept,
      givenIn_idle ring.surfaces_idle⟩
  | @surface surface _ surfaced placing =>
    have ho := surfaces_handsOut (topology.spec options)
    exact ⟨.surface surfaced (takenIn_idle placing.buffers_idle) (placing.takenIn ho),
      givenIn_idle placing.buffers_idle, placing.givenIn ho⟩

end Pool

section SetUp

variable {σ : Type} [World σ] {device : Device σ} {options : Options} {events : List Exchange}

theorem PlaceRecord.error {α : Type} {exchange : Placement → Except CallError α → Exchange}
    {spec : BufferSpec} {modifier : Modifier} {e : DisplayError}
    (h : PlaceRecord exchange spec modifier (.error e) events) :
    (∃ cause, e = .modifierUnsupported spec.format modifier cause) ∨
      ∃ cause, e = .bufferAllocationFailed spec.width spec.height spec.format cause := by
  cases h with
  | refused cause _ => exact .inl ⟨cause, rfl⟩
  | failed _ later => exact .inr ⟨later, rfl⟩

theorem RingRecord.error {spec : BufferSpec} {modifier : Modifier} {count : Nat}
    {buffers : List Buffer} {e : DisplayError}
    (h : RingRecord spec modifier count buffers (.error e) events) :
    (∃ cause, e = .modifierUnsupported spec.format modifier cause) ∨
      ∃ cause, e = .bufferAllocationFailed spec.width spec.height spec.format cause := by
  generalize hr : Except.error e = result at h
  induction h with
  | done => cases hr
  | failed placing =>
    cases hr
    exact placing.error
  | placed _ _ ih => exact ih hr

theorem PoolRecord.error {topology : Topology} {e : DisplayError}
    (h : PoolRecord topology options (.error e) events) :
    (∃ cause, e = .modifierUnsupported options.format options.modifier cause) ∨
      ∃ cause, e = .bufferAllocationFailed topology.size.1 topology.size.2 options.format
        cause := by
  cases h with
  | ringless _ ring => exact ring.error
  | unsurfaced _ surface => exact surface.error

theorem TablesRecord.error {topology : Topology} {e : DisplayError}
    (h : TablesRecord topology (.error e) events) :
    ∃ object cause, e = .propertyQueryFailed object cause := by
  have ofTable {object : DisplayObject} {reading : List Exchange}
      (h : TableRecord object (.error e) reading) :
      ∃ object cause, e = .propertyQueryFailed object cause := by
    cases h with
    | unlisted cause => exact ⟨object, cause, rfl⟩
  cases h with
  | connectorUnread first => exact ofTable first
  | crtcUnread _ second => exact ofTable second
  | planeUnread _ _ third => exact ofTable third

theorem preparatory_before_allocating {topology : Topology} {tables : PropertyCache}
    {enabling selecting reading : List Exchange} (henabling : EnableRecord (.ok ()) enabling)
    (hselecting : SelectionRecord device options (.ok topology) selecting)
    (hreading : TablesRecord topology (.ok tables) reading) :
    ∀ x ∈ enabling ++ selecting ++ reading, x.Preparatory := by
  simp only [List.forall_mem_append]
  exact ⟨⟨henabling.preparatory, hselecting.preparatory⟩, hreading.preparatory⟩

/-- What a display path is set up with: buffers or a surface of the right size and format, nothing
shown and nothing pending. -/
structure SetUpDone (device : Device σ) (options : Options) (p : Pipeline)
    (events : List Exchange) : Prop where
  stages : SetUpRecord device options (.ok p) events
  allotment : Allotment options p.pool events
  kept : ringBuffers.givenIn events = [] ∧ surfaces.givenIn events = []
  sized : ∀ x ∈ events, ∀ spec, x.spec? = some spec →
    spec = ⟨p.topology.size.1, p.topology.size.2, options.format⟩
  idle : p.pendingFlip = none ∧ p.onScreen = none

theorem SetUpRecord.emptied {e : DisplayError} (h : SetUpRecord device options (.error e) events) :
    ringBuffers.held [] events = some [] ∧ surfaces.takenIn events = [] := by
  have untouched {events : List Exchange} (h : ∀ x ∈ events, x.Preparatory) :
      ringBuffers.held [] events = some [] ∧ surfaces.takenIn events = [] :=
    ⟨held_idle fun x hx => (h x hx).buffers, takenIn_idle fun x hx => (h x hx).surfaces⟩
  cases h with
  | incapable enabling => exact untouched enabling.preparatory
  | unselected enabling selecting =>
    exact untouched (List.forall_mem_append.mpr ⟨enabling.preparatory, selecting.preparatory⟩)
  | unread enabling selecting reading =>
    refine untouched ?_
    simp only [List.forall_mem_append]
    exact ⟨enabling.preparatory, selecting.preparatory, reading.preparatory⟩
  | unallocated enabling selecting reading allocating =>
    obtain ⟨empty, none⟩ := untouched (preparatory_before_allocating enabling selecting reading)
    obtain ⟨freed, unsurfaced⟩ := allocating.emptied
    simp only [← List.append_assoc]
    exact ⟨held_trans empty freed, by rw [Custody.takenIn_append, none, unsurfaced]; rfl⟩

theorem SetUpRecord.done {p : Pipeline} (h : SetUpRecord device options (.ok p) events) :
    SetUpDone device options p events := by
  have stages := h
  cases h with
  | ready enabling selecting reading allocating =>
    have before := preparatory_before_allocating enabling selecting reading
    obtain ⟨allotment, kept, unsurfaced⟩ := allocating.allotment
    simp only [← List.append_assoc] at stages ⊢
    refine ⟨stages, allotment.after before, ?_, ?_, rfl, rfl⟩
    · simp only [Custody.givenIn_append _ (_ ++ _ ++ _), kept, unsurfaced, List.append_nil]
      exact ⟨givenIn_idle fun x hx => (before x hx).buffers,
        givenIn_idle fun x hx => (before x hx).surfaces⟩
    · intro x hx spec asked
      rcases List.mem_append.mp hx with early | hx
      · simp [(before x early).unspecified] at asked
      · exact allocating.sized hx asked

/-- Setting a display path up, with everything written down. -/
def recordSetUp (device : Device σ) (allocator : Allocator σ) (options : Options) (world : σ) :
    Except DisplayError Pipeline × Recorded σ :=
  Pipeline.setUp device.recorded allocator.recorded options ⟨world, []⟩

/-- Writing everything down changes neither what is set up nor the world that is left. -/
theorem recordSetUp_eq_setUp (device : Device σ) (allocator : Allocator σ) (options : Options)
    (world : σ) :
    ((recordSetUp device allocator options world).1,
        (recordSetUp device allocator options world).2.world) =
      Pipeline.setUp device allocator options world :=
  ((records_setUp device allocator options).fresh world).1

end SetUp

end Scanout
