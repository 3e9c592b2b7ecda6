import Scanout.Proofs.SelectionRecord

namespace Scanout

variable {σ α : Type}

/-- That an act, done in some world, gave a result and added this to the transcript. -/
def Performs (act : Act (Recorded σ) α) (a : α) (added : List Exchange) : Prop :=
  ∃ r s, act r = (a, s) ∧ s.transcript = r.transcript ++ added

theorem Records.performs {act : Act (Recorded σ) α} {plain : Act σ α}
    {R : α → List Exchange → Prop} (h : Records act plain R) :
    Records act plain fun a added => Performs act a added ∧ R a added := by
  intro r
  obtain ⟨added, given, hr⟩ := h r
  exact ⟨added, given, ⟨r, _, given, rfl⟩, hr⟩

/-- Telling a device what its user understands. Only that it cannot commit atomically matters. -/
inductive EnableRecord : Except DisplayError Unit → List Exchange → Prop
  | enabled (universal : Except CallError Unit) :
      EnableRecord (.ok ()) [.enabled .universalPlanes universal, .enabled .atomic (.ok ())]
  | refused (universal : Except CallError Unit) (cause : CallError) :
      EnableRecord (.error (.atomicUnsupported cause))
        [.enabled .universalPlanes universal, .enabled .atomic (.error cause)]

/-- Choosing an output, which only asks. -/
structure SelectionRecord [World σ] (device : Device σ) (options : Options)
    (result : Except DisplayError Topology) (events : List Exchange) : Prop where
  performed : Performs (selectOutput device.recorded options.mode options.refresh) result events
  asked : ∀ x ∈ events, x.isQuery
  failure : ∀ e, result = .error e → e.ofSelection

/-- Obtaining something to draw into: as wanted, or after the linear layout was refused in the
driver's own. -/
inductive PlaceRecord (exchange : Placement → Except CallError α → Exchange) (spec : BufferSpec) :
    Modifier → Except DisplayError α → List Exchange → Prop
  | placed (modifier : Modifier) (item : α) : PlaceRecord exchange spec modifier (.ok item)
      [exchange (.explicit modifier) (.ok item)]
  | refused {modifier : Modifier} (cause : CallError) : modifier ≠ .linear →
      PlaceRecord exchange spec modifier
        (.error (.modifierUnsupported spec.format modifier cause))
        [exchange (.explicit modifier) (.error cause)]
  | fellBack (cause : CallError) (item : α) : PlaceRecord exchange spec .linear (.ok item)
      [exchange (.explicit .linear) (.error cause), exchange (.implicit scanoutUsage) (.ok item)]
  | failed (cause later : CallError) : PlaceRecord exchange spec .linear
      (.error (.bufferAllocationFailed spec.width spec.height spec.format later))
      [exchange (.explicit .linear) (.error cause),
        exchange (.implicit scanoutUsage) (.error later)]

/-- Allocating so many more buffers. When one fails, those before it are freed. -/
inductive RingRecord (spec : BufferSpec) (modifier : Modifier) :
    Nat → List Buffer → Except DisplayError (List Buffer) → List Exchange → Prop
  | done {buffers : List Buffer} : RingRecord spec modifier 0 buffers (.ok buffers) []
  | failed {count : Nat} {buffers : List Buffer} {e : DisplayError} {placing : List Exchange} :
      PlaceRecord (.allocated spec) spec modifier (.error e) placing →
      RingRecord spec modifier (count + 1) buffers (.error e) (placing ++ buffers.map .freed)
  | placed {count : Nat} {buffers : List Buffer} {buffer : Buffer}
      {result : Except DisplayError (List Buffer)} {placing later : List Exchange} :
      PlaceRecord (.allocated spec) spec modifier (.ok buffer) placing →
      RingRecord spec modifier count (buffers ++ [buffer]) result later →
      RingRecord spec modifier (count + 1) buffers result (placing ++ later)

/-- What the buffers of an output are like. -/
def Topology.spec (topology : Topology) (options : Options) : BufferSpec :=
  ⟨topology.size.1, topology.size.2, options.format⟩

/-- Allocating what the frames of a display path are drawn into: a ring, or a surface. -/
inductive PoolRecord (topology : Topology) (options : Options) :
    Except DisplayError BufferPool → List Exchange → Prop
  | ringless {e : DisplayError} {events : List Exchange} : options.surfaceless = true →
      RingRecord (topology.spec options) options.modifier Pipeline.ringSize [] (.error e) events →
      PoolRecord topology options (.error e) events
  | ring {buffers : List Buffer} {events : List Exchange} : options.surfaceless = true →
      RingRecord (topology.spec options) options.modifier Pipeline.ringSize [] (.ok buffers)
        events →
      PoolRecord topology options (.ok ⟨buffers.map fun b => ⟨b.id, some b, none⟩, none⟩) events
  | unsurfaced {e : DisplayError} {events : List Exchange} : options.surfaceless = false →
      PlaceRecord (.surfaceCreated (topology.spec options)) (topology.spec options)
        options.modifier (.error e) events →
      PoolRecord topology options (.error e) events
  | surface {surface : Surface} {events : List Exchange} : options.surfaceless = false →
      PlaceRecord (.surfaceCreated (topology.spec options)) (topology.spec options)
        options.modifier (.ok surface) events →
      PoolRecord topology options (.ok ⟨[], some surface⟩) events

/-- A display path whose parts are there, before its first frame. -/
def Pipeline.begun (topology : Topology) (tables : PropertyCache) (pool : BufferPool)
    (time : Nat) : Pipeline :=
  { topology, tables, pool, onScreen := none, pendingFlip := none, allowModeset := true,
    frame := 0, throughput := .begin time }

/-- Setting a display path up: its stages one after the other, as far as none of them fails. -/
inductive SetUpRecord [World σ] (device : Device σ) (options : Options) :
    Except DisplayError Pipeline → List Exchange → Prop
  | incapable {e : DisplayError} {enabling : List Exchange} :
      EnableRecord (.error e) enabling → SetUpRecord device options (.error e) enabling
  | unselected {e : DisplayError} {enabling selecting : List Exchange} :
      EnableRecord (.ok ()) enabling → SelectionRecord device options (.error e) selecting →
      SetUpRecord device options (.error e) (enabling ++ selecting)
  | unread {topology : Topology} {e : DisplayError} {enabling selecting reading : List Exchange} :
      EnableRecord (.ok ()) enabling → SelectionRecord device options (.ok topology) selecting →
      TablesRecord topology (.error e) reading →
      SetUpRecord device options (.error e) (enabling ++ (selecting ++ reading))
  | unallocated {topology : Topology} {tables : PropertyCache} {e : DisplayError}
      {enabling selecting reading allocating : List Exchange} :
      EnableRecord (.ok ()) enabling → SelectionRecord device options (.ok topology) selecting →
      TablesRecord topology (.ok tables) reading →
      PoolRecord topology options (.error e) allocating →
      SetUpRecord device options (.error e) (enabling ++ (selecting ++ (reading ++ allocating)))
  | ready {topology : Topology} {tables : PropertyCache} {pool : BufferPool} {time : Nat}
      {enabling selecting reading allocating : List Exchange} :
      EnableRecord (.ok ()) enabling → SelectionRecord device options (.ok topology) selecting →
      TablesRecord topology (.ok tables) reading →
      PoolRecord topology options (.ok pool) allocating →
      SetUpRecord device options (.ok (.begun topology tables pool time))
        (enabling ++ (selecting ++ (reading ++ allocating)))

section Records

variable [World σ]

theorem records_enableCapabilities (device : Device σ) :
    Records (Pipeline.enableCapabilities device.recorded) (Pipeline.enableCapabilities device)
      EnableRecord := by
  refine records_then (records_watch _ _) ?_
  intro universal
  cases universal with
  | error cause =>
    refine records_then (records_note _) fun _ => ?_
    refine records_then (records_watch _ _) ?_
    rintro (cause | _)
    · exact records_pure (.refused _ _)
    · exact records_pure (.enabled _)
  | ok _ =>
    refine records_then (records_watch _ _) ?_
    rintro (cause | _)
    · exact records_pure (.refused _ _)
    · exact records_pure (.enabled _)

theorem records_selectOutput (device : Device σ) (options : Options) :
    Records (selectOutput device.recorded options.mode options.refresh)
      (selectOutput device options.mode options.refresh) (SelectionRecord device options) := by
  have selects : Records (selectOutput device.recorded options.mode options.refresh)
      (selectOutput device options.mode options.refresh)
      (fun result added => (∀ x ∈ added, x.isQuery) ∧ ∀ e, result = .error e → e.ofSelection) :=
    selects_selectOutput device options.mode options.refresh
  refine selects.performs.mono ?_
  rintro result added ⟨performed, asked, failure⟩
  exact ⟨performed, asked, failure⟩

theorem records_placeWithFallback (exchange : Placement → Except CallError α → Exchange)
    (place : Placement → Act σ (Except CallError α)) (spec : BufferSpec) (modifier : Modifier) :
    Records
      (placeWithFallback (fun placement => Recorded.watch (exchange placement) (place placement))
        spec modifier)
      (placeWithFallback place spec modifier) (PlaceRecord exchange spec modifier) := by
  refine records_then (records_watch _ _) ?_
  rintro (cause | item)
  · by_cases hm : modifier = .linear
    · subst hm
      simp only [ne_eq, not_true_eq_false, ↓reduceIte]
      refine records_then (records_note _) fun _ => ?_
      refine records_then (records_watch _ _) ?_
      rintro (later | item)
      · exact records_pure (.failed cause later)
      · exact records_pure (.fellBack cause item)
    · simp only [hm, ne_eq, not_false_eq_true, ↓reduceIte]
      exact records_pure (.refused cause hm)
  · exact records_pure (.placed modifier item)

omit [World σ] in
theorem records_freeAll (allocator : Allocator σ) (buffers : List Buffer) :
    Records (buffers.forM allocator.recorded.free) (buffers.forM allocator.free)
      (fun _ added => added = buffers.map .freed) := by
  induction buffers with
  | nil => exact records_pure rfl
  | cons buffer rest ih =>
    refine records_then (records_watch (fun _ => .freed buffer) _) fun _ => ?_
    exact ih.mono fun _ _ h => by rw [h]; rfl

theorem records_allocateRing (allocator : Allocator σ) (spec : BufferSpec) (modifier : Modifier)
    (count : Nat) (buffers : List Buffer) :
    Records (BufferPool.allocateRing allocator.recorded spec modifier count buffers)
      (BufferPool.allocateRing allocator spec modifier count buffers)
      (RingRecord spec modifier count buffers) := by
  induction count generalizing buffers with
  | zero => exact records_pure .done
  | succ count ih =>
    refine records_bind
      (records_placeWithFallback (.allocated spec) (allocator.allocate spec) spec modifier) ?_
    rintro (e | buffer) placing hplacing
    · refine records_then (records_freeAll allocator buffers) fun _ => ?_
      exact records_pure (by simpa using .failed hplacing)
    · exact (ih (buffers ++ [buffer])).mono fun _ _ later => .placed hplacing later

theorem records_createPool (allocator : Allocator σ) (topology : Topology) (options : Options) :
    Records (Pipeline.createPool allocator.recorded topology options)
      (Pipeline.createPool allocator topology options) (PoolRecord topology options) := by
  unfold Pipeline.createPool
  cases hs : options.surfaceless with
  | true =>
    refine records_bind (records_allocateRing allocator (topology.spec options) options.modifier
      Pipeline.ringSize []) ?_
    rintro (e | buffers) allocating hring
    · exact records_pure (by simpa using .ringless hs hring)
    · exact records_pure (by simpa using .ring hs hring)
  | false =>
    refine records_bind (records_placeWithFallback (.surfaceCreated (topology.spec options))
      (allocator.createSurface _) (topology.spec options) options.modifier) ?_
    rintro (e | surface) allocating hsurface
    · exact records_pure (by simpa using .unsurfaced hs hsurface)
    · exact records_pure (by simpa using .surface hs hsurface)

theorem records_setUp (device : Device σ) (allocator : Allocator σ) (options : Options) :
    Records (Pipeline.setUp device.recorded allocator.recorded options)
      (Pipeline.setUp device allocator options) (SetUpRecord device options) := by
  refine records_bind (records_enableCapabilities device) ?_
  rintro (e | _) enabling henabling
  · exact records_pure (by simpa using .incapable henabling)
  refine records_bind (records_selectOutput device options) ?_
  rintro (e | topology) selecting hselecting
  · exact records_pure (by simpa using .unselected henabling hselecting)
  refine records_bind (records_loadTables device topology) ?_
  rintro (e | tables) reading hreading
  · exact records_pure (by simpa using .unread henabling hselecting hreading)
  refine records_bind (records_createPool allocator topology options) ?_
  rintro (e | pool) allocating hallocating
  · exact records_pure (by simpa using .unallocated henabling hselecting hreading hallocating)
  refine records_then records_now fun time => ?_
  exact records_pure (by simpa using .ready henabling hselecting hreading hallocating)

end Records

/-- A pool as it is made: a ring of two owned buffers, or a surface, and no framebuffer yet. -/
structure BufferPool.Fresh (pool : BufferPool) (surfaceless : Bool) : Prop where
  surface : pool.surface.isNone = surfaceless
  ring : surfaceless = true → pool.entries.length = Pipeline.ringSize
  owned : surfaceless = true → ∀ entry ∈ pool.entries, entry.buffer.isSome
  empty : surfaceless = false → pool.entries = []
  bare : ∀ entry ∈ pool.entries, entry.framebuffer = none

/-- A display path as it is set up: nothing shown, nothing pending, the mode still to be set. -/
structure Pipeline.Fresh (p : Pipeline) (surfaceless : Bool) : Prop where
  tables : p.tables.Describes p.topology
  pool : p.pool.Fresh surfaceless
  onScreen : p.onScreen = none
  pendingFlip : p.pendingFlip = none
  allowModeset : p.allowModeset = true
  frame : p.frame = 0

section Parts

variable {exchange : Placement → Except CallError α → Exchange} {spec : BufferSpec}
  {modifier : Modifier} {options : Options} {topology : Topology} {events : List Exchange}

theorem EnableRecord.isSetUp {result : Except DisplayError Unit} (h : EnableRecord result events) :
    ∀ x ∈ events, x.isSetUp := by
  cases h <;> simp [Exchange.isSetUp]

theorem PlaceRecord.attempts {result : Except DisplayError α}
    (h : PlaceRecord exchange spec modifier result events) :
    ∀ x ∈ events, ∃ placement answer, x = exchange placement answer := by
  cases h with
  | placed => exact List.forall_mem_singleton.mpr ⟨_, _, rfl⟩
  | refused => exact List.forall_mem_singleton.mpr ⟨_, _, rfl⟩
  | fellBack =>
    exact List.forall_mem_cons.mpr ⟨⟨_, _, rfl⟩, List.forall_mem_singleton.mpr ⟨_, _, rfl⟩⟩
  | failed =>
    exact List.forall_mem_cons.mpr ⟨⟨_, _, rfl⟩, List.forall_mem_singleton.mpr ⟨_, _, rfl⟩⟩

theorem RingRecord.calls {count : Nat} {buffers : List Buffer}
    {result : Except DisplayError (List Buffer)}
    (h : RingRecord spec modifier count buffers result events) :
    ∀ x ∈ events, (∃ placement answer, x = .allocated spec placement answer) ∨
      ∃ buffer, x = .freed buffer := by
  intro x hx
  induction h with
  | done => cases hx
  | failed placing =>
    rcases List.mem_append.mp hx with hx | hx
    · exact .inl (placing.attempts x hx)
    · obtain ⟨buffer, -, rfl⟩ := List.mem_map.mp hx
      exact .inr ⟨buffer, rfl⟩
  | placed placing _ ih =>
    rcases List.mem_append.mp hx with hx | hx
    · exact .inl (placing.attempts x hx)
    · exact ih hx

theorem RingRecord.length {count : Nat} {buffers ring : List Buffer}
    (h : RingRecord spec modifier count buffers (.ok ring) events) :
    ring.length = buffers.length + count := by
  generalize hr : Except.ok ring = result at h
  induction h with
  | done =>
    cases hr
    rfl
  | failed => cases hr
  | placed _ _ ih =>
    rw [ih hr, List.length_append, List.length_singleton]
    omega

theorem PoolRecord.calls {result : Except DisplayError BufferPool}
    (h : PoolRecord topology options result events) :
    ∀ x ∈ events, (∃ placement answer, x = .allocated (topology.spec options) placement answer) ∨
      (∃ placement answer, x = .surfaceCreated (topology.spec options) placement answer) ∨
      ∃ buffer, x = .freed buffer := by
  intro x hx
  cases h with
  | ringless _ ring => exact (ring.calls x hx).imp_right .inr
  | ring _ ring => exact (ring.calls x hx).imp_right .inr
  | unsurfaced _ surface => exact .inr (.inl (surface.attempts x hx))
  | surface _ surface => exact .inr (.inl (surface.attempts x hx))

theorem PoolRecord.isSetUp {result : Except DisplayError BufferPool}
    (h : PoolRecord topology options result events) : ∀ x ∈ events, x.isSetUp := by
  intro x hx
  obtain ⟨_, _, rfl⟩ | ⟨_, _, rfl⟩ | ⟨_, rfl⟩ := h.calls x hx <;> rfl

theorem PoolRecord.fresh {pool : BufferPool} (h : PoolRecord topology options (.ok pool) events) :
    pool.Fresh options.surfaceless := by
  cases h with
  | ring surfaceless ring =>
    have two := ring.length
    rw [surfaceless]
    exact ⟨rfl, fun _ => by simpa using two, by simp, by simp, by simp⟩
  | surface surfaced surface =>
    rw [surfaced]
    exact ⟨rfl, by simp, by simp, by simp, by simp⟩

theorem TablesRecord.describes {tables : PropertyCache}
    (h : TablesRecord topology (.ok tables) events) : tables.Describes topology := by
  cases h with
  | read first second third =>
    cases first
    cases second
    cases third
    exact ⟨rfl, rfl, rfl⟩

variable [World σ] {device : Device σ}

theorem SetUpRecord.isSetUp {result : Except DisplayError Pipeline}
    (h : SetUpRecord device options result events) : ∀ x ∈ events, x.isSetUp := by
  have ofQueries {events : List Exchange} (asked : ∀ x ∈ events, x.isQuery) :
      ∀ x ∈ events, x.isSetUp := fun x hx => Exchange.isSetUp_of_isQuery (asked x hx)
  cases h with
  | incapable enabling => exact enabling.isSetUp
  | unselected enabling selecting =>
    simpa only [List.forall_mem_append] using ⟨enabling.isSetUp, ofQueries selecting.asked⟩
  | unread enabling selecting reading =>
    simpa only [List.forall_mem_append] using
      ⟨enabling.isSetUp, ofQueries selecting.asked, ofQueries reading.isQuery⟩
  | unallocated enabling selecting reading allocating =>
    simpa only [List.forall_mem_append] using
      ⟨enabling.isSetUp, ofQueries selecting.asked, ofQueries reading.isQuery, allocating.isSetUp⟩
  | ready enabling selecting reading allocating =>
    simpa only [List.forall_mem_append] using
      ⟨enabling.isSetUp, ofQueries selecting.asked, ofQueries reading.isQuery, allocating.isSetUp⟩

theorem SetUpRecord.fresh {p : Pipeline} (h : SetUpRecord device options (.ok p) events) :
    p.Fresh options.surfaceless := by
  cases h with
  | ready enabling selecting reading allocating =>
    exact ⟨reading.describes, allocating.fresh, rfl, rfl, rfl, rfl⟩

theorem Pipeline.setsUp_setUp (device : Device σ) (allocator : Allocator σ) (options : Options) :
    SetsUp (setUp device.recorded allocator.recorded options) (setUp device allocator options)
      (fun result => ∀ p, result = .ok p → p.Fresh options.surfaceless) :=
  (records_setUp device allocator options).mono fun _ _ h =>
    ⟨h.isSetUp, fun _ ok => (ok ▸ h).fresh⟩

end Parts

end Scanout
