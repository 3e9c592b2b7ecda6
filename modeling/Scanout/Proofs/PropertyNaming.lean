import Scanout.Proofs.TransactionShape
import Scanout.Proofs.Upkeep

namespace Scanout

open Transaction (SetsMode fenceAssignments frameFlags ofFrame outFenceRequest planeValues)

/-- The parts of a display path that properties are set of. -/
inductive PathPart
  | connector
  | crtc
  | plane
deriving DecidableEq, Repr

def Topology.object (topology : Topology) : PathPart → DisplayObject
  | .connector => .connector topology.connector
  | .crtc => .crtc topology.crtc
  | .plane => .plane topology.plane

def PropertyCache.table (tables : PropertyCache) : PathPart → PropertyTable
  | .connector => tables.connector
  | .crtc => tables.crtc
  | .plane => tables.plane

/-- What was read of the properties of a display path, part by part. -/
def PathReads := PathPart → List PropertyRead

namespace PathReads

/-- The calls in which the properties of a display path are read. -/
def calls (reads : PathReads) (topology : Topology) : List Exchange :=
  readingCalls (topology.object .connector) (reads .connector) ++
    (readingCalls (topology.object .crtc) (reads .crtc) ++
      readingCalls (topology.object .plane) (reads .plane))

/-- That tables find the first property of a part that was read with a name, and nothing for a name
that none of its own was read with. -/
structure Found (reads : PathReads) (tables : PropertyCache) : Prop where
  first : ∀ part name property,
    (tables.table part).lookup name = some property ↔ FirstRead (reads part) name property
  unread : ∀ part name,
    (tables.table part).lookup name = none ↔ ∀ read ∈ reads part, read.answer ≠ .ok name

end PathReads

theorem TablesRecord.found {topology : Topology} {tables : PropertyCache} {events : List Exchange}
    (h : TablesRecord topology (.ok tables) events) :
    ∃ reads : PathReads, events = reads.calls topology ∧ reads.Found tables ∧
      ∀ part, (tables.table part).object = topology.object part := by
  cases h with
  | read first second third =>
    cases first with
    | read connector =>
    cases second with
    | read crtc =>
    cases third with
    | read plane =>
    refine ⟨fun | .connector => connector | .crtc => crtc | .plane => plane, rfl, ⟨?_, ?_⟩, ?_⟩
    · rintro (_ | _ | _) name property <;> exact PropertyTable.lookup_ofReads_eq_some_iff
    · rintro (_ | _ | _) name <;> exact PropertyTable.lookup_ofReads_eq_none_iff
    · rintro (_ | _ | _) <;> rfl

/-- What a frame sets: a property of a part, which it knows by name, to a value. -/
structure Setting where
  part : PathPart
  name : String
  value : PropertyValue

/-- What a modeset sets besides the plane, and a mere flip does not. -/
def modeSettings (topology : Topology) : Option UInt64 → List Setting
  | none => []
  | some blob =>
    [⟨.connector, "CRTC_ID", .number topology.crtc.id.toUInt64⟩,
      ⟨.crtc, "MODE_ID", .number blob⟩, ⟨.crtc, "ACTIVE", .number 1⟩]

def planeSettings (topology : Topology) (framebuffer : FramebufferId) : List Setting :=
  (planeValues topology framebuffer).map fun named => ⟨.plane, named.1, named.2⟩

/-- That an assignment is what was to be set: on the part's own object, by the first property of it
that was read with the name. -/
structure PathReads.Assigned (reads : PathReads) (topology : Topology) (setting : Setting)
    (a : Assignment) : Prop where
  object : a.object = topology.object setting.part
  property : FirstRead (reads setting.part) setting.name a.property
  value : a.value = setting.value

/-- That a transaction sets what frames set, by the properties that were read first with each name.
Fences are left out where no property of their object was read with the name. -/
structure PathReads.Names (reads : PathReads) (topology : Topology) (txn : Transaction) :
    Prop where
  assigned : ∃ blob framebuffer fence gate, txn.flags = frameFlags blob ∧
    (gate = [⟨.plane, "IN_FENCE_FD", .fence fence⟩] ∨
      gate = [] ∧ ∀ read ∈ reads .plane, read.answer ≠ .ok "IN_FENCE_FD") ∧
    List.Forall₂ (reads.Assigned topology)
      (modeSettings topology blob ++ (planeSettings topology framebuffer ++ gate)) txn.assignments
  outFence : ∀ crtc property, txn.outFence = some (crtc, property) ↔
    crtc = topology.crtc ∧ FirstRead (reads .crtc) "OUT_FENCE_PTR" property

section Building

variable {reads : PathReads} {topology : Topology} {tables : PropertyCache}

theorem PathReads.Found.assigned (found : reads.Found tables)
    (described : ∀ part, (tables.table part).object = topology.object part) (part : PathPart)
    {values : List (String × PropertyValue)} {added : List Assignment}
    (h : (tables.table part).Assigns values added) :
    List.Forall₂ (reads.Assigned topology) (values.map fun named => ⟨part, named.1, named.2⟩)
      added := by
  rw [List.forall₂_map_left_iff]
  refine List.Forall₂.imp ?_ h
  rintro ⟨name, value⟩ a ⟨named, object, rfl⟩
  exact ⟨object.trans (described part), (found.first part name a.property).mp named, rfl⟩

theorem PathReads.Found.modeSettings (found : reads.Found tables)
    (described : ∀ part, (tables.table part).object = topology.object part)
    {blob : Option UInt64} {moded : List Assignment} (h : SetsMode topology tables blob moded) :
    List.Forall₂ (reads.Assigned topology) (Scanout.modeSettings topology blob) moded := by
  cases blob with
  | none =>
    obtain rfl : moded = [] := h
    exact .nil
  | some blob =>
    obtain ⟨bound, driven, rfl, onConnector, onCrtc⟩ := h
    have first := found.assigned described .connector onConnector
    exact List.rel_append first (found.assigned described .crtc onCrtc)

/-- The in-fence is assigned if it was read what its property is called, and else left out. -/
theorem PathReads.Found.gate (found : reads.Found tables)
    (described : ∀ part, (tables.table part).object = topology.object part) (fence : Fence) :
    ∃ gate : List Setting, (gate = [⟨.plane, "IN_FENCE_FD", .fence fence⟩] ∨
        gate = [] ∧ ∀ read ∈ reads .plane, read.answer ≠ .ok "IN_FENCE_FD") ∧
      List.Forall₂ (reads.Assigned topology) gate (fenceAssignments tables (some fence)) := by
  unfold fenceAssignments
  cases hl : tables.plane.lookup "IN_FENCE_FD" with
  | none => exact ⟨[], .inr ⟨rfl, (found.unread .plane _).mp hl⟩, .nil⟩
  | some property =>
    refine ⟨[⟨.plane, "IN_FENCE_FD", .fence fence⟩], .inl rfl, .cons ?_ .nil⟩
    exact ⟨described .plane, (found.first .plane _ property).mp hl, rfl⟩

theorem PathReads.Found.outFence (found : reads.Found tables) (crtc : CrtcId)
    (property : PropertyId) :
    outFenceRequest topology tables true = some (crtc, property) ↔
      crtc = topology.crtc ∧ FirstRead (reads .crtc) "OUT_FENCE_PTR" property := by
  rw [← found.first .crtc]
  simp only [outFenceRequest, ↓reduceIte, Option.map_eq_some_iff, Prod.mk.injEq]
  constructor
  · rintro ⟨_, hl, rfl, rfl⟩
    exact ⟨rfl, hl⟩
  · rintro ⟨rfl, hl⟩
    exact ⟨property, hl, rfl, rfl⟩

theorem PathReads.Found.names (found : reads.Found tables)
    (described : ∀ part, (tables.table part).object = topology.object part)
    {framebuffer : FramebufferId} {blob : Option UInt64} {fence : Fence} {txn : Transaction}
    {skipped : List SkippedProperty}
    (h : Transaction.build topology tables ⟨framebuffer, blob, some fence, true⟩ =
      .ok (txn, skipped)) : reads.Names topology txn := by
  obtain ⟨moded, planed, rfl, hmoded, hplaned⟩ := Transaction.build_ok h
  obtain ⟨gate, fenced, hgate⟩ := found.gate described fence
  refine ⟨⟨blob, framebuffer, fence, gate, rfl, fenced, ?_⟩, found.outFence⟩
  have planar := found.assigned described .plane hplaned
  exact List.rel_append (found.modeSettings described hmoded) (List.rel_append planar hgate)

end Building

theorem PoolRecord.unasked {topology : Topology} {options : Options}
    {result : Except DisplayError BufferPool} {events : List Exchange}
    (h : PoolRecord topology options result events) : ∀ x ∈ events, x.isQuery = false := by
  intro x hx
  obtain ⟨_, _, rfl⟩ | ⟨_, _, rfl⟩ | ⟨_, rfl⟩ := h.calls x hx <;> rfl

theorem unasked_of_stage {x : Exchange} (h : x.stage ≠ .readying) : x.isQuery = false := by
  cases x <;> simp_all [Exchange.stage, Exchange.isQuery]

/-- Once a display path is set up, the device is asked nothing any more. -/
theorem unasked_compositional :
    Compositional fun _ _ added => ∀ x ∈ added, x.isQuery = false where
  trans h hl := List.forall_mem_append.mpr ⟨h, hl⟩
  idle _ _ quiet x hx := by
    apply unasked_of_stage
    rcases quiet x hx with stage | stage <;> simp [stage]
  timed _ _ := by simp
  drawn hq hd := by
    refine List.forall_mem_append.mpr ⟨?_, ?_⟩
    · exact fun x hx => unasked_of_stage (by simp [hq.stage x hx])
    · intro x hx
      apply unasked_of_stage
      rcases hd.calls.stage x hx with stage | stage | stage <;> simp [stage]
  finish hw x hx := by
    apply unasked_of_stage
    rcases hw.stage x hx with stage | stage <;> simp [stage]
  flip _ hf := by
    obtain ⟨_, committing, given, hc, -, hg, rfl⟩ := hf.parts
    refine List.forall_mem_append.mpr ⟨?_, ?_⟩
    · intro x hx
      apply unasked_of_stage
      rcases hc.stage x hx with stage | stage <;> simp [stage]
    · exact fun x hx => unasked_of_stage (by simp [hg x hx])

/-- In any life of a display path, each transaction sets the properties of the connector, the CRTC
and the plane that were chosen, and knows them by what was read of each of these when the path was
set up: by the first one listed whose name could be read and is the one meant. -/
theorem properties_as_first_read {σ : Type} [World σ] (device : Device σ)
    (allocator : Allocator σ) (options : Options) (requests : List (Request σ)) (world : σ)
    {before after : List Exchange} {txn : Transaction} {answer : Except CallError (Option Fence)}
    (h : (recordLife device allocator options requests world).2.transcript =
      before ++ .submitted txn answer :: after) :
    ∃ p enabling selecting past, ∃ reads : PathReads,
      (recordLife device allocator options requests world).1 = .ok p ∧
      before = enabling ++ (selecting ++ (reads.calls p.topology ++ past)) ∧
      EnableRecord (.ok ()) enabling ∧ SelectionRecord device options (.ok p.topology) selecting ∧
      (∀ x ∈ past ++ after, x.isQuery = false) ∧ reads.Found p.tables ∧
      reads.Names p.topology txn := by
  have life := recordLife_course device allocator options requests world
  rw [h] at life
  obtain ⟨p₀, p, readying, past, ended, readied, rfl, hm⟩ := life.midFrame rfl
  cases readied with
  | @ready topology tables pool _ enabling selecting _ allocating henabling hselecting hreading
      hallocating =>
    obtain ⟨reads, rfl, found, described⟩ := hreading.found
    have unasked := unasked_compositional.midFrame hm
    obtain rfl : p.topology = topology := (sameOutput_compositional.midFrame hm).topology
    obtain rfl : p.tables = tables := (sameOutput_compositional.midFrame hm).tables
    refine ⟨p, enabling, selecting, allocating ++ past, reads, ended, by simp, henabling,
      hselecting, ?_, found, ?_⟩
    · simp only [List.forall_mem_append, List.forall_mem_cons] at unasked ⊢
      exact ⟨⟨hallocating.unasked, unasked.1⟩, unasked.2.2⟩
    · cases hm with
      | @intro start q result past sofar later rest mark e began hm hb hf ended =>
        obtain ⟨pool, drawn, earlier, begun, rfl, -, hs, -⟩ := hf.at_submission
        -- The transaction is built from the path that the frame found, whose output and tables are
        -- still those of the path in the end.
        have same : start.SameOutput p := (sameOutput_compositional.frame hf).trans
          (sameOutput_compositional.steps ended)
        rw [same.tables, same.topology] at *
        cases hs with
        | flip _ built => exact found.names described built
        | modeset _ _ built => exact found.names described built

namespace Memory

/-- The device with one output, where the connector lists an unreadable property and another one
called `CRTC_ID` before its own. -/
def cluttered : MemoryDisplay :=
  { MemoryDisplay.singleOutput with
    properties := MemoryDisplay.singleOutput.properties.map fun (object, listed) =>
      (object, if object = .connector MemoryDisplay.connectorId then
        (⟨999⟩, 0) :: (⟨302⟩, 0) :: listed else listed) }

/-- One frame on it. -/
def clutteredFrame : Except DisplayError Pipeline × Recorded Memory :=
  recordLife cluttered.device MemoryAllocator.plain.allocator ⟨none, 0, .xrgb8888, .linear, true⟩
    [.present MemoryRenderer.plain.renderer waiter] (fresh 0)

end Memory

/-- The connector is bound by the property that was read first, past the one that could not be. -/
theorem properties_as_first_read_in_memory :
    ∃ before txn answer after p, ∃ reads : PathReads,
      Memory.clutteredFrame.2.transcript = before ++ .submitted txn answer :: after ∧
      Memory.clutteredFrame.1 = .ok p ∧ reads.Found p.tables ∧ reads.Names p.topology txn ∧
      txn.assignments.head? =
        some ⟨.connector MemoryDisplay.connectorId, ⟨302⟩, .number 31⟩ := by
  have checked : (Memory.clutteredFrame.2.transcript[62]?.bind fun e => e.accepted?.map fun txn =>
      decide (txn.assignments.head? =
        some ⟨.connector MemoryDisplay.connectorId, ⟨302⟩, .number 31⟩)) = some true := by
    decide +kernel
  obtain ⟨e, he, checked⟩ := Option.bind_eq_some_iff.mp checked
  obtain ⟨txn, htxn, first⟩ := Option.map_eq_some_iff.mp checked
  obtain ⟨outFence, rfl⟩ := submitted_of_accepted? htxn
  have split := split_at he
  unfold Memory.clutteredFrame at split ⊢
  obtain ⟨p, _, _, _, reads, ended, -, -, -, -, found, names⟩ :=
    properties_as_first_read _ _ _ _ _ split
  exact ⟨_, txn, _, _, p, reads, split, ended, found, names, of_decide_eq_true first⟩

end Scanout
