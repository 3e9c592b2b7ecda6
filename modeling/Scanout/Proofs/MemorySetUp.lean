import Scanout.Memory.Drawing
import Scanout.Proofs.KeptByCalls
import Scanout.Proofs.OutputChoice
import Scanout.Proofs.TransactionContents

namespace Scanout

open MemoryDisplay (connectorId encoderId planeType propertyNames secondCrtc singleOutput)

namespace MemoryDisplay

/-- The output of the device in memory, for a mode. -/
def output (mode : Mode) : Topology where
  connector := connectorId
  connectorName := "HDMI-A-1"
  mode
  crtc := secondCrtc
  crtcIndex := 1
  encoder := some encoderId
  plane := ⟨42⟩

/-- The property tables of that output. -/
def outputTables : PropertyCache where
  connector := ⟨.connector connectorId, [⟨"CRTC_ID", ⟨101⟩, 0⟩]⟩
  crtc := ⟨.crtc secondCrtc,
    [⟨"MODE_ID", ⟨201⟩, 0⟩, ⟨"ACTIVE", ⟨202⟩, 0⟩, ⟨"OUT_FENCE_PTR", ⟨203⟩, 0⟩]⟩
  plane := ⟨.plane ⟨42⟩, (propertyNames.take 12).map fun (handle, name) =>
    ⟨name, handle, if handle = planeType then 1 else 0⟩⟩

end MemoryDisplay

namespace Memory

variable {α β : Type}

/-- That an act in memory comes to a result with `P` and leaves as many commits to be rejected. -/
def Readies (act : Act Memory α) (P : α → Prop) : Prop :=
  ∀ m, P (act m).1 ∧ (act m).2.rejections = m.rejections

theorem readies_pure {a : α} {P : α → Prop} (h : P a) : Readies (pure a) P :=
  fun _ => ⟨h, rfl⟩

theorem Readies.bind {act : Act Memory α} {next : α → Act Memory β} {P : α → Prop} {Q : β → Prop}
    (h : Readies act P) (hn : ∀ a, P a → Readies (next a) Q) : Readies (act >>= next) Q := by
  intro m
  obtain ⟨first, same⟩ := h m
  obtain ⟨last, sameLast⟩ := hn _ first (act m).2
  exact ⟨last, sameLast.trans same⟩

theorem rejections_standing {k : Nat} : Standing (fun m : Memory => m.rejections = k) :=
  ⟨fun _ _ h => h, fun _ h => h, fun _ _ h => h⟩

variable (name : Option String) (refresh : UInt32)

/-- The device in memory has modes, so that one is chosen whichever is asked for. -/
theorem readies_mode : Readies (chooseMode singleOutput.connector name refresh)
    (fun result => ∃ mode, result = .ok mode) := by
  intro m
  have kept : Preserves (fun m' : Memory => m'.rejections = m.rejections)
      (chooseMode singleOutput.connector name refresh) := by
    refine preserves_then (rejections_standing.notes _) fun _ => ?_
    cases Mode.pick singleOutput.connector.modes name refresh with
    | none => exact preserves_pure _
    | some choice => exact rejections_standing.noteIf (preserves_pure _)
  refine ⟨?_, kept m rfl⟩
  have chosen := yields_chooseMode singleOutput.connector name refresh m
  cases picked : Mode.pick singleOutput.connector.modes name refresh with
  | none => exact absurd (Mode.pick_eq_none_iff.mp picked) (List.cons_ne_nil _ _)
  | some choice => exact ⟨choice.mode, by rw [chosen, picked]; rfl⟩

theorem readies_output : Readies (selectOutput singleOutput.device name refresh)
    (fun result => ∃ mode, result = .ok (MemoryDisplay.output mode)) := by
  have listed : Readies singleOutput.device.resources
      (· = .ok ⟨[connectorId], [encoderId], [MemoryDisplay.firstCrtc, secondCrtc]⟩) :=
    fun _ => ⟨rfl, rfl⟩
  refine listed.bind ?_
  rintro _ rfl
  have found : Readies (findConnector singleOutput.device [connectorId])
      (· = .ok singleOutput.connector) := fun _ => ⟨rfl, rfl⟩
  refine found.bind ?_
  rintro _ rfl
  have noted : Readies (note (.connectorChosen singleOutput.connector.name)) (fun _ => True) :=
    fun _ => ⟨trivial, rfl⟩
  refine noted.bind fun _ _ => ?_
  refine (readies_mode name refresh).bind ?_
  rintro _ ⟨mode, rfl⟩
  exact fun _ => ⟨⟨mode, rfl⟩, rfl⟩

theorem readies_ring (planes : Nat) (spec : BufferSpec) (modifier : Modifier) (count : Nat)
    (buffers : List Buffer) :
    Readies (BufferPool.allocateRing (MemoryAllocator.plain.withPlanes planes).allocator spec
      modifier count buffers) (fun result => ∃ ring, result = .ok ring) := by
  induction count generalizing buffers with
  | zero => exact readies_pure ⟨buffers, rfl⟩
  | succ count ih =>
    have placed : Readies (allocateBuffer (MemoryAllocator.plain.withPlanes planes).allocator spec
        modifier) (fun result => ∃ buffer, result = .ok buffer) := fun _ => ⟨⟨_, rfl⟩, rfl⟩
    refine placed.bind ?_
    rintro _ ⟨buffer, rfl⟩
    exact ih _

/-- A display path with a ring is set up in memory, whatever the options. -/
theorem readies_setUp (planes : Nat) (options : Options) (ring : options.surfaceless = true) :
    Readies (Pipeline.setUp singleOutput.device (MemoryAllocator.plain.withPlanes planes).allocator
      options) (fun result => ∃ p, result = .ok p ∧ p.tables = MemoryDisplay.outputTables) := by
  have enabled : Readies (Pipeline.enableCapabilities singleOutput.device) (· = .ok ()) :=
    fun _ => ⟨rfl, rfl⟩
  refine enabled.bind ?_
  rintro _ rfl
  refine (readies_output options.mode options.refresh).bind ?_
  rintro _ ⟨mode, rfl⟩
  have read : Readies (PropertyCache.load singleOutput.device (MemoryDisplay.output mode))
      (· = .ok MemoryDisplay.outputTables) := fun _ => ⟨rfl, rfl⟩
  refine read.bind ?_
  rintro _ rfl
  have pooled : Readies (Pipeline.createPool (MemoryAllocator.plain.withPlanes planes).allocator
      (MemoryDisplay.output mode) options) (fun result => ∃ pool, result = .ok pool) := by
    unfold Pipeline.createPool
    rw [if_pos ring]
    refine (readies_ring planes _ _ Pipeline.ringSize []).bind ?_
    rintro _ ⟨buffers, rfl⟩
    exact readies_pure ⟨_, rfl⟩
  refine pooled.bind ?_
  rintro _ ⟨pool, rfl⟩
  exact fun _ => ⟨⟨_, rfl, rfl⟩, rfl⟩

end Memory

end Scanout
