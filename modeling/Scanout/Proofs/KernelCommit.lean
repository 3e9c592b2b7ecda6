import Scanout.Proofs.AtomicRequests
import Scanout.Proofs.KernelCalls
import Scanout.Proofs.TransactionContents

namespace Scanout

open Transaction (FrameContent outFenceRequest)

variable {topology : Topology} {tables : PropertyCache} {content : FrameContent}
  {txn : Transaction} {skipped : List SkippedProperty}

/-- That the tables are told apart by the numbers of their objects, the CRTC being that of the
display path, and no number of a property stands in one of them twice. -/
structure PropertyCache.Numbered (tables : PropertyCache) (topology : Topology) : Prop where
  crtc : tables.crtc.object = .crtc topology.crtc
  objects : [tables.connector.object.id, tables.crtc.object.id, tables.plane.object.id].Nodup
  properties : ∀ part, ((tables.table part).entries.map (·.handle)).Nodup

section Places

/-- That a property stands, by its number and that of its object, for the one that a part has under
a name. -/
def PropertyCache.Places (tables : PropertyCache) (key : PathPart × String)
    (place : UInt32 × UInt32) : Prop :=
  ∃ slot, tables.Keeps key slot ∧ place = (slot.1.id, slot.2.id)

theorem PropertyCache.Numbered.biUnique (numbered : tables.Numbered topology) :
    Relator.BiUnique tables.Places := by
  constructor
  · rintro ⟨part, name⟩ ⟨other, otherName⟩ place ⟨slot, h, rfl⟩ ⟨otherSlot, ho, same⟩
    obtain ⟨sameObject, sameProperty⟩ := Prod.mk.inj same
    rw [h.1, ho.1] at sameObject
    obtain rfl := tables.part_inj (·.object.id) numbered.objects sameObject
    have property : slot.2 = otherSlot.2 := congrArg Handle.mk sameProperty
    have found := ho.2
    rw [← property] at found
    exact congrArg _ (PropertyTable.lookup_inj (numbered.properties part) h.2 found)
  · rintro key place other ⟨slot, h, rfl⟩ ⟨otherSlot, ho, rfl⟩
    rw [h.1, ho.1, Option.some.inj (h.2.symm.trans ho.2)]

theorem outFenceRequest_kept (crtc : tables.crtc.object = .crtc topology.crtc) (wanted : Bool) :
    ∃ keys, keys.Sublist [(PathPart.crtc, "OUT_FENCE_PTR")] ∧ List.Forall₂ tables.Keeps keys
      ((outFenceRequest topology tables wanted).toList.map fun (crtc, property) =>
        (.crtc crtc, property)) := by
  unfold outFenceRequest
  cases wanted with
  | false => exact ⟨[], List.nil_sublist _, .nil⟩
  | true =>
    cases found : tables.crtc.lookup "OUT_FENCE_PTR" with
    | none => exact ⟨[], List.nil_sublist _, .nil⟩
    | some property => exact ⟨_, .refl _, .cons ⟨crtc.symm, found⟩ .nil⟩

/-- The properties that a transaction assigns, and the one for the out-fence. -/
def Transaction.slots (txn : Transaction) : List (DisplayObject × PropertyId) :=
  txn.assignments.map (fun a => (a.object, a.property)) ++
    txn.outFence.toList.map fun (crtc, property) => (.crtc crtc, property)

theorem Transaction.entries_places (txn : Transaction) :
    txn.entries.map Prod.fst = txn.slots.map fun slot => (slot.1.id, slot.2.id) := by
  unfold entries slots
  simp only [List.map_append, List.map_map]
  rfl

/-- Told by numbers alone, the properties of a frame are still all different. -/
theorem FrameBuilt.entries_nodup
    (h : FrameBuilt topology tables content (.ok (txn, skipped)))
    (numbered : tables.Numbered topology) : (txn.entries.map Prod.fst).Nodup := by
  obtain ⟨assigned, known, kept⟩ := h.kept
  have outFence : txn.outFence = outFenceRequest topology tables content.wantOutFence := by
    cases h with
    | complete => rfl
  obtain ⟨asked, knownToo, keptToo⟩ := outFenceRequest_kept numbered.crtc content.wantOutFence
  rw [← outFence] at keptToo
  have places : List.Forall₂ tables.Places (assigned ++ asked) (txn.entries.map Prod.fst) := by
    rw [txn.entries_places, List.forall₂_map_right_iff]
    exact (List.rel_append kept keptToo).imp fun _ slot h => ⟨slot, h, rfl⟩
  exact (List.rel_nodup numbered.biUnique places).mp
    ((demandKeys_nodup _).sublist (known.append knownToo))

end Places

/-- What a property was set to is what the one assignment of it says. -/
theorem Transaction.get_of_nodup
    (once : (txn.assignments.map fun a => (a.object, a.property)).Nodup) {a : Assignment}
    (ha : a ∈ txn.assignments) : txn.get a.object a.property = some a.value := by
  let isSame (b : Assignment) := b.object == a.object && b.property == a.property
  have found : txn.assignments.find? isSame = some a := by
    have exists_same : (txn.assignments.find? isSame).isSome :=
      List.find?_isSome.mpr ⟨a, ha, by simp [isSame]⟩
    obtain ⟨b, hb⟩ := Option.isSome_iff_exists.mp exists_same
    have same : (b.object, b.property) = (a.object, a.property) := by
      simpa [isSame] using List.find?_some hb
    rw [hb, List.inj_on_of_nodup_map once (List.mem_of_find?_eq_some hb) ha same]
  exact congrArg (Option.map Assignment.value) found

/-- That an atomic request says what a transaction does: numbers as numbers, fences as fences, and a
pointer where the out-fence goes. -/
structure AtomicRequest.Carries (request : AtomicRequest) (topology : Topology)
    (tables : PropertyCache) (txn : Transaction) : Prop where
  /-- No property of an object is set twice. -/
  once : (request.entries.map Prod.fst).Nodup
  /-- There is one entry for each assignment, one for the out-fence if there is to be one, and no
  other. -/
  entries : request.entries.Perm (txn.assignments.map (fun a =>
      ((a.object.id, a.property.id), match a.value with
        | .number value => .number value
        | .fence fence => .fence fence)) ++
    txn.outFence.toList.map fun (crtc, property) => ((crtc.id, property.id), .pointer))
  assigned : ∀ a ∈ txn.assignments, txn.get a.object a.property = some a.value
  number : ∀ a ∈ txn.assignments, ∀ value,
    txn.get a.object a.property = some (.number value) ↔
      request.get a.object.id a.property.id = some (.number value)
  fence : ∀ a ∈ txn.assignments, ∀ fence,
    txn.get a.object a.property = some (.fence fence) ↔
      request.get a.object.id a.property.id = some (.fence fence)
  pointed : ∀ place, (place, .pointer) ∈ request.entries ↔
    ∃ property, txn.outFence = some (topology.crtc, property) ∧
      tables.crtc.lookup "OUT_FENCE_PTR" = some property ∧ place = (topology.crtc.id, property.id)
  hasPointer : request.hasPointer = txn.outFence.isSome

theorem FrameBuilt.outFence_known
    (h : FrameBuilt topology tables content (.ok (txn, skipped))) {place : CrtcId × PropertyId}
    (asked : txn.outFence = some place) :
    place.1 = topology.crtc ∧ tables.crtc.lookup "OUT_FENCE_PTR" = some place.2 := by
  cases h with
  | complete =>
    unfold outFenceRequest at asked
    split_ifs at asked
    obtain ⟨property, known, rfl⟩ := Option.map_eq_some_iff.mp asked
    exact ⟨rfl, known⟩

/-- The pointer stands in a transaction where the out-fence goes, and nowhere else. -/
theorem Transaction.pointer_mem_entries {place : UInt32 × UInt32} :
    (place, .pointer) ∈ txn.entries ↔
      ∃ crtc property, txn.outFence = some (crtc, property) ∧ place = (crtc.id, property.id) := by
  unfold entries
  rw [List.mem_append]
  constructor
  · rintro (assigned | asked)
    · obtain ⟨a, -, same⟩ := List.mem_map.mp assigned
      cases value : a.value <;> simp [value, AtomicRequest.ofValue] at same
    · obtain ⟨⟨crtc, property⟩, wanted, same⟩ := List.mem_map.mp asked
      exact ⟨crtc, property, Option.mem_toList.mp wanted, (congrArg Prod.fst same).symm⟩
  · rintro ⟨crtc, property, outFence, rfl⟩
    exact .inr (List.mem_map.mpr ⟨_, Option.mem_toList.mpr outFence, rfl⟩)

theorem AtomicRequest.ofValue_eq_number_iff {value : PropertyValue} {number : UInt64} :
    ofValue value = .number number ↔ value = .number number := by
  cases value <;> simp [ofValue]

theorem AtomicRequest.ofValue_eq_fence_iff {value : PropertyValue} {fence : Fence} :
    ofValue value = .fence fence ↔ value = .fence fence := by
  cases value <;> simp [ofValue]

theorem FrameBuilt.carries {σ : Type} {kernel : Kernel σ} (keeps : kernel.KeepsLast)
    (h : FrameBuilt topology tables content (.ok (txn, skipped)))
    (numbered : tables.Numbered topology) :
    (kernel.request txn).Carries topology tables txn := by
  have once : ((kernel.request txn).entries.map Prod.fst).Nodup := keeps.request_nodup
  have entries := keeps.request_perm (h.entries_nodup numbered)
  have slots : (txn.assignments.map fun a => (a.object, a.property)).Nodup :=
    (List.nodup_append.mp (.of_map _ (txn.entries_places ▸ h.entries_nodup numbered))).1
  have assigned (a : Assignment) (ha : a ∈ txn.assignments) :
      txn.get a.object a.property = some a.value := Transaction.get_of_nodup slots ha
  have held (a : Assignment) (ha : a ∈ txn.assignments) :
      (kernel.request txn).get a.object.id a.property.id =
        some (AtomicRequest.ofValue a.value) := by
    refine (AtomicRequest.lookup_eq_some_iff_mem once).mpr (entries.mem_iff.mpr ?_)
    exact List.mem_append_left _ (List.mem_map.mpr ⟨a, ha, rfl⟩)
  refine ⟨once, entries, assigned, ?_, ?_, ?_, ?_⟩
  · intro a ha value
    rw [assigned a ha, held a ha, Option.some_inj, Option.some_inj,
      AtomicRequest.ofValue_eq_number_iff]
  · intro a ha fence
    rw [assigned a ha, held a ha, Option.some_inj, Option.some_inj,
      AtomicRequest.ofValue_eq_fence_iff]
  · intro place
    rw [entries.mem_iff, Transaction.pointer_mem_entries]
    constructor
    · rintro ⟨crtc, property, outFence, rfl⟩
      obtain ⟨rfl, known⟩ := h.outFence_known outFence
      exact ⟨property, outFence, known, rfl⟩
    · rintro ⟨property, outFence, -, rfl⟩
      exact ⟨_, property, outFence, rfl⟩
  · rw [Bool.eq_iff_iff, AtomicRequest.hasPointer_iff, Option.isSome_iff_exists]
    simp only [entries.mem_iff, Transaction.pointer_mem_entries]
    constructor
    · rintro ⟨_, crtc, property, outFence, -⟩
      exact ⟨_, outFence⟩
    · rintro ⟨⟨crtc, property⟩, outFence⟩
      exact ⟨_, crtc, property, outFence, rfl⟩

/-- How a device answers for the kernel: a fence is what the kernel wrote where it goes, unless
that is negative. -/
structure KernelAnswered (answer : Except CallError Unit) (descriptor : Int)
    (result : Except CallError (Option Fence)) : Prop where
  fence : ∀ fence, result = .ok (some fence) ↔ answer = .ok () ∧ descriptor = fence.descriptor
  fenceless : result = .ok none ↔ answer = .ok () ∧ descriptor < 0
  refused : ∀ cause, result = .error cause ↔ answer = .error cause

section Submit

variable {σ : Type} (kernel : Kernel σ)

/-- A commit is one call of the kernel, whatever comes of it. -/
theorem device_commit_eq (txn : Transaction) (world : σ) :
    kernel.device.commit txn world =
      ((kernel.commit txn.flags (kernel.request txn) world).1.1.map fun _ =>
        if (kernel.commit txn.flags (kernel.request txn) world).1.2 < 0 then none
        else some ⟨(kernel.commit txn.flags (kernel.request txn) world).1.2.toNat⟩,
      (kernel.commit txn.flags (kernel.request txn) world).2) := by
  rcases called : kernel.commit txn.flags (kernel.request txn) world with
    ⟨⟨answer, descriptor⟩, after⟩
  change (kernel.commit txn.flags (kernel.request txn) >>= _) world = _
  simp only [bind, StateT.bind, called]
  cases answer <;> rfl

theorem kernelAnswered (answer : Except CallError Unit) (descriptor : Int) :
    KernelAnswered answer descriptor (answer.map fun _ =>
      if descriptor < 0 then none else some ⟨descriptor.toNat⟩) := by
  cases answer with
  | error cause => exact ⟨by simp [Except.map], by simp [Except.map], by simp [Except.map]⟩
  | ok _ =>
    refine ⟨?_, ?_, by simp [Except.map]⟩
    · rintro ⟨number⟩
      simp only [Except.map]
      split_ifs <;> simp <;> omega
    · simp only [Except.map]
      split_ifs <;> simp <;> omega

end Submit

/-- Where objects and properties are told apart by number, the kernel is asked once, for just what
the transaction of a frame says, and what it answers is passed on. -/
theorem transaction_handed_on {σ : Type} (kernel : Kernel σ) (keeps : kernel.KeepsLast)
    (numbered : tables.Numbered topology)
    (built : Transaction.build topology tables content = .ok (txn, skipped)) (world : σ) :
    (kernel.request txn).Carries topology tables txn ∧
      ∃ answer descriptor after,
        kernel.commit txn.flags (kernel.request txn) world = ((answer, descriptor), after) ∧
        kernel.traced.device.commit txn ⟨world, []⟩ = ((kernel.device.commit txn world).1,
          ⟨after, [.committed txn.flags (kernel.request txn) (answer, descriptor)]⟩) ∧
        (kernel.device.commit txn world).2 = after ∧
        KernelAnswered answer descriptor (kernel.device.commit txn world).1 := by
  have frame : FrameBuilt topology tables content (.ok (txn, skipped)) := built ▸ build_frameBuilt
  refine ⟨frame.carries keeps numbered, _, _, _, rfl, ?_, ?_, ?_⟩
  · rw [device_commit_eq, device_commit_eq]
    rfl
  · rw [device_commit_eq]
  · rw [device_commit_eq]
    exact kernelAnswered _ _

/-- The kernel is told the first frame in memory in fifteen entries, among them the CRTC of the
connector, the framebuffer and the in-fence of the plane, and where its out-fence goes, which it
writes. -/
theorem transaction_handed_on_in_memory :
    let kernel := (KernelModel.singleOutput [⟨30⟩, ⟨31⟩]).kernel
    kernel.KeepsLast ∧
    ∃ p txn skipped, (Memory.frames .plain 0).1 = .ok p ∧ p.tables.Numbered p.topology ∧
      Transaction.build p.topology p.tables ⟨⟨77⟩, some 500, some ⟨3⟩, true⟩ =
        .ok (txn, skipped) ∧
      (kernel.request txn).Carries p.topology p.tables txn ∧
      (kernel.request txn).entries.length = 15 ∧
      (kernel.request txn).get 10 101 = some (.number 31) ∧
      (kernel.request txn).get 42 301 = some (.number 77) ∧
      (kernel.request txn).get 42 311 = some (.fence ⟨3⟩) ∧
      (kernel.request txn).get 31 203 = some .pointer ∧
      (kernel.device.commit txn .fresh).1 = .ok (some ⟨0⟩) := by
  intro kernel
  let content : FrameContent := ⟨⟨77⟩, some 500, some ⟨3⟩, true⟩
  have checked : ((Memory.frames .plain 0).1.toOption.map fun p =>
      decide (p.tables.crtc.object = .crtc p.topology.crtc ∧
        [p.tables.connector.object.id, p.tables.crtc.object.id,
          p.tables.plane.object.id].Nodup ∧
        (p.tables.connector.entries.map (·.handle)).Nodup ∧
        (p.tables.crtc.entries.map (·.handle)).Nodup ∧
        (p.tables.plane.entries.map (·.handle)).Nodup ∧
        (Transaction.build p.topology p.tables content).toOption.any fun built =>
          ((kernel.request built.1).entries.length = 15 ∧
            (kernel.request built.1).get 10 101 = some (.number 31) ∧
            (kernel.request built.1).get 42 301 = some (.number 77) ∧
            (kernel.request built.1).get 42 311 = some (.fence ⟨3⟩) ∧
            (kernel.request built.1).get 31 203 = some .pointer) ∧
          (kernel.commit built.1.flags (kernel.request built.1) .fresh).1.1.isOk ∧
          (kernel.commit built.1.flags (kernel.request built.1) .fresh).1.2 = 0)) = some true := by
    decide +kernel
  obtain ⟨p, hp, holds⟩ := Option.map_eq_some_iff.mp checked
  obtain ⟨crtc, objects, connectors, crtcs, planes, built⟩ := of_decide_eq_true holds
  obtain ⟨⟨txn, skipped⟩, given, rest⟩ := (Option.any_eq_true _ _).mp built
  obtain ⟨⟨length, route, framebuffer, inFence, outFence⟩, accepted, written⟩ :=
    of_decide_eq_true rest
  have numbered : p.tables.Numbered p.topology := by
    refine ⟨crtc, objects, ?_⟩
    intro part
    cases part <;> assumption
  have done := ok_of_toOption given
  have keeps : kernel.KeepsLast := AtomicRequest.keepsLast_of_set rfl
  obtain ⟨carries, answer, descriptor, after, called, -, -, answered⟩ :=
    transaction_handed_on kernel keeps numbered done .fresh
  rw [called] at accepted written
  obtain rfl : answer = .ok () := by
    cases answer with
    | error cause => simp [Except.isOk, Except.toBool] at accepted
    | ok _ => rfl
  exact ⟨keeps, p, txn, skipped, ok_of_toOption hp, numbered, done, carries, length, route,
    framebuffer, inFence, outFence, (answered.fence ⟨0⟩).mpr ⟨rfl, written⟩⟩

end Scanout
