import Scanout.Proofs.FirstWith
import Scanout.Proofs.PropertyNaming
import Scanout.Proofs.RequiredProperties

namespace Scanout

open Transaction (FrameContent SetsMode fenceAssignments frameFlags ofFrame outFenceRequest
  planeNames planeValues)

/-- A property that a frame cannot do without, and the number it is set to. -/
structure Demand where
  part : PathPart
  name : String
  number : Nat
deriving DecidableEq, Repr

/-- What a modeset demands besides the plane, in this order. A mere flip demands none of it. -/
def modeDemands (topology : Topology) : Option UInt64 → List Demand
  | none => []
  | some blob =>
    [⟨.connector, "CRTC_ID", topology.crtc.id.toNat⟩, ⟨.crtc, "MODE_ID", blob.toNat⟩,
      ⟨.crtc, "ACTIVE", 1⟩]

/-- What every frame demands of its plane, in this order. The part of the framebuffer that is shown
is measured in units of 2⁻¹⁶ pixels. -/
def planeDemands (topology : Topology) (framebuffer : FramebufferId) : List Demand :=
  let width := topology.mode.width.toNat
  let height := topology.mode.height.toNat
  [⟨.plane, "FB_ID", framebuffer.id.toNat⟩, ⟨.plane, "CRTC_ID", topology.crtc.id.toNat⟩,
    ⟨.plane, "SRC_X", 0⟩, ⟨.plane, "SRC_Y", 0⟩, ⟨.plane, "SRC_W", width * 65536⟩,
    ⟨.plane, "SRC_H", height * 65536⟩, ⟨.plane, "CRTC_X", 0⟩, ⟨.plane, "CRTC_Y", 0⟩,
    ⟨.plane, "CRTC_W", width⟩, ⟨.plane, "CRTC_H", height⟩]

def frameDemands (topology : Topology) (content : FrameContent) : List Demand :=
  modeDemands topology content.modeBlob ++ planeDemands topology content.framebuffer

namespace PropertyCache

/-- That the part a demand is about does not have the property. -/
def Lacks (tables : PropertyCache) (demand : Demand) : Prop :=
  (tables.table demand.part).lookup demand.name = none

/-- That an assignment sets the property that a demand is about to the number it should have. -/
structure Meets (tables : PropertyCache) (demand : Demand) (a : Assignment) : Prop where
  object : a.object = (tables.table demand.part).object
  property : (tables.table demand.part).lookup demand.name = some a.property
  number : ∃ value, a.value = .number value ∧ value.toNat = demand.number

/-- That the tables are those of three objects, and no number stands in one of them twice. -/
structure Distinct (tables : PropertyCache) : Prop where
  objects : [tables.connector.object, tables.crtc.object, tables.plane.object].Nodup
  numbers : ∀ part, ((tables.table part).entries.map (·.handle)).Nodup

end PropertyCache

/-- The fences that a frame has to leave out, as their objects do not have the property. -/
def skippedFences (tables : PropertyCache) (content : FrameContent) : List SkippedProperty :=
  (if content.inFence.isSome && (tables.plane.lookup "IN_FENCE_FD").isNone then
    [⟨tables.plane.object, "IN_FENCE_FD"⟩] else []) ++
  (if content.wantOutFence && (tables.crtc.lookup "OUT_FENCE_PTR").isNone then
    [⟨tables.crtc.object, "OUT_FENCE_PTR"⟩] else [])

/-- What building the transaction of a frame comes to: it fails with the first demand that cannot
be met, or meets all of them one after the other and then adds the fences. -/
inductive FrameBuilt (topology : Topology) (tables : PropertyCache) (content : FrameContent) :
    Except DisplayError (Transaction × List SkippedProperty) → Prop
  | lacking {demand : Demand} : FirstWith tables.Lacks (frameDemands topology content) demand →
      FrameBuilt topology tables content
        (.error (.missingProperty (tables.table demand.part).object demand.name))
  | complete {numbers : List Assignment} :
      List.Forall₂ tables.Meets (frameDemands topology content) numbers →
      FrameBuilt topology tables content (.ok
        ({ flags := frameFlags content.modeBlob
           assignments := numbers ++ fenceAssignments tables content.inFence
           outFence := outFenceRequest topology tables content.wantOutFence },
          skippedFences tables content))

variable {topology : Topology} {tables : PropertyCache} {content : FrameContent}

section Lacking

/-- What is reported of a demand that cannot be met. -/
def PropertyCache.lack? (tables : PropertyCache) (demand : Demand) : Option DisplayError :=
  errorOf ((tables.table demand.part).require demand.name)

theorem lack?_eq_some_iff {demand : Demand} {e : DisplayError} :
    tables.lack? demand = some e ↔ tables.Lacks demand ∧
      e = .missingProperty (tables.table demand.part).object demand.name := by
  unfold PropertyCache.lack? PropertyCache.Lacks PropertyTable.require
  cases (tables.table demand.part).lookup demand.name with
  | none => simp [errorOf, eq_comm]
  | some property => simp [errorOf]

theorem lack?_eq_none_iff {demand : Demand} :
    tables.lack? demand = none ↔ ¬tables.Lacks demand := by
  unfold PropertyCache.lack? PropertyCache.Lacks PropertyTable.require
  cases (tables.table demand.part).lookup demand.name <;> simp [errorOf]

theorem findSome?_lack?_iff {demands : List Demand} {e : DisplayError} :
    demands.findSome? tables.lack? = some e ↔ ∃ demand, FirstWith tables.Lacks demands demand ∧
      e = .missingProperty (tables.table demand.part).object demand.name := by
  simp only [List.findSome?_eq_some_iff, lack?_eq_some_iff, lack?_eq_none_iff]
  constructor
  · intro h
    obtain ⟨before, demand, after, split, ⟨lacks, reported⟩, none⟩ := h
    exact ⟨demand, ⟨before, after, split, lacks, none⟩, reported⟩
  · intro h
    obtain ⟨demand, ⟨before, after, split, lacks, none⟩, reported⟩ := h
    exact ⟨before, demand, after, split, ⟨lacks, reported⟩, none⟩

/-- What is reported of an output that lacks something is its first lack in the order of the
demands. -/
theorem missing?_eq_findSome? :
    tables.missing? content.modeBlob.isSome =
      (frameDemands topology content).findSome? tables.lack? := by
  have planar : tables.plane.missing? planeNames =
      (planeDemands topology content.framebuffer).findSome? tables.lack? := rfl
  unfold PropertyCache.missing? frameDemands
  rw [List.findSome?_append, ← planar]
  cases content.modeBlob with
  | none => rfl
  | some blob =>
    have split : modeDemands topology (some blob) =
        [⟨.connector, "CRTC_ID", topology.crtc.id.toNat⟩] ++
          [⟨.crtc, "MODE_ID", blob.toNat⟩, ⟨.crtc, "ACTIVE", 1⟩] := rfl
    rw [split, List.findSome?_append]
    rfl

theorem build_eq_error_iff {e : DisplayError} :
    Transaction.build topology tables content = .error e ↔
      ∃ demand, FirstWith tables.Lacks (frameDemands topology content) demand ∧
        e = .missingProperty (tables.table demand.part).object demand.name := by
  rw [← findSome?_lack?_iff, ← missing?_eq_findSome?, ← Transaction.errorOf_build topology,
    errorOf_eq_some]

end Lacking

section Meeting

/-- That a value given by name is what a demand asks of a part. -/
structure Demand.GivenBy (part : PathPart) (demand : Demand) (named : String × PropertyValue) :
    Prop where
  part : demand.part = part
  name : demand.name = named.1
  number : ∃ value, named.2 = .number value ∧ value.toNat = demand.number

theorem Demand.GivenBy.of_toNat {part : PathPart} {name : String} {value : UInt64} {number : Nat}
    (same : value.toNat = number) :
    Demand.GivenBy part ⟨part, name, number⟩ (name, .number value) :=
  ⟨rfl, rfl, value, rfl, same⟩

theorem PropertyTable.Assigns.meets (part : PathPart) {demands : List Demand}
    {values : List (String × PropertyValue)} {added : List Assignment}
    (h : (tables.table part).Assigns values added)
    (given : List.Forall₂ (Demand.GivenBy part) demands values) :
    List.Forall₂ tables.Meets demands added := by
  induction given generalizing added with
  | nil =>
    obtain rfl := List.forall₂_nil_left_iff.mp h
    exact .nil
  | @cons demand named _ _ first _ ih =>
    obtain ⟨a, rest, ⟨found, object, value⟩, others, rfl⟩ := List.forall₂_cons_left_iff.mp h
    obtain ⟨rfl, name, number⟩ := first
    have meets : tables.Meets demand a := ⟨object, name ▸ found, value ▸ number⟩
    exact .cons meets (ih others)

/-- The size in units of 2⁻¹⁶ pixels fits the word, whatever the mode. -/
theorem shifted_toNat (size : UInt16) :
    (size.toUInt32.toUInt64 <<< 16).toNat = size.toNat * 65536 := by
  have bound := size.toNat_lt
  have shifted : (size.toUInt32.toUInt64 <<< 16).toNat = size.toNat <<< 16 % 2 ^ 64 := by
    simp [UInt64.toNat_shiftLeft]
  rw [shifted, Nat.shiftLeft_eq]
  omega

theorem planeDemands_given (framebuffer : FramebufferId) :
    List.Forall₂ (Demand.GivenBy .plane) (planeDemands topology framebuffer)
      (planeValues topology framebuffer) := by
  have width := shifted_toNat topology.mode.width
  have height := shifted_toNat topology.mode.height
  simp only [planeDemands, planeValues, List.forall₂_cons, List.forall₂_nil_left_iff, and_true]
  exact ⟨.of_toNat (by simp), .of_toNat (by simp), .of_toNat rfl,
    .of_toNat rfl, .of_toNat width, .of_toNat height, .of_toNat rfl,
    .of_toNat rfl, .of_toNat (by simp [Topology.size, Mode.size]),
    .of_toNat (by simp [Topology.size, Mode.size])⟩

theorem SetsMode.meets {blob : Option UInt64} {moded : List Assignment}
    (h : SetsMode topology tables blob moded) :
    List.Forall₂ tables.Meets (modeDemands topology blob) moded := by
  cases blob with
  | none =>
    obtain rfl : moded = [] := h
    exact .nil
  | some blob =>
    obtain ⟨bound, driven, rfl, onConnector, onCrtc⟩ := h
    have first : List.Forall₂ tables.Meets
        [⟨.connector, "CRTC_ID", topology.crtc.id.toNat⟩] bound :=
      PropertyTable.Assigns.meets .connector onConnector
        (.cons (Demand.GivenBy.of_toNat (by simp)) .nil)
    have second : List.Forall₂ tables.Meets
        [⟨.crtc, "MODE_ID", blob.toNat⟩, ⟨.crtc, "ACTIVE", 1⟩] driven :=
      PropertyTable.Assigns.meets .crtc onCrtc
        (.cons (Demand.GivenBy.of_toNat rfl) (.cons (Demand.GivenBy.of_toNat rfl) .nil))
    exact List.rel_append first second

end Meeting

theorem setFences_skipped (txn : Transaction) :
    (txn.setFences topology tables content).2 = skippedFences tables content := by
  unfold Transaction.setFences Transaction.setOptional Transaction.requestOutFence skippedFences
  cases content.inFence <;> cases tables.plane.lookup "IN_FENCE_FD" <;>
    cases content.wantOutFence <;> cases tables.crtc.lookup "OUT_FENCE_PTR"
  all_goals rfl

/-- What is left out is decided last, by the fences. -/
theorem build_skipped {txn : Transaction} {skipped : List SkippedProperty}
    (h : Transaction.build topology tables content = .ok (txn, skipped)) :
    skipped = skippedFences tables content := by
  have finished {moded : Transaction}
      (h : (moded.setPlane topology tables.plane content.framebuffer >>= fun planed =>
        .ok (planed.setFences topology tables content)) = .ok (txn, skipped)) :
      skipped = skippedFences tables content := by
    obtain ⟨planed, -, fenced⟩ := Transaction.bind_ok h
    have last := congrArg Prod.snd (Except.ok.inj fenced)
    exact last.symm.trans (setFences_skipped planed)
  unfold Transaction.build at h
  cases hb : content.modeBlob with
  | none =>
    simp only [hb] at h
    exact finished h
  | some blob =>
    simp only [hb] at h
    obtain ⟨moded, -, rest⟩ := Transaction.bind_ok h
    exact finished rest

theorem build_frameBuilt :
    FrameBuilt topology tables content (Transaction.build topology tables content) := by
  cases built : Transaction.build topology tables content with
  | error e =>
    obtain ⟨demand, first, rfl⟩ := build_eq_error_iff.mp built
    exact .lacking first
  | ok result =>
    obtain ⟨txn, skipped⟩ := result
    obtain ⟨moded, planed, rfl, hmoded, hplaned⟩ := Transaction.build_ok built
    obtain rfl := build_skipped built
    have planar : List.Forall₂ tables.Meets (planeDemands topology content.framebuffer) planed :=
      PropertyTable.Assigns.meets .plane hplaned (planeDemands_given content.framebuffer)
    have met : List.Forall₂ tables.Meets (frameDemands topology content) (moded ++ planed) :=
      List.rel_append (SetsMode.meets hmoded) planar
    simpa [ofFrame] using FrameBuilt.complete met

section Determined

theorem PropertyCache.Meets.unique {demand : Demand} {a b : Assignment}
    (h : tables.Meets demand a) (hb : tables.Meets demand b) : a = b := by
  obtain ⟨value, assigned, same⟩ := h.number
  obtain ⟨other, assignedToo, sameToo⟩ := hb.number
  have property := Option.some.inj (h.property.symm.trans hb.property)
  have object := h.object.trans hb.object.symm
  have number : value = other := UInt64.toNat_inj.mp (same.trans sameToo.symm)
  obtain ⟨_, _, _⟩ := a
  obtain ⟨_, _, _⟩ := b
  simp_all

theorem not_lacks_of_meets {demands : List Demand} {numbers : List Assignment}
    (h : List.Forall₂ tables.Meets demands numbers) : ∀ demand ∈ demands, ¬tables.Lacks demand := by
  induction h with
  | nil => simp
  | cons first _ ih =>
    intro demand hd
    rcases List.mem_cons.mp hd with rfl | hd
    · simp [PropertyCache.Lacks, first.property]
    · exact ih demand hd

theorem FrameBuilt.unique {result other : Except DisplayError (Transaction × List SkippedProperty)}
    (h : FrameBuilt topology tables content result)
    (ho : FrameBuilt topology tables content other) : result = other := by
  cases h with
  | lacking first =>
    cases ho with
    | lacking firstToo => rw [first.unique firstToo]
    | complete met => exact absurd first.holds (not_lacks_of_meets met _ first.mem)
  | complete met =>
    cases ho with
    | lacking first => exact absurd first.holds (not_lacks_of_meets met _ first.mem)
    | complete metToo =>
      have functional : Relator.RightUnique tables.Meets := fun _ _ _ h hb => h.unique hb
      rw [functional.forall₂ met metToo]

end Determined

section Distinct

/-- That a property of an object is the one that a part has under a name. -/
def PropertyCache.Keeps (tables : PropertyCache) (key : PathPart × String)
    (slot : DisplayObject × PropertyId) : Prop :=
  slot.1 = (tables.table key.1).object ∧ (tables.table key.1).lookup key.2 = some slot.2

/-- What tells the tables apart tells the parts apart. -/
theorem PropertyCache.part_inj {α : Type} (f : PropertyTable → α)
    (apart : [f tables.connector, f tables.crtc, f tables.plane].Nodup) {part other : PathPart}
    (same : f (tables.table part) = f (tables.table other)) : part = other := by
  simp only [List.nodup_cons, List.mem_cons, List.not_mem_nil, or_false, not_or] at apart
  cases part <;> cases other <;> simp_all [PropertyCache.table]

theorem PropertyCache.Distinct.biUnique (distinct : tables.Distinct) :
    Relator.BiUnique tables.Keeps := by
  constructor
  · intro key other slot h ho
    have part := tables.part_inj (·.object) distinct.objects (h.1.symm.trans ho.1)
    have found := ho.2
    rw [← part] at found
    exact Prod.ext part (PropertyTable.lookup_inj (distinct.numbers key.1) h.2 found)
  · intro key slot other h ho
    exact Prod.ext (h.1.trans ho.1.symm) (Option.some.inj (h.2.symm.trans ho.2))

/-- The parts and names of what a frame demands. -/
def demandKeys (modeset : Bool) : List (PathPart × String) :=
  (if modeset then [(.connector, "CRTC_ID"), (.crtc, "MODE_ID"), (.crtc, "ACTIVE")] else []) ++
    planeNames.map fun name => (.plane, name)

theorem frameDemands_keys (topology : Topology) (content : FrameContent) :
    (frameDemands topology content).map (fun demand => (demand.part, demand.name)) =
      demandKeys content.modeBlob.isSome := by
  unfold frameDemands
  cases content.modeBlob <;> rfl

theorem demandKeys_nodup : ∀ modeset,
    (demandKeys modeset ++ [(PathPart.plane, "IN_FENCE_FD")] ++
      [(PathPart.crtc, "OUT_FENCE_PTR")]).Nodup := by
  decide

theorem fenceAssignments_kept (tables : PropertyCache) (inFence : Option Fence) :
    ∃ keys, keys.Sublist [(PathPart.plane, "IN_FENCE_FD")] ∧ List.Forall₂ tables.Keeps keys
      ((fenceAssignments tables inFence).map fun a => (a.object, a.property)) := by
  unfold fenceAssignments
  split
  next found => exact ⟨[(.plane, "IN_FENCE_FD")], .refl _, .cons ⟨rfl, found⟩ .nil⟩
  next => exact ⟨[], List.nil_sublist _, .nil⟩

/-- Each assignment is known by the part and the name that it is for. -/
theorem FrameBuilt.kept {txn : Transaction} {skipped : List SkippedProperty}
    (h : FrameBuilt topology tables content (.ok (txn, skipped))) :
    ∃ keys, keys.Sublist (demandKeys content.modeBlob.isSome ++ [(PathPart.plane, "IN_FENCE_FD")]) ∧
      List.Forall₂ tables.Keeps keys (txn.assignments.map fun a => (a.object, a.property)) := by
  cases h with
  | @complete numbers met =>
    obtain ⟨gate, fenced, kept⟩ := fenceAssignments_kept tables content.inFence
    have numbered : List.Forall₂ tables.Keeps (demandKeys content.modeBlob.isSome)
        (numbers.map fun a => (a.object, a.property)) := by
      rw [← frameDemands_keys topology content,
        List.forall₂_map_left_iff, List.forall₂_map_right_iff]
      exact met.imp fun _ _ meets => ⟨meets.object, meets.property⟩
    refine ⟨demandKeys content.modeBlob.isSome ++ gate, fenced.append_left _, ?_⟩
    rw [List.map_append]
    exact List.rel_append numbered kept

theorem FrameBuilt.nodup {txn : Transaction} {skipped : List SkippedProperty}
    (h : FrameBuilt topology tables content (.ok (txn, skipped))) (distinct : tables.Distinct) :
    (txn.assignments.map fun a => (a.object, a.property)).Nodup := by
  obtain ⟨keys, known, kept⟩ := h.kept
  have once := (demandKeys_nodup content.modeBlob.isSome).sublist (List.sublist_append_left _ _)
  exact (List.rel_nodup distinct.biUnique kept).mp (once.sublist known)

end Distinct

/-- What the transaction of a frame comes to is determined by what the objects have: it cannot be
built just if one of them lacks something that is demanded. Where no number is ambiguous, no
property is set twice. -/
theorem transaction_built (topology : Topology) (tables : PropertyCache) (content : FrameContent) :
    (∀ result, Transaction.build topology tables content = result ↔
        FrameBuilt topology tables content result) ∧
      ((∃ e, Transaction.build topology tables content = .error e) ↔
        ∃ demand ∈ frameDemands topology content, tables.Lacks demand) ∧
      (tables.Distinct → ∀ txn skipped,
        Transaction.build topology tables content = .ok (txn, skipped) →
          (txn.assignments.map fun a => (a.object, a.property)).Nodup) := by
  have built : FrameBuilt topology tables content (Transaction.build topology tables content) :=
    build_frameBuilt
  refine ⟨?_, ?_, ?_⟩
  · intro result
    constructor
    · intro same
      exact same ▸ built
    · intro other
      exact built.unique other
  · constructor
    · intro h
      obtain ⟨e, failed⟩ := h
      obtain ⟨demand, first, -⟩ := build_eq_error_iff.mp failed
      exact ⟨demand, first.mem, first.holds⟩
    · intro h
      obtain ⟨demand, first⟩ := exists_firstWith h
      exact ⟨_, build_eq_error_iff.mpr ⟨demand, first, rfl⟩⟩
  · intro distinct txn skipped done
    rw [done] at built
    exact built.nodup distinct

/-- In memory the objects have all that is demanded, and distinct numbers for it: the first frame
sets thirteen properties and its fence, each once. -/
theorem transaction_built_in_memory :
    ∃ p txn skipped, (Memory.frames .plain 0).1 = .ok p ∧ p.tables.Distinct ∧
      Transaction.build p.topology p.tables ⟨⟨77⟩, some 500, some ⟨3⟩, true⟩ =
        .ok (txn, skipped) ∧
      txn.assignments.length = 14 ∧
      (txn.assignments.map fun a => (a.object, a.property)).Nodup := by
  have checked : ((Memory.frames .plain 0).1.toOption.map fun p =>
      decide ([p.tables.connector.object, p.tables.crtc.object, p.tables.plane.object].Nodup ∧
        (p.tables.connector.entries.map (·.handle)).Nodup ∧
        (p.tables.crtc.entries.map (·.handle)).Nodup ∧
        (p.tables.plane.entries.map (·.handle)).Nodup ∧
        (Transaction.build p.topology p.tables
          ⟨⟨77⟩, some 500, some ⟨3⟩, true⟩).toOption.any fun built =>
            built.1.assignments.length = 14)) = some true := by
    decide +kernel
  obtain ⟨p, hp, holds⟩ := Option.map_eq_some_iff.mp checked
  obtain ⟨objects, connector, crtc, plane, built⟩ := of_decide_eq_true holds
  obtain ⟨⟨txn, skipped⟩, given, complete⟩ := (Option.any_eq_true _ _).mp built
  have distinct : p.tables.Distinct := by
    refine ⟨objects, ?_⟩
    intro part
    cases part <;> assumption
  have done := ok_of_toOption given
  obtain ⟨-, -, once⟩ := transaction_built p.topology p.tables ⟨⟨77⟩, some 500, some ⟨3⟩, true⟩
  exact ⟨p, txn, skipped, ok_of_toOption hp, distinct, done, by simpa using complete,
    once distinct txn skipped done⟩

end Scanout
