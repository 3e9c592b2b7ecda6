import Scanout.Proofs.ShownSlot

namespace Scanout

theorem PropertyTable.Assigns.named {table : PropertyTable} {values : List (String × PropertyValue)}
    {added : List Assignment} (h : table.Assigns values added) :
    ∀ a ∈ added, ∃ name, table.lookup name = some a.property ∧ (name, a.value) ∈ values := by
  induction h with
  | nil => simp
  | @cons named first _ _ ha _ ih =>
    obtain ⟨found, -, value⟩ := ha
    intro a hm
    rcases List.mem_cons.mp hm with rfl | hm
    · exact ⟨named.1, found, by simp [value]⟩
    · obtain ⟨name, hl, hv⟩ := ih a hm
      exact ⟨name, hl, List.mem_cons_of_mem _ hv⟩

/-- What is assigned by other names leaves a property alone, if the table has its number once. -/
theorem PropertyTable.Assigns.avoids {table : PropertyTable}
    {values : List (String × PropertyValue)} {added : List Assignment} {name : String}
    {property : PropertyId} (h : table.Assigns values added)
    (distinct : (table.entries.map (·.handle)).Nodup) (hl : table.lookup name = some property)
    (absent : ∀ named ∈ values, named.1 ≠ name) : ∀ a ∈ added, a.property ≠ property := by
  intro a ha same
  obtain ⟨other, found, hv⟩ := h.named a ha
  rw [same] at found
  exact absent _ hv (lookup_inj distinct found hl)

namespace Transaction

variable {topology : Topology} {tables : PropertyCache} {content : FrameContent}
  {txn : Transaction} {skipped : List SkippedProperty}

theorem filter_avoiding {assignments : List Assignment} {object : DisplayObject}
    {property : PropertyId}
    (h : ∀ a ∈ assignments, ¬(a.object = object ∧ a.property = property)) :
    assignments.filter (fun a => a.object = object ∧ a.property = property) = [] :=
  List.filter_eq_nil_iff.mpr fun a ha => h a ha ∘ of_decide_eq_true

theorem planeValues_number (topology : Topology) (framebuffer : FramebufferId) :
    ∀ named ∈ planeValues topology framebuffer, ∃ value, named.2 = .number value := by
  simp [planeValues]

/-- What sets the mode and the plane are numbers. -/
theorem unfenced {moded planed : List Assignment}
    (hm : SetsMode topology tables content.modeBlob moded)
    (hp : tables.plane.Assigns (planeValues topology content.framebuffer) planed) :
    ∀ a ∈ moded ++ planed, ∃ value, a.value = .number value := by
  intro a ha
  rcases List.mem_append.mp ha with ha | ha
  · cases hb : content.modeBlob with
    | none =>
      rw [hb] at hm
      obtain rfl : moded = [] := hm
      simp at ha
    | some blob =>
      rw [hb] at hm
      obtain ⟨crtcId, modeId, activeId, -, -, -, rfl⟩ := hm.assignments
      rcases List.mem_cons.mp ha with rfl | ha
      · exact ⟨_, rfl⟩
      · rcases List.mem_pair.mp ha with rfl | rfl <;> exact ⟨_, rfl⟩
  · obtain ⟨name, -, hv⟩ := hp.named a ha
    exact planeValues_number topology content.framebuffer _ hv

theorem fence_attached (h : build topology tables content = .ok (txn, skipped)) :
    ∀ a ∈ txn.assignments, ∀ fence, a.value = .fence fence → content.inFence = some fence := by
  obtain ⟨moded, planed, rfl, hm, hp⟩ := build_ok h
  intro a ha fence hv
  have numbers := unfenced hm hp
  have split : a ∈ (moded ++ planed) ++ fenceAssignments tables content.inFence := by
    simpa [ofFrame] using ha
  rcases List.mem_append.mp split with ha | ha
  · obtain ⟨value, number⟩ := numbers a ha
    simp [number] at hv
  · unfold fenceAssignments at ha
    split at ha
    next attached property given found =>
      obtain rfl := List.mem_singleton.mp ha
      rw [given, ← PropertyValue.fence.inj hv]
    next => simp at ha

/-- That a transaction is gated by a fence and has its flip report to another: the fence is the last
that the plane is given, and the only one. -/
structure GatedBy (txn : Transaction) (topology : Topology) (tables : PropertyCache)
    (fence : Fence) : Prop where
  inFence : ∃ property, tables.plane.lookup "IN_FENCE_FD" = some property ∧
    txn.assignments.getLast? = some ⟨.plane topology.plane, property, .fence fence⟩ ∧
    ((tables.plane.entries.map (·.handle)).Nodup →
      txn.valuesOf (.plane topology.plane) property = [.fence fence])
  only : ∀ a ∈ txn.assignments, ∀ attached, a.value = .fence attached → attached = fence
  outFence : ∃ property, tables.crtc.lookup "OUT_FENCE_PTR" = some property ∧
    txn.outFence = some (topology.crtc, property)

theorem planeValues_unfenced (topology : Topology) (framebuffer : FramebufferId) :
    ∀ named ∈ planeValues topology framebuffer, named.1 ≠ "IN_FENCE_FD" := by
  simp [planeValues]

/-- What a frame assigns besides its fence leaves the in-fence of the plane alone, if the plane's
properties have numbers of their own. -/
theorem ungated {moded planed : List Assignment} {property : PropertyId}
    (described : tables.Describes topology)
    (hm : SetsMode topology tables content.modeBlob moded)
    (hp : tables.plane.Assigns (planeValues topology content.framebuffer) planed)
    (hl : tables.plane.lookup "IN_FENCE_FD" = some property)
    (distinct : (tables.plane.entries.map (·.handle)).Nodup) :
    ∀ a ∈ moded ++ planed, ¬(a.object = .plane topology.plane ∧ a.property = property) := by
  rintro a ha ⟨onPlane, same⟩
  rcases List.mem_append.mp ha with ha | ha
  · exact hm.elsewhere described a ha onPlane
  · have others := planeValues_unfenced topology content.framebuffer
    exact hp.avoids distinct hl others a ha same

theorem build_gated {fence : Fence} (described : tables.Describes topology)
    (inFence : (tables.plane.lookup "IN_FENCE_FD").isSome)
    (outFence : (tables.crtc.lookup "OUT_FENCE_PTR").isSome)
    (gate : content.inFence = some fence) (wanted : content.wantOutFence = true)
    (h : build topology tables content = .ok (txn, skipped)) :
    txn.GatedBy topology tables fence := by
  obtain ⟨property, hl⟩ := Option.isSome_iff_exists.mp inFence
  obtain ⟨pointer, ho⟩ := Option.isSome_iff_exists.mp outFence
  obtain ⟨moded, planed, rfl, hm, hp⟩ := build_ok h
  have attached : fenceAssignments tables content.inFence =
      [⟨.plane topology.plane, property, .fence fence⟩] := by
    simp [fenceAssignments, gate, hl, described.plane]
  have assigned : (ofFrame topology tables content moded planed).assignments =
      (moded ++ planed) ++ [⟨.plane topology.plane, property, .fence fence⟩] := by
    simp [ofFrame, attached]
  refine ⟨⟨property, hl, by simp [assigned], ?_⟩, ?_, pointer, ho, ?_⟩
  · intro distinct
    have others := filter_avoiding (ungated described hm hp hl distinct)
    unfold valuesOf
    rw [assigned, List.filter_append, others]
    simp
  · intro a ha given hv
    exact (Option.some.inj (gate.symm.trans (fence_attached h a ha given hv))).symm
  · simp [ofFrame, outFenceRequest, wanted, ho]

/-- That a transaction puts a framebuffer onto the plane. If the plane's properties have numbers of
their own, it is the only one. -/
structure Puts (txn : Transaction) (topology : Topology) (tables : PropertyCache)
    (framebuffer : FramebufferId) : Prop where
  shows : ∃ property, tables.plane.lookup "FB_ID" = some property ∧
    txn.get (.plane topology.plane) property = some (.number framebuffer.id.toUInt64) ∧
    ((tables.plane.entries.map (·.handle)).Nodup →
      txn.valuesOf (.plane topology.plane) property = [.number framebuffer.id.toUInt64])

theorem fenceAssignments_avoid {inFence : Option Fence} {property : PropertyId}
    (distinct : (tables.plane.entries.map (·.handle)).Nodup)
    (hl : tables.plane.lookup "FB_ID" = some property) :
    ∀ a ∈ fenceAssignments tables inFence, a.property ≠ property := by
  intro a ha same
  unfold fenceAssignments at ha
  split at ha
  next gate found =>
    obtain rfl := List.mem_singleton.mp ha
    obtain rfl : gate = property := same
    simpa using PropertyTable.lookup_inj distinct found hl
  next => simp at ha

theorem build_puts (described : tables.Describes topology)
    (h : build topology tables content = .ok (txn, skipped)) :
    txn.Puts topology tables content.framebuffer := by
  obtain ⟨property, hl, hg⟩ := build_shows described h
  refine ⟨property, hl, hg, ?_⟩
  intro distinct
  obtain ⟨moded, planed, rfl, hm, hp⟩ := build_ok h
  -- Of the values of the plane the first is the framebuffer. The rest go by other names.
  obtain ⟨⟨_, shown, _⟩, rest, ⟨found, rfl, rfl⟩, hr, rfl⟩ := List.forall₂_cons_left_iff.mp hp
  obtain rfl : shown = property := Option.some.inj (found.symm.trans hl)
  have others := PropertyTable.Assigns.avoids hr distinct hl (by simp)
  have skipModed := filter_avoiding fun a ha
      (both : a.object = .plane topology.plane ∧ a.property = shown) =>
    hm.elsewhere described a ha both.1
  have skipRest := filter_avoiding fun a ha
      (both : a.object = .plane topology.plane ∧ a.property = shown) => others a ha both.2
  have skipFence := filter_avoiding fun a (ha : a ∈ fenceAssignments tables content.inFence)
      (both : a.object = .plane topology.plane ∧ a.property = shown) =>
    fenceAssignments_avoid distinct hl a ha both.2
  unfold valuesOf ofFrame
  dsimp only
  rw [List.filter_append, List.cons_append, skipModed,
    List.filter_cons_of_pos (by simp [described.plane]), List.filter_append, skipRest, skipFence]
  rfl

end Transaction

namespace Pipeline

variable {p : Pipeline} {drawn : Drawn} {txn : Transaction} {begun : List Exchange}

theorem SubmittedAs.fence_attached (h : p.SubmittedAs drawn txn begun) :
    ∀ a ∈ txn.assignments, ∀ fence, a.value = .fence fence → fence = drawn.fence := by
  intro a ha fence hv
  cases h with
  | flip _ hb => exact (Option.some.inj (Transaction.fence_attached hb a ha fence hv)).symm
  | modeset _ _ hb => exact (Option.some.inj (Transaction.fence_attached hb a ha fence hv)).symm

theorem SubmittedAs.puts (described : p.tables.Describes p.topology)
    (h : p.SubmittedAs drawn txn begun) : txn.Puts p.topology p.tables drawn.framebuffer := by
  cases h with
  | flip _ hb => exact Transaction.build_puts described hb
  | modeset _ _ hb => exact Transaction.build_puts described hb

theorem SubmittedAs.gated (described : p.tables.Describes p.topology)
    (inFence : (p.tables.plane.lookup "IN_FENCE_FD").isSome)
    (outFence : (p.tables.crtc.lookup "OUT_FENCE_PTR").isSome)
    (h : p.SubmittedAs drawn txn begun) : txn.GatedBy p.topology p.tables drawn.fence := by
  cases h with
  | flip _ hb => exact Transaction.build_gated described inFence outFence rfl rfl hb
  | modeset _ _ hb => exact Transaction.build_gated described inFence outFence rfl rfl hb

end Pipeline

end Scanout
