import Mathlib.Data.List.Forall2
import Mathlib.Data.List.Nodup
import Scanout.Transaction

namespace Scanout

/-- That assignments give the properties of a table their values, by name and in this order. -/
def PropertyTable.Assigns (table : PropertyTable) :
    List (String × PropertyValue) → List Assignment → Prop :=
  List.Forall₂ fun named a =>
    table.lookup named.1 = some a.property ∧ a.object = table.object ∧ a.value = named.2

theorem PropertyTable.Assigns.on_object {table : PropertyTable}
    {values : List (String × PropertyValue)} {added : List Assignment}
    (h : table.Assigns values added) : ∀ a ∈ added, a.object = table.object := by
  induction h with
  | nil => simp
  | cons ha _ ih =>
    intro a hm
    rcases List.mem_cons.mp hm with rfl | hm
    · exact ha.2.1
    · exact ih a hm

/-- Two names of a property whose number stands in the table once are the same. -/
theorem PropertyTable.lookup_inj {table : PropertyTable} {property : PropertyId}
    {name other : String} (distinct : (table.entries.map (·.handle)).Nodup)
    (h : table.lookup name = some property) (ho : table.lookup other = some property) :
    name = other := by
  obtain ⟨entry, he, hh⟩ := Option.map_eq_some_iff.mp h
  obtain ⟨entry', he', hh'⟩ := Option.map_eq_some_iff.mp ho
  have hm : entry ∈ table.entries := List.mem_of_find?_eq_some he
  have hm' : entry' ∈ table.entries := List.mem_of_find?_eq_some he'
  have same : entry = entry' := List.inj_on_of_nodup_map distinct hm hm' (hh.trans hh'.symm)
  have hn : entry.name = name := by simpa using List.find?_some he
  have hn' : entry'.name = other := by simpa using List.find?_some he'
  rw [← hn, ← hn', same]

namespace Transaction

/-- The values a transaction assigns to a property of an object. -/
def valuesOf (txn : Transaction) (object : DisplayObject) (property : PropertyId) :
    List PropertyValue :=
  (txn.assignments.filter fun a => a.object = object ∧ a.property = property).map (·.value)

/-- A transaction with more assignments. -/
def extended (txn : Transaction) (added : List Assignment) : Transaction :=
  { txn with assignments := txn.assignments ++ added }

/-- Assigns several properties of one table, none of which can be done without. -/
def setAll (txn : Transaction) (table : PropertyTable) :
    List (String × PropertyValue) → Except DisplayError Transaction
  | [] => .ok txn
  | (name, value) :: rest => do
    let txn ← txn.set table name value
    txn.setAll table rest

/-- What the plane of a frame is set to. -/
def planeValues (topology : Topology) (framebuffer : FramebufferId) :
    List (String × PropertyValue) :=
  let w := topology.size.1.toUInt64
  let h := topology.size.2.toUInt64
  [("FB_ID", .number framebuffer.id.toUInt64), ("CRTC_ID", .number topology.crtc.id.toUInt64),
    ("SRC_X", .number 0), ("SRC_Y", .number 0), ("SRC_W", .number (w <<< 16)),
    ("SRC_H", .number (h <<< 16)), ("CRTC_X", .number 0), ("CRTC_Y", .number 0),
    ("CRTC_W", .number w), ("CRTC_H", .number h)]

theorem bind_ok {ε α β : Type} {x : Except ε α} {next : α → Except ε β} {b : β}
    (h : x >>= next = .ok b) : ∃ a, x = .ok a ∧ next a = .ok b := by
  cases x with
  | error e => cases h
  | ok a => exact ⟨a, rfl, h⟩

theorem bind_ok_id {ε α : Type} (x : Except ε α) : (x >>= fun a => .ok a) = x := by
  cases x <;> rfl

theorem set_ok {txn txn' : Transaction} {table : PropertyTable} {name : String}
    {value : PropertyValue} (h : txn.set table name value = .ok txn') :
    ∃ property, table.lookup name = some property ∧
      txn' = txn.extended [⟨table.object, property, value⟩] := by
  unfold set PropertyTable.require at h
  cases hl : table.lookup name with
  | none => simp [hl] at h
  | some property =>
    rw [hl] at h
    exact ⟨property, rfl, (Except.ok.inj h).symm⟩

theorem setAll_ok {txn txn' : Transaction} {table : PropertyTable}
    {values : List (String × PropertyValue)} (h : txn.setAll table values = .ok txn') :
    ∃ added, table.Assigns values added ∧ txn' = txn.extended added := by
  induction values generalizing txn with
  | nil =>
    cases Except.ok.inj h
    exact ⟨[], .nil, by simp [extended]⟩
  | cons named rest ih =>
    obtain ⟨between, hs, hr⟩ := bind_ok h
    obtain ⟨property, hl, rfl⟩ := set_ok hs
    obtain ⟨added, ha, rfl⟩ := ih hr
    refine ⟨⟨table.object, property, named.2⟩ :: added, ?_, by simp [extended]⟩
    exact .cons ⟨hl, rfl, rfl⟩ ha

theorem setPlane_eq_setAll (txn : Transaction) (topology : Topology) (plane : PropertyTable)
    (framebuffer : FramebufferId) :
    txn.setPlane topology plane framebuffer =
      txn.setAll plane (planeValues topology framebuffer) := by
  simp only [setPlane, planeValues, setAll, bind_ok_id]

/-- What a modeset assigns, and a mere flip does not. -/
def SetsMode (topology : Topology) (tables : PropertyCache) :
    Option UInt64 → List Assignment → Prop
  | none, added => added = []
  | some blob, added => ∃ bound driven, added = bound ++ driven ∧
      tables.connector.Assigns [("CRTC_ID", .number topology.crtc.id.toUInt64)] bound ∧
      tables.crtc.Assigns [("MODE_ID", .number blob), ("ACTIVE", .number 1)] driven

/-- The three assignments of a modeset. -/
theorem SetsMode.assignments {topology : Topology} {tables : PropertyCache} {blob : UInt64}
    {added : List Assignment} (h : SetsMode topology tables (some blob) added) :
    ∃ crtcId modeId activeId, tables.connector.lookup "CRTC_ID" = some crtcId ∧
      tables.crtc.lookup "MODE_ID" = some modeId ∧
      tables.crtc.lookup "ACTIVE" = some activeId ∧
      added = [⟨tables.connector.object, crtcId, .number topology.crtc.id.toUInt64⟩,
        ⟨tables.crtc.object, modeId, .number blob⟩, ⟨tables.crtc.object, activeId, .number 1⟩] := by
  obtain ⟨bound, driven, rfl, hbound, hdriven⟩ := h
  obtain ⟨⟨_, crtcId, _⟩, _, ⟨hcrtc, rfl, rfl⟩, hnil, rfl⟩ := List.forall₂_cons_left_iff.mp hbound
  obtain rfl := List.forall₂_nil_left_iff.mp hnil
  obtain ⟨⟨_, modeId, _⟩, _, ⟨hmode, rfl, rfl⟩, hrest, rfl⟩ :=
    List.forall₂_cons_left_iff.mp hdriven
  obtain ⟨⟨_, activeId, _⟩, _, ⟨hactive, rfl, rfl⟩, hnil, rfl⟩ :=
    List.forall₂_cons_left_iff.mp hrest
  obtain rfl := List.forall₂_nil_left_iff.mp hnil
  exact ⟨crtcId, modeId, activeId, hcrtc, hmode, hactive, rfl⟩

theorem setMode_ok {txn txn' : Transaction} {topology : Topology} {tables : PropertyCache}
    {blob : UInt64} (h : txn.setMode topology.crtc tables blob = .ok txn') :
    ∃ added, SetsMode topology tables (some blob) added ∧ txn' = txn.extended added := by
  obtain ⟨between, hc, hrest⟩ := bind_ok h
  have hbound : txn.setAll tables.connector
      [("CRTC_ID", .number topology.crtc.id.toUInt64)] = .ok between := by
    simpa only [setAll, bind_ok_id] using hc
  have hdriven : between.setAll tables.crtc
      [("MODE_ID", .number blob), ("ACTIVE", .number 1)] = .ok txn' := by
    simpa only [setAll, bind_ok_id] using hrest
  obtain ⟨bound, hb, rfl⟩ := setAll_ok hbound
  obtain ⟨driven, hd, rfl⟩ := setAll_ok hdriven
  exact ⟨bound ++ driven, ⟨bound, driven, rfl, hb, hd⟩, by simp [extended]⟩

/-- The assignment of the in-fence, if there is a fence and the plane has the property. -/
def fenceAssignments (tables : PropertyCache) (inFence : Option Fence) : List Assignment :=
  match inFence, tables.plane.lookup "IN_FENCE_FD" with
  | some fence, some property => [⟨tables.plane.object, property, .fence fence⟩]
  | _, _ => []

/-- Where an out-fence is asked for, if one is wanted and the CRTC has the property. -/
def outFenceRequest (topology : Topology) (tables : PropertyCache) (wanted : Bool) :
    Option (CrtcId × PropertyId) :=
  if wanted then (tables.crtc.lookup "OUT_FENCE_PTR").map (topology.crtc, ·) else none

theorem fenceAssignments_on_plane {tables : PropertyCache} {inFence : Option Fence} :
    ∀ a ∈ fenceAssignments tables inFence, a.object = tables.plane.object := by
  unfold fenceAssignments
  split <;> simp

theorem setFences_eq (txn : Transaction) (topology : Topology) (tables : PropertyCache)
    (content : FrameContent) (bare : txn.outFence = none) :
    (txn.setFences topology tables content).1 =
      { txn.extended (fenceAssignments tables content.inFence) with
        outFence := outFenceRequest topology tables content.wantOutFence } := by
  obtain ⟨flags, assignments, outFence⟩ := txn
  obtain rfl : outFence = none := bare
  unfold setFences setOptional requestOutFence fenceAssignments outFenceRequest
  cases content.inFence <;> cases tables.plane.lookup "IN_FENCE_FD" <;>
    cases content.wantOutFence <;> cases tables.crtc.lookup "OUT_FENCE_PTR"
  all_goals simp [add, extended]

theorem finish_ok {txn txn' : Transaction} {topology : Topology} {tables : PropertyCache}
    {content : FrameContent} {skipped : List SkippedProperty} (bare : txn.outFence = none)
    (h : (txn.setPlane topology tables.plane content.framebuffer >>= fun planed =>
      .ok (planed.setFences topology tables content)) = .ok (txn', skipped)) :
    ∃ planed, tables.plane.Assigns (planeValues topology content.framebuffer) planed ∧
      txn' = { txn.extended (planed ++ fenceAssignments tables content.inFence) with
        outFence := outFenceRequest topology tables content.wantOutFence } := by
  obtain ⟨planing, hp, hf⟩ := bind_ok h
  rw [setPlane_eq_setAll] at hp
  obtain ⟨planed, hpl, rfl⟩ := setAll_ok hp
  have fenced := setFences_eq (txn.extended planed) topology tables content bare
  rw [Except.ok.inj hf] at fenced
  exact ⟨planed, hpl, by simpa [extended] using fenced⟩

/-- The transaction of a frame, given what it assigns to set the mode and to the plane. -/
def ofFrame (topology : Topology) (tables : PropertyCache) (content : FrameContent)
    (moded planed : List Assignment) : Transaction where
  flags := frameFlags content.modeBlob
  assignments := moded ++ (planed ++ fenceAssignments tables content.inFence)
  outFence := outFenceRequest topology tables content.wantOutFence

/-- A transaction that was built: its flags, what it assigns in which order, and where it asks for
an out-fence. -/
theorem build_ok {topology : Topology} {tables : PropertyCache} {content : FrameContent}
    {txn : Transaction} {skipped : List SkippedProperty}
    (h : build topology tables content = .ok (txn, skipped)) :
    ∃ moded planed, txn = ofFrame topology tables content moded planed ∧
      SetsMode topology tables content.modeBlob moded ∧
      tables.plane.Assigns (planeValues topology content.framebuffer) planed := by
  unfold build at h
  cases hb : content.modeBlob with
  | none =>
    simp only [hb] at h
    obtain ⟨planed, hp, rfl⟩ := finish_ok rfl h
    exact ⟨[], planed, by simp [ofFrame, extended, empty, hb], rfl, hp⟩
  | some blob =>
    simp only [hb] at h
    obtain ⟨moding, hm, hrest⟩ := bind_ok h
    obtain ⟨moded, hs, rfl⟩ := setMode_ok hm
    obtain ⟨planed, hp, rfl⟩ := finish_ok rfl hrest
    exact ⟨moded, planed, by simp [ofFrame, extended, empty, hb], hs, hp⟩

end Transaction

end Scanout
