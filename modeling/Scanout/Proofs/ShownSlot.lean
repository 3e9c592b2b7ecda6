import Scanout.Proofs.RingKept
import Scanout.Proofs.TransactionShape

namespace Scanout

/-- Setting the mode leaves the plane alone. -/
theorem Transaction.SetsMode.elsewhere {topology : Topology} {tables : PropertyCache}
    {blob : Option UInt64} {moded : List Assignment} (described : tables.Describes topology)
    (h : SetsMode topology tables blob moded) : ∀ a ∈ moded, a.object ≠ .plane topology.plane := by
  intro a ha
  cases blob with
  | none =>
    obtain rfl : moded = [] := h
    simp at ha
  | some blob =>
    obtain ⟨bound, driven, rfl, hbound, hdriven⟩ := h
    rcases List.mem_append.mp ha with ha | ha
    · simp [hbound.on_object a ha, described.connector]
    · simp [hdriven.on_object a ha, described.crtc]

/-- A transaction puts the frame's framebuffer onto the plane. -/
theorem build_shows {topology : Topology} {tables : PropertyCache}
    {content : Transaction.FrameContent} {txn : Transaction} {skipped : List SkippedProperty}
    (described : tables.Describes topology)
    (h : Transaction.build topology tables content = .ok (txn, skipped)) :
    ∃ property, tables.plane.lookup "FB_ID" = some property ∧
      txn.get (.plane topology.plane) property =
        some (.number content.framebuffer.id.toUInt64) := by
  obtain ⟨moded, planed, rfl, hmode, hplane⟩ := Transaction.build_ok h
  obtain ⟨⟨_, property, _⟩, rest, ⟨hl, rfl, rfl⟩, -, rfl⟩ := List.forall₂_cons_left_iff.mp hplane
  refine ⟨property, hl, ?_⟩
  have skip : moded.find? (fun a => a.object == .plane topology.plane && a.property == property) =
      none := by
    apply List.find?_eq_none.mpr
    intro a ha
    simp [hmode.elsewhere described a ha]
  unfold Transaction.get Transaction.ofFrame
  rw [List.find?_append, skip, described.plane]
  simp

namespace Pipeline

/-- Whether a transaction puts the buffer in a slot of the ring onto the screen. -/
def showsSlot (p : Pipeline) (txn : Transaction) (slot : Nat) : Bool :=
  match p.tables.plane.lookup "FB_ID", p.pool.framebuffer? slot with
  | some property, some framebuffer =>
    txn.get (.plane p.topology.plane) property == some (.number framebuffer.id.toUInt64)
  | _, _ => false

variable {p q : Pipeline} {txn : Transaction}

theorem showsSlot_iff {slot : Nat} :
    p.showsSlot txn slot = true ↔ ∃ property framebuffer,
      p.tables.plane.lookup "FB_ID" = some property ∧
      p.pool.framebuffer? slot = some framebuffer ∧
      txn.get (.plane p.topology.plane) property = some (.number framebuffer.id.toUInt64) := by
  unfold showsSlot
  cases p.tables.plane.lookup "FB_ID" <;> cases p.pool.framebuffer? slot <;> simp

theorem SubmittedAs.shows {drawn : Drawn} {begun : List Exchange}
    (described : p.tables.Describes p.topology) (h : p.SubmittedAs drawn txn begun) :
    ∃ property, p.tables.plane.lookup "FB_ID" = some property ∧
      txn.get (.plane p.topology.plane) property =
        some (.number drawn.framebuffer.id.toUInt64) := by
  cases h with
  | flip _ hb => exact build_shows described hb
  | modeset _ _ hb => exact build_shows described hb

theorem showsSlot_later {slot : Nat} (same : p.SameOutput q) (kept : p.pool.RingKept q.pool)
    (h : p.showsSlot txn slot = true) : q.showsSlot txn slot = true := by
  obtain ⟨property, framebuffer, hl, hf, hg⟩ := showsSlot_iff.mp h
  rw [← same.tables] at hl
  rw [← same.topology] at hg
  exact showsSlot_iff.mpr ⟨property, framebuffer, hl, kept.framebuffers _ _ hf, hg⟩

/-- A frame that comes to its submission was drawn into its slot, and shows that. -/
theorem FrameRecord.shows_slot {result : Except DisplayError Unit × Pipeline}
    {sofar later : List Exchange} {answer : Except CallError (Option Fence)}
    (h : p.FrameRecord result (sofar ++ .submitted txn answer :: later))
    (hs : p.pool.surface = none) (described : p.tables.Describes p.topology) :
    ∃ buffer fence, p.pool.buffer? (p.pool.slotForFrame p.frame) = some buffer ∧
      .rendered (.slot (p.pool.slotForFrame p.frame) buffer) p.frame (.ok fence) ∈ sofar ∧
      result.2.showsSlot txn (p.pool.slotForFrame p.frame) = true := by
  obtain ⟨pool, drawn, q, queued, drawing, waiting, begun, -, hd, hw, hf, rfl⟩ := h.at_commit rfl
  obtain rfl : q = p.readied pool := hw.leaves
  have kept : pool.RingKept result.2.pool :=
    ringKept_compositional.flip rfl hf (hd.ringKept hs).surface
  have same : (p.readied pool).SameOutput result.2 := sameOutput_compositional.flip rfl hf
  have readied : (p.readied pool).tables.Describes (p.readied pool).topology := described
  obtain ⟨hsub, -, -⟩ := hf.at_submit
  obtain ⟨property, hl, hg⟩ := hsub.shows readied
  cases hd with
  | @slotDrawn entry buffer framebuffer _ added fence _ he hb hr =>
    refine ⟨buffer, fence, BufferPool.buffer?_of_entry he hb, by simp, ?_⟩
    apply showsSlot_later same kept
    exact showsSlot_iff.mpr ⟨property, framebuffer, hl, hr.framebuffer he, hg⟩
  | surfaceDrawn _ hsurface => simp [hs] at hsurface

end Pipeline

end Scanout
