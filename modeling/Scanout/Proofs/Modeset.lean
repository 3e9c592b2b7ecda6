import Scanout.Proofs.TransactionShape
import Scanout.Proofs.Upkeep

namespace Scanout

namespace Pipeline

/-- Whether the mode is still to be set depends on whether a transaction was accepted. -/
def ModesetBy (p q : Pipeline) (added : List Exchange) : Prop :=
  q.allowModeset = (p.allowModeset && (accepted added).isEmpty)

theorem ModesetBy.trans {p q p' : Pipeline} {added later : List Exchange}
    (h : p.ModesetBy q added) (hl : q.ModesetBy p' later) : p.ModesetBy p' (added ++ later) := by
  unfold ModesetBy at *
  rw [hl, h, accepted_append, Bool.and_assoc]
  cases accepted added <;> simp

theorem modesetBy_of_quiet {p q : Pipeline} {added : List Exchange}
    (hp : q.allowModeset = p.allowModeset) (h : ∀ e ∈ added, e.stage ≠ .commit) :
    p.ModesetBy q added := by
  simp [ModesetBy, hp, accepted_of_stage h]

theorem FinishRecord.modesetBy {p : Pipeline} {result : Except DisplayError Unit × Pipeline}
    {added : List Exchange} (h : p.FinishRecord result added) : p.ModesetBy result.2 added := by
  have stages := h.stage
  rw [h.leaves]
  exact modesetBy_of_quiet rfl (by grind)

theorem FlipRecord.modesetBy {p : Pipeline} {frame : Nat} {drawn : Drawn}
    {result : Except DisplayError Unit × Pipeline} {added : List Exchange}
    (h : p.FlipRecord frame drawn result added) : p.ModesetBy result.2 added := by
  obtain ⟨outcome, committing, given, hc, hr, hg, rfl⟩ := h.parts
  have giving : accepted given = [] := by
    apply accepted_of_stage
    intro e he
    simp [hg e he]
  unfold ModesetBy
  rw [accepted_append, giving, List.append_nil, hc.accepted_isEmpty]
  generalize outcome.result = committed at hr
  cases hr with
  | shown => simp [afterFlip, Except.isOk, Except.toBool]
  | refused => simp [Except.isOk, Except.toBool]

end Pipeline

theorem modesetBy_compositional : Compositional Pipeline.ModesetBy where
  trans := Pipeline.ModesetBy.trans
  idle _ _ h := Pipeline.modesetBy_of_quiet rfl (by grind)
  timed _ _ := Pipeline.modesetBy_of_quiet rfl (by simp)
  drawn hq hd := by
    have begun := Pipeline.stage_of_drawn hq hd
    exact Pipeline.modesetBy_of_quiet rfl (by grind)
  finish hw := hw.modesetBy
  flip _ hf := hf.modesetBy

theorem frameFlags_nonblock (blob : Option UInt64) :
    (Transaction.frameFlags blob).contains .nonblock = true := by
  cases blob with
  | none => decide
  | some blob =>
    show (CommitFlags.nonblock.union .allowModeset).contains .nonblock = true
    decide

theorem frameFlags_allowModeset (blob : Option UInt64) :
    (Transaction.frameFlags blob).contains .allowModeset = blob.isSome := by
  cases blob with
  | none => decide
  | some blob =>
    show (CommitFlags.nonblock.union .allowModeset).contains .allowModeset = true
    decide

namespace Transaction

/-- Besides setting the mode, a frame's transaction touches its plane only. -/
theorem build_around {topology : Topology} {tables : PropertyCache} {content : FrameContent}
    {txn : Transaction} {skipped : List SkippedProperty} (described : tables.Describes topology)
    (h : build topology tables content = .ok (txn, skipped)) :
    ∃ moded rest, txn.flags = frameFlags content.modeBlob ∧ txn.assignments = moded ++ rest ∧
      SetsMode topology tables content.modeBlob moded ∧
      ∀ a ∈ rest, a.object = .plane topology.plane := by
  obtain ⟨moded, planed, rfl, hmoded, hplaned⟩ := build_ok h
  refine ⟨moded, planed ++ fenceAssignments tables content.inFence, rfl, rfl, hmoded, ?_⟩
  intro a ha
  rw [← described.plane]
  rcases List.mem_append.mp ha with ha | ha
  · exact hplaned.on_object a ha
  · exact fenceAssignments_on_plane a ha

theorem valuesOf_around {txn : Transaction} {moded rest : List Assignment} {plane : PlaneId}
    {object : DisplayObject} {property : PropertyId} (h : txn.assignments = moded ++ rest)
    (planar : ∀ a ∈ rest, a.object = .plane plane) (other : object ≠ .plane plane) :
    txn.valuesOf object property =
      (moded.filter fun a => a.object = object ∧ a.property = property).map (·.value) := by
  have skip : rest.filter (fun a => a.object = object ∧ a.property = property) = [] := by
    apply List.filter_eq_nil_iff.mpr
    intro a ha
    have onPlane := planar a ha
    grind
  unfold valuesOf
  rw [h, List.filter_append, skip, List.append_nil]

end Transaction

namespace Pipeline

/-- A transaction that sets the mode: the flag says so, the connector is bound to the CRTC, the
CRTC gets a blob of the mode that still exists, and is turned on. -/
structure Modesets (p : Pipeline) (txn : Transaction) (sofar : List Exchange) : Prop where
  flag : txn.flags.contains .allowModeset = true
  bound : ∃ crtcId, p.tables.connector.lookup "CRTC_ID" = some crtcId ∧
    txn.valuesOf (.connector p.topology.connector) crtcId =
      [.number p.topology.crtc.id.toUInt64]
  mode : ∃ modeId blob, p.tables.crtc.lookup "MODE_ID" = some modeId ∧
    txn.valuesOf (.crtc p.topology.crtc) modeId = [.number blob] ∧
    .blobCreated p.topology.mode (.ok blob) ∈ sofar ∧ ∀ answer, .blobDestroyed blob answer ∉ sofar
  active : ∃ activeId, p.tables.crtc.lookup "ACTIVE" = some activeId ∧
    txn.valuesOf (.crtc p.topology.crtc) activeId = [.number 1]

/-- A transaction that leaves the mode alone, as its flags say. -/
structure OnlyFlips (p : Pipeline) (txn : Transaction) : Prop where
  flag : txn.flags.contains .allowModeset = false
  untouched : ∀ a ∈ txn.assignments,
    a.object ≠ .connector p.topology.connector ∧ a.object ≠ .crtc p.topology.crtc

variable {p q : Pipeline} {txn : Transaction} {begun : List Exchange}

theorem Modesets.of_sameOutput (same : p.SameOutput q) (h : p.Modesets txn begun) :
    q.Modesets txn begun := by
  obtain ⟨flag, bound, mode, active⟩ := h
  rw [← same.topology, ← same.tables] at bound mode active
  exact ⟨flag, bound, mode, active⟩

theorem OnlyFlips.of_sameOutput (same : p.SameOutput q) (h : p.OnlyFlips txn) :
    q.OnlyFlips txn := by
  obtain ⟨flag, untouched⟩ := h
  rw [← same.topology] at untouched
  exact ⟨flag, untouched⟩

theorem Modesets.after {earlier : List Exchange} (quiet : ∀ e ∈ earlier, e.stage ≠ .commit)
    (h : p.Modesets txn begun) : p.Modesets txn (earlier ++ begun) := by
  obtain ⟨modeId, blob, hl, hv, created, kept⟩ := h.mode
  refine ⟨h.flag, h.bound, ⟨modeId, blob, hl, hv, List.mem_append_right _ created, ?_⟩, h.active⟩
  intro answer hm
  rcases List.mem_append.mp hm with hm | hm
  · exact quiet _ hm rfl
  · exact kept answer hm

theorem modesets_of_build {blob : UInt64} {framebuffer : FramebufferId} {fence : Option Fence}
    {skipped : List SkippedProperty} {want : Bool} (described : p.tables.Describes p.topology)
    (distinct : (p.tables.crtc.entries.map (·.handle)).Nodup)
    (h : Transaction.build p.topology p.tables ⟨framebuffer, some blob, fence, want⟩ =
      .ok (txn, skipped)) : p.Modesets txn [.blobCreated p.topology.mode (.ok blob)] := by
  obtain ⟨moded, rest, hflags, hassigned, hmoded, planar⟩ := Transaction.build_around described h
  obtain ⟨crtcId, modeId, activeId, hcrtc, hmode, hactive, rfl⟩ := hmoded.assignments
  have modeActive : modeId ≠ activeId := by
    intro same
    subst same
    simpa using PropertyTable.lookup_inj distinct hmode hactive
  rw [described.connector, described.crtc] at hassigned
  refine ⟨?_, ⟨crtcId, hcrtc, ?_⟩, ⟨modeId, blob, hmode, ?_, by simp, by simp⟩,
    ⟨activeId, hactive, ?_⟩⟩
  · rw [hflags, frameFlags_allowModeset]
    rfl
  · rw [Transaction.valuesOf_around hassigned planar (by simp)]
    simp
  · rw [Transaction.valuesOf_around hassigned planar (by simp)]
    simp [modeActive.symm]
  · rw [Transaction.valuesOf_around hassigned planar (by simp)]
    simp [modeActive]

theorem onlyFlips_of_build {framebuffer : FramebufferId} {fence : Option Fence}
    {skipped : List SkippedProperty} {want : Bool} (described : p.tables.Describes p.topology)
    (h : Transaction.build p.topology p.tables ⟨framebuffer, none, fence, want⟩ =
      .ok (txn, skipped)) : p.OnlyFlips txn := by
  obtain ⟨_, rest, hflags, hassigned, rfl, planar⟩ := Transaction.build_around described h
  refine ⟨?_, ?_⟩
  · rw [hflags, frameFlags_allowModeset]
    rfl
  · intro a ha
    rw [hassigned, List.nil_append] at ha
    simp [planar a ha]

/-- A frame submits what its state asks for: a modeset while the mode is to be set, then a flip. -/
theorem SubmittedAs.mode_agrees {drawn : Drawn} (described : p.tables.Describes p.topology)
    (distinct : (p.tables.crtc.entries.map (·.handle)).Nodup)
    (h : p.SubmittedAs drawn txn begun) :
    txn.flags.contains .nonblock = true ∧
      txn.flags.contains .allowModeset = p.allowModeset ∧
      (p.Modesets txn begun ∨ p.OnlyFlips txn) := by
  cases h with
  | flip hm hb =>
    obtain ⟨_, _, shape, -⟩ := Transaction.build_ok hb
    have flips := onlyFlips_of_build described hb
    exact ⟨shape ▸ frameFlags_nonblock _, hm ▸ flips.flag, .inr flips⟩
  | modeset blob hm hb =>
    obtain ⟨_, _, shape, -⟩ := Transaction.build_ok hb
    have modesets := modesets_of_build described distinct hb
    exact ⟨shape ▸ frameFlags_nonblock _, hm ▸ modesets.flag, .inl modesets⟩

end Pipeline

/-- In any life of a display path, exactly the transactions submitted before one was accepted set
the mode; they do all it takes, and the others nothing of it. None blocks. -/
theorem modeset_until_accepted {σ : Type} [World σ] (device : Device σ) (allocator : Allocator σ)
    (options : Options) (requests : List (Request σ)) (world : σ) {p : Pipeline} {r : Recorded σ}
    {before after : List Exchange} {txn : Transaction} {answer : Except CallError (Option Fence)}
    (h : recordLife device allocator options requests world = (.ok p, r))
    (hr : r.transcript = before ++ .submitted txn answer :: after)
    (distinct : (p.tables.crtc.entries.map (·.handle)).Nodup) :
    txn.flags.contains .nonblock = true ∧
      (txn.flags.contains .allowModeset = true ↔ accepted before = []) ∧
      (p.Modesets txn (frameSoFar before) ∨ p.OnlyFlips txn) := by
  have life := recordLife_record device allocator options requests world
  rw [h, hr] at life
  obtain ⟨p₀, p', readying, past, hp, fresh, quiet, rfl, hm⟩ := life.midFrame rfl
  cases Except.ok.inj hp
  cases hm with
  | @intro start q result past sofar later rest mark e began hm hb hf ended =>
    obtain ⟨pool, drawn, earlier, begun, rfl, hquiet, hs, none⟩ := hf.at_submission
    have same : start.SameOutput p := (sameOutput_compositional.frame hf).trans
      (sameOutput_compositional.steps ended)
    -- The state remembers whether the mode is to be set; only an accepted commit clears that.
    have still : start.allowModeset = (accepted past).isEmpty := by
      have state := modesetBy_compositional.steps began
      rwa [Pipeline.ModesetBy, fresh.allowModeset, Bool.true_and] at state
    have described : (start.readied pool).tables.Describes (start.readied pool).topology :=
      (sameOutput_compositional.steps began).describes fresh.tables
    rw [same.tables] at distinct
    obtain ⟨nonblock, flag, agrees⟩ := hs.mode_agrees described distinct
    have output : (start.readied pool).SameOutput p := ⟨same.topology, same.tables⟩
    have before : accepted (readying ++ (past ++ mark :: (earlier ++ begun))) = accepted past := by
      rw [accepted_append, accepted_append, accepted_cons, accepted_of_setUp quiet,
        accepted?_of_isMark hm, none]
      simp
    refine ⟨nonblock, ?_, ?_⟩
    · rw [flag, before]
      show start.allowModeset = true ↔ accepted past = []
      rw [still, List.isEmpty_iff]
    · rw [← List.append_assoc, frameSoFar_mark hm hf.unmarked_before]
      rcases agrees with modesets | flips
      · exact .inl ((modesets.of_sameOutput output).after hquiet)
      · exact .inr (flips.of_sameOutput output)

/-- The first frame in memory sets the mode. -/
theorem modeset_in_memory :
    ∃ p before txn answer after, (Memory.frames .plain 1).1 = .ok p ∧
      (Memory.frames .plain 1).2.transcript = before ++ .submitted txn answer :: after ∧
      (p.tables.crtc.entries.map (·.handle)).Nodup ∧ txn.flags.contains .nonblock = true ∧
      txn.flags.contains .allowModeset = true ∧
      (p.Modesets txn (frameSoFar before) ∨ p.OnlyFlips txn) := by
  have checked : (Memory.frames .plain 1).1.toOption.map
      (fun p => decide ((p.tables.crtc.entries.map (·.handle)).Nodup)) = some true := by
    decide +kernel
  have first : (Memory.frames .plain 1).2.transcript[60]?.map Exchange.isSubmission =
      some true := by
    decide +kernel
  have unaccepted : accepted ((Memory.frames .plain 1).2.transcript.take 60) = [] := by
    decide +kernel
  obtain ⟨p, hp, hn⟩ := Option.map_eq_some_iff.mp checked
  have distinct := of_decide_eq_true hn
  obtain ⟨e, he, hs⟩ := Option.map_eq_some_iff.mp first
  cases e with
  | submitted txn answer =>
    have life := ok_of_toOption hp
    have split := split_at he
    unfold Memory.frames at life split unaccepted ⊢
    have lived := pair_of_fst life
    obtain ⟨nonblock, flag, agrees⟩ := modeset_until_accepted _ _ _ _ _ lived split distinct
    exact ⟨p, _, txn, answer, _, life, split, distinct, nonblock, flag.mpr unaccepted, agrees⟩
  | _ => simp [Exchange.isSubmission] at hs

end Scanout
