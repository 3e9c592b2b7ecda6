import Scanout.Proofs.GraphicsCalls
import Scanout.Proofs.KeptByCalls

namespace Scanout

open GlesRenderer (ExportRecord RenderRecord SlotRecord OfPlanes exportOf keep)

variable {σ α : Type}

/-- A frame that was drawn into a slot: what the renderer kept before and after, the calls it made,
and what came of it. -/
structure Draw where
  slot : Nat
  buffer : Buffer
  before : List (Option ExportedBuffer)
  calls : List GraphicsCall
  result : Except Failure Fence
  after : List (Option ExportedBuffer)

/-- A world with a renderer and everything that was drawn with it so far. -/
structure Canvas (σ : Type) where
  world : σ
  gles : GlesRenderer
  draws : List Draw

namespace Canvas

instance [World σ] : World (Canvas σ) where
  record n c := { c with world := World.record n c.world }
  now c := ((World.now c.world).1, { c with world := (World.now c.world).2 })
  close fence c := { c with world := World.close fence c.world }

/-- Acts on the world alone. -/
def pass (act : Act σ α) : Act (Canvas σ) α :=
  fun c => ((act c.world).1, { c with world := (act c.world).2 })

end Canvas

open Canvas (pass)

def Device.onCanvas (d : Device σ) : Device (Canvas σ) where
  enable capability := pass (d.enable capability)
  resources := pass d.resources
  connector handle := pass (d.connector handle)
  encoder handle := pass (d.encoder handle)
  planes := pass d.planes
  plane handle := pass (d.plane handle)
  properties object := pass (d.properties object)
  propertyName handle := pass (d.propertyName handle)
  createBlob mode := pass (d.createBlob mode)
  destroyBlob blob := pass (d.destroyBlob blob)
  addFramebuffer layout withModifiers := pass (d.addFramebuffer layout withModifiers)
  removeFramebuffer framebuffer := pass (d.removeFramebuffer framebuffer)
  commit txn := pass (d.commit txn)

def Allocator.onCanvas (a : Allocator σ) : Allocator (Canvas σ) where
  allocate spec placement := pass (a.allocate spec placement)
  createSurface spec placement := pass (a.createSurface spec placement)
  lock surface := pass (a.lock surface)
  release buffer := pass (a.release buffer)
  free buffer := pass (a.free buffer)
  dropSurface surface := pass (a.dropSurface surface)

def Waiter.onCanvas (waiter : Waiter σ) : Waiter (Canvas σ) where
  wait fence := pass (waiter.wait fence)

variable [World σ]

/-- The renderer of a canvas, over a graphics stack. -/
def Graphics.canvasRenderer (g : Graphics σ) : Renderer (Canvas σ) where
  nativeFences := g.nativeFences
  waitForScanout fence := pass (GlesRenderer.waitForScanout g fence)
  render target frame c :=
    let ((result, gles), watched) := GlesRenderer.render g.watched c.gles target frame ⟨c.world, []⟩
    let draws := match target with
      | .slot slot buffer =>
        c.draws ++ [⟨slot, buffer, c.gles.exports, watched.calls, result, gles.exports⟩]
      | .surface _ => c.draws
    (result, ⟨watched.world, gles, draws⟩)

/-- The same call, its frames being drawn by the renderer of a canvas in place of its own. -/
def Request.onCanvas (g : Graphics σ) : Request σ → Request (Canvas σ)
  | .present _ waiter => .present g.canvasRenderer waiter.onCanvas
  | .finish waiter => .finish waiter.onCanvas
  | .run _ waiter interrupted patience budget =>
    .run g.canvasRenderer waiter.onCanvas (pass interrupted) patience budget

/-- What is drawn when a display path is called, by a renderer that has kept nothing yet. -/
def paint (g : Graphics σ) (device : Device σ) (allocator : Allocator σ) (p : Pipeline)
    (requests : List (Request σ)) (viewport : Viewport) (world : σ) : List Draw :=
  (Request.answerAll (fun _ => pure ()) device.onCanvas allocator.onCanvas p
    (requests.map (·.onCanvas g)) ⟨world, ⟨viewport, []⟩, []⟩).2.draws

namespace Draw

/-- That a frame was drawn into what was handed out for it, which then was bound. -/
def Exports (d : Draw) (exported : ExportedBuffer) : Prop :=
  ∃ calls answer, ExportRecord d.buffer (.ok exported) calls ∧
    d.calls = calls ++ [.bound exported answer]

/-- What is kept when some frames have been drawn. -/
def keptAfter (draws : List Draw) : List (Option ExportedBuffer) :=
  (draws.getLast?.map (·.after)).getD []

/-- That a frame was drawn as it has to be after others: into its slot's own buffer, which is handed
out until that goes well for the first time and never again. -/
structure Follows (ring : Nat → Option Buffer) (earlier : List Draw) (d : Draw) : Prop where
  own : ring d.slot = some d.buffer
  found : d.before = keptAfter earlier
  held : ∀ slot exported, exportOf d.before slot = some exported ↔
    ∃ e ∈ earlier, e.slot = slot ∧ e.Exports exported
  reused : ∀ e ∈ earlier, ∀ exported, e.slot = d.slot → e.Exports exported →
    d.after = d.before ∧ ∃ answer, d.calls = [.bound exported answer]
  tried : (∀ e ∈ earlier, ∀ exported, e.slot = d.slot → ¬ e.Exports exported) →
    (∃ failure, ExportRecord d.buffer (.error failure) d.calls ∧ d.result = .error failure ∧
      d.after = d.before) ∨
    ∃ exported, d.Exports exported ∧ ∀ slot, exportOf d.after slot =
      if slot = d.slot then some exported else exportOf d.before slot
  refused : ∀ buffer plane cause, .planeExported buffer plane (.error cause) ∈ d.calls →
    d.after = d.before
  bound : ∀ target answer, .bound target answer ∈ d.calls →
    ∃ e ∈ earlier ++ [d], e.slot = d.slot ∧ e.buffer = d.buffer ∧ e.Exports target
  planes : ∀ exported, d.Exports exported → OfPlanes exported d.buffer d.calls ∧
    (d.buffer.layout.Contiguous → ∀ i (_ : i < 4),
      (i < exported.planes.length ↔ d.buffer.layout.planes[i].handle.isSome))

/-- How drawing goes: into what is kept for the slot, not at all, or into what is handed out now. -/
inductive Course (d : Draw) : Prop
  | reused {exported : ExportedBuffer} {answer : Except Failure Unit} :
      exportOf d.before d.slot = some exported → d.calls = [.bound exported answer] →
      d.after = d.before → Course d
  | failed {failure : Failure} : exportOf d.before d.slot = none →
      ExportRecord d.buffer (.error failure) d.calls → d.result = .error failure →
      d.after = d.before → Course d
  | exported {exported : ExportedBuffer} : exportOf d.before d.slot = none →
      d.Exports exported → d.after = keep d.before d.slot exported → Course d

theorem course_of_record {r left : GlesRenderer} {slot : Nat} {buffer : Buffer}
    {result : Except Failure Fence} {calls : List GraphicsCall}
    (h : RenderRecord r slot buffer (result, left) calls) :
    Course ⟨slot, buffer, r.exports, calls, result, left.exports⟩ := by
  cases h with
  | undrawn hs =>
    cases hs with
    | failed hk hx => exact .failed hk hx rfl rfl
  | bound answer result hs =>
    cases hs with
    | kept hk => exact .reused hk rfl rfl
    | exported hk hx => exact .exported hk ⟨_, answer, hx, rfl⟩ rfl

variable {d : Draw} {exported : ExportedBuffer}

theorem not_exports_of_reused {answer : Except Failure Unit}
    (h : d.calls = [.bound exported answer]) (other : ExportedBuffer) : ¬ d.Exports other := by
  rintro ⟨calls, given, hx, hc⟩
  rw [h] at hc
  rcases List.append_eq_singleton_iff.mp hc.symm with ⟨none, -⟩ | ⟨-, none⟩
  · exact hx.all_ok.1 none
  · cases none

theorem not_exports_of_failed {failure : Failure}
    (h : ExportRecord d.buffer (.error failure) d.calls) (other : ExportedBuffer) :
    ¬ d.Exports other := by
  rintro ⟨calls, given, -, hc⟩
  obtain ⟨plane, answer, he⟩ := h.exports (.bound other given) (by simp [hc])
  cases he

theorem Exports.unique {other : ExportedBuffer} (h : d.Exports exported) (ho : d.Exports other) :
    exported = other := by
  obtain ⟨calls, answer, -, hc⟩ := h
  obtain ⟨calls', answer', -, hc'⟩ := ho
  obtain ⟨-, last⟩ := List.append_inj' (hc.symm.trans hc') rfl
  cases last
  rfl

/-- What is kept for a slot after a frame was kept before or handed out for that frame. -/
theorem Course.kept_iff (h : Course d) (slot : Nat) : exportOf d.after slot = some exported ↔
    exportOf d.before slot = some exported ∨ slot = d.slot ∧ d.Exports exported := by
  cases h with
  | reused _ hc ha => simp [ha, not_exports_of_reused hc]
  | failed _ hx _ ha => simp [ha, not_exports_of_failed hx]
  | @exported made hk hx ha =>
    rw [ha, GlesRenderer.exportOf_keep]
    by_cases same : slot = d.slot
    · subst same
      have made_iff : made = exported ↔ d.Exports exported :=
        ⟨fun he => he ▸ hx, hx.unique⟩
      simpa [hk] using made_iff
    · simp [same]

/-- That the frames drawn so far account for what is kept. -/
structure Account (ring : Nat → Option Buffer) (kept : List (Option ExportedBuffer))
    (draws : List Draw) : Prop where
  current : kept = keptAfter draws
  held : ∀ slot exported, exportOf kept slot = some exported ↔
    ∃ e ∈ draws, e.slot = slot ∧ e.Exports exported
  own : ∀ e ∈ draws, ring e.slot = some e.buffer

variable {ring : Nat → Option Buffer} {draws : List Draw}

theorem Account.append (account : Account ring d.before draws) (own : ring d.slot = some d.buffer)
    (h : Course d) : Account ring d.after (draws ++ [d]) where
  current := by simp [keptAfter]
  held slot exported := by
    rw [h.kept_iff, account.held]
    constructor
    · rintro (⟨e, he, made⟩ | ⟨rfl, hx⟩)
      · exact ⟨e, by simp [he], made⟩
      · exact ⟨d, by simp, rfl, hx⟩
    · rintro ⟨e, he, rfl, hx⟩
      rcases List.mem_append.mp he with he | he
      · exact .inl ⟨e, he, rfl, hx⟩
      · cases List.mem_singleton.mp he
        exact .inr ⟨rfl, hx⟩
  own := by
    intro e he
    rcases List.mem_append.mp he with he | he
    · exact account.own e he
    · cases List.mem_singleton.mp he
      exact own

theorem Account.follows (account : Account ring d.before draws)
    (own : ring d.slot = some d.buffer) (h : Course d) : d.Follows ring draws where
  own := own
  found := account.current
  held := account.held
  reused e he exported same hx := by
    have kept := (account.held d.slot exported).mpr ⟨e, he, same, hx⟩
    cases h with
    | reused hk hc ha =>
      obtain rfl := Option.some.inj (hk.symm.trans kept)
      exact ⟨ha, _, hc⟩
    | failed hk => simp [hk] at kept
    | exported hk => simp [hk] at kept
  tried fresh := by
    cases h with
    | reused hk =>
      obtain ⟨e, he, same, hx⟩ := (account.held _ _).mp hk
      exact absurd hx (fresh e he _ same)
    | failed _ hx hr ha => exact .inl ⟨_, hx, hr, ha⟩
    | exported _ hx ha =>
      refine .inr ⟨_, hx, fun slot => ?_⟩
      rw [ha, GlesRenderer.exportOf_keep]
  refused buffer plane cause refusal := by
    cases h with
    | reused _ _ ha => exact ha
    | failed _ _ _ ha => exact ha
    | exported _ hx _ =>
      obtain ⟨calls, answer, hx, hc⟩ := hx
      exact absurd (by simpa [hc] using refusal) (hx.all_ok.2 buffer plane cause)
  bound target answer hb := by
    cases h with
    | reused hk hc =>
      obtain ⟨e, he, same, hx⟩ := (account.held _ _).mp hk
      rw [hc] at hb
      cases List.mem_singleton.mp hb
      have owned := account.own e he
      rw [same, own] at owned
      exact ⟨e, by simp [he], same, Option.some.inj owned.symm, hx⟩
    | failed _ hx =>
      obtain ⟨_, _, he⟩ := hx.exports _ hb
      cases he
    | exported _ hx _ =>
      obtain ⟨calls, given, hx, hc⟩ := hx
      refine ⟨d, by simp, rfl, rfl, calls, given, ?_⟩
      rw [hc] at hb
      rcases List.mem_append.mp hb with hb | hb
      · obtain ⟨_, _, he⟩ := hx.exports _ hb
        cases he
      · cases List.mem_singleton.mp hb
        exact ⟨hx, hc⟩
  planes exported made := by
    obtain ⟨calls, given, hx, hc⟩ := made
    have lies := hx.ofPlanes
    refine ⟨⟨lies.count, ?_⟩, ?_⟩
    · intro i plane hp
      obtain ⟨inside, offset, pitch, asked⟩ := lies.plane i plane hp
      exact ⟨inside, offset, pitch, by simp [hc, asked]⟩
    · intro contiguous i hi
      rw [lies.count]
      exact contiguous.lt_planeCount_iff i hi

end Draw

/-- A canvas is drawn on as its renderer draws in the world itself. -/
theorem canvas_render (g : Graphics σ) (slot : Nat) (buffer : Buffer) (frame : Nat)
    (c : Canvas σ) :
    (((g.canvasRenderer.render (.slot slot buffer) frame c).1,
        (g.canvasRenderer.render (.slot slot buffer) frame c).2.gles),
        (g.canvasRenderer.render (.slot slot buffer) frame c).2.world) =
      GlesRenderer.render g c.gles (.slot slot buffer) frame c.world :=
  ((GlesRenderer.watches_renderSlot g c.gles slot buffer frame).fresh c.world).1

namespace Canvas

/-- That everything on a canvas was drawn as it has to be, and that this accounts for what its
renderer keeps. -/
structure Sound (ring : Nat → Option Buffer) (c : Canvas σ) : Prop where
  account : Draw.Account ring c.gles.exports c.draws
  follows : ∀ earlier d later, c.draws = earlier ++ d :: later → d.Follows ring earlier

variable {ring : Nat → Option Buffer}

omit [World σ] in
theorem sound_blank (viewport : Viewport) (world : σ) : Sound ring ⟨world, ⟨viewport, []⟩, []⟩ where
  account := ⟨rfl, by simp, by simp⟩
  follows earlier d later h := by simp at h

omit [World σ] in
theorem Sound.draw {c : Canvas σ} (h : c.Sound ring) {d : Draw} (found : d.before = c.gles.exports)
    (own : ring d.slot = some d.buffer) (course : d.Course) (world : σ) (viewport : Viewport) :
    Sound ring ⟨world, ⟨viewport, d.after⟩, c.draws ++ [d]⟩ := by
  have account : Draw.Account ring d.before c.draws := found ▸ h.account
  refine ⟨account.append own course, ?_⟩
  intro earlier e later split
  rcases List.eq_nil_or_concat later with rfl | ⟨between, last, rfl⟩
  · obtain ⟨rfl, he⟩ := List.append_inj' split rfl
    cases he
    exact account.follows own course
  · rw [List.concat_eq_append, ← List.cons_append, ← List.append_assoc] at split
    obtain ⟨before, -⟩ := List.append_inj' split rfl
    exact h.follows earlier e between before

omit [World σ] in
theorem sound_pass (act : Act σ α) : Preserves (Sound ring) (pass act) :=
  fun _ h => ⟨h.account, h.follows⟩

theorem sound_standing : Standing (Sound (σ := σ) ring) where
  logged _ _ h := ⟨h.account, h.follows⟩
  timed _ h := ⟨h.account, h.follows⟩
  closed _ _ h := ⟨h.account, h.follows⟩

theorem sound_render (g : Graphics σ) {slot : Nat} {buffer : Buffer}
    (own : ring slot = some buffer) (frame : Nat) :
    Preserves (Sound ring) (g.canvasRenderer.render (.slot slot buffer) frame) := by
  intro c h
  obtain ⟨-, record⟩ :=
    (GlesRenderer.watches_renderSlot g c.gles slot buffer frame).fresh c.world
  exact h.draw rfl own (Draw.course_of_record record) _ _

theorem sound_uphold (g : Graphics σ) (device : Device σ) (allocator : Allocator σ)
    (waiter : Waiter σ) :
    Collaborators.Uphold
      ⟨device.onCanvas, allocator.onCanvas, g.canvasRenderer, waiter.onCanvas⟩
      (Sound ring) ring where
  toStanding := sound_standing
  blobCreated _ := sound_pass _
  blobDestroyed _ := sound_pass _
  framebufferAdded _ _ := sound_pass _
  committed _ := sound_pass _
  released _ := sound_pass _
  gpuWaited _ := sound_pass _
  drawn _ _ frame own := sound_render g own frame
  waited _ := sound_pass _

theorem sound_request (g : Graphics σ) (device : Device σ) (allocator : Allocator σ)
    (request : Request σ) :
    (request.onCanvas g).Uphold (Sound ring) ring device.onCanvas allocator.onCanvas := by
  cases request with
  | present _ waiter => exact sound_uphold g device allocator waiter
  | finish waiter => exact ⟨sound_standing, fun _ => sound_pass _⟩
  | run _ waiter interrupted _ _ =>
    exact ⟨sound_uphold g device allocator waiter, sound_pass interrupted⟩

end Canvas

/-- Whatever fails, each slot of the ring is handed out until that goes well once, and every frame
is drawn into what was handed out of its slot's own buffer, plane by plane. -/
theorem slots_exported_once (g : Graphics σ) (device : Device σ) (allocator : Allocator σ)
    (p : Pipeline) (requests : List (Request σ)) (viewport : Viewport) (world : σ)
    (ring : p.pool.surface = none) {earlier later : List Draw} {d : Draw}
    (h : paint g device allocator p requests viewport world = earlier ++ d :: later) :
    d.Follows p.pool.buffer? earlier := by
  have upheld : ∀ request ∈ requests.map (·.onCanvas g),
      request.Uphold (Canvas.Sound p.pool.buffer?) p.pool.buffer? device.onCanvas
        allocator.onCanvas := by
    intro request hr
    obtain ⟨request, -, rfl⟩ := List.mem_map.mp hr
    exact Canvas.sound_request g device allocator request
  have sound := Request.uphold_answerAll (fun _ => preserves_pure ()) upheld
    (p := p) ⟨ring, fun _ => rfl⟩ _ (Canvas.sound_blank viewport world)
  exact sound.follows earlier d later h

namespace Memory

/-- A graphics stack in memory that hands nothing out in the first frame of a run. -/
def graphics : Graphics Memory where
  nativeFences := true
  exportPlane _ _ := do
    if (← get).polls ≤ 1 then return .error (.errno 24) else return .ok (← newFence)
  bind _ := return .ok ()
  start _ := return .ok ()
  clear _ _ := return .ok ()
  finish := return .ok (some (← newFence))
  importFence _ := return .ok ()
  await _ := return .ok ()

/-- What is drawn in a run of four frames in memory. -/
def painted (p : Pipeline) : List Draw :=
  paint graphics MemoryDisplay.singleOutput.device MemoryAllocator.plain.allocator p
    [.run MemoryRenderer.plain.renderer waiter (stopAfter none) 4 (some 4)] ⟨1920, 1080⟩
    (frames .plain 0).2.world

end Memory

/-- In memory the first slot of the ring is handed out in vain first, and the second one is drawn
into once more in the end. -/
theorem slots_exported_once_in_memory :
    ∃ p earlier d, (Memory.frames .plain 0).1 = .ok p ∧ p.pool.surface = none ∧
      Memory.painted p = earlier ++ [d] ∧ earlier.map (·.slot) = [0, 1, 0] ∧
      earlier.map (·.after.length) = [0, 2, 2] ∧ d.slot = 1 ∧
      d.Follows p.pool.buffer? earlier := by
  have painted : ((Memory.frames .plain 0).1.toOption.map fun p =>
      let draws := Memory.painted p
      (p.pool.surface, draws.map (·.slot), draws.map (·.after.length))) =
        some (none, [0, 1, 0, 1], [0, 2, 2, 2]) := by
    decide +kernel
  obtain ⟨p, hp, facts⟩ := Option.map_eq_some_iff.mp painted
  obtain ⟨ring, slots, kept⟩ := by simpa using facts
  rcases List.eq_nil_or_concat (Memory.painted p) with none | ⟨earlier, d, split⟩
  · simp [none] at slots
  · rw [List.concat_eq_append] at split
    rw [split, List.map_append] at slots kept
    have slots : earlier.map (·.slot) ++ [d.slot] = [0, 1, 0] ++ [1] := slots
    have kept : earlier.map (·.after.length) ++ [d.after.length] = [0, 2, 2] ++ [2] := kept
    obtain ⟨before, last⟩ := List.append_inj' slots rfl
    obtain ⟨grown, -⟩ := List.append_inj' kept rfl
    exact ⟨p, earlier, d, ok_of_toOption hp, ring, split, before, grown, by simpa using last,
      slots_exported_once _ _ _ p _ _ _ ring split⟩

end Scanout
