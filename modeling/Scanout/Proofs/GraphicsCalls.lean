import Scanout.Gles

namespace Scanout

variable {σ α β : Type}

/-- Where what is counted comes first, the count tells how far it goes. -/
theorem lt_countP_iff {p : α → Bool} {xs : List α}
    (h : xs.Pairwise fun x y => p y = true → p x = true) (i : Nat) (hi : i < xs.length) :
    i < xs.countP p ↔ p xs[i] = true := by
  induction xs generalizing i with
  | nil => simp at hi
  | cons x rest ih =>
    obtain ⟨first, others⟩ := List.pairwise_cons.mp h
    cases hx : p x with
    | true =>
      cases i with
      | zero => simp [hx]
      | succ i =>
        rw [List.countP_cons_of_pos hx, Nat.add_lt_add_iff_right]
        exact ih others i (by simpa using hi)
    | false =>
      have none : ∀ y ∈ rest, ¬ p y = true := fun y hy py => by
        rw [first y hy py] at hx
        cases hx
      rw [List.countP_cons_of_neg (by simp [hx]), List.countP_eq_zero.mpr none]
      cases i with
      | zero => simp [hx]
      | succ i => simpa using none _ (List.getElem_mem _)

namespace Layout

/-- That no plane is absent before one that is present. -/
def Contiguous (layout : Layout) : Prop :=
  ∀ (i j : Nat) (_ : i < j) (_ : j < 4), layout.planes[j].handle.isSome →
    layout.planes[i].handle.isSome

theorem Contiguous.lt_planeCount_iff {layout : Layout} (h : layout.Contiguous) (i : Nat)
    (hi : i < 4) : i < layout.planeCount ↔ layout.planes[i].handle.isSome = true := by
  have ordered : layout.planes.toList.Pairwise fun a b => b.handle.isSome → a.handle.isSome := by
    rw [List.pairwise_iff_getElem]
    intro i j hi hj hij
    simpa using h i j hij (by simpa using hj)
  exact (lt_countP_iff ordered i (by simpa using hi)).trans (by simp)

end Layout

/-- A call that hands out or binds a buffer, with its answer. -/
inductive GraphicsCall
  | planeExported (buffer : Buffer) (plane : Nat) (answer : Except CallError Fence)
  | bound (target : ExportedBuffer) (answer : Except Failure Unit)

/-- A world with such calls to its graphics stack so far. -/
structure Watched (σ : Type) where
  world : σ
  calls : List GraphicsCall

namespace Watched

instance [World σ] : World (Watched σ) where
  record n t := { t with world := World.record n t.world }
  now t := ((World.now t.world).1, { t with world := (World.now t.world).2 })
  close fence t := { t with world := World.close fence t.world }

/-- Makes a call that is not written down. -/
def pass (act : Act σ α) : Act (Watched σ) α :=
  fun t => ((act t.world).1, { t with world := (act t.world).2 })

/-- Makes a call and writes it down with its answer. -/
def watch (call : α → GraphicsCall) (act : Act σ α) : Act (Watched σ) α :=
  fun t => ((act t.world).1, ⟨(act t.world).2, t.calls ++ [call (act t.world).1]⟩)

end Watched

open Watched (pass watch) in
/-- A graphics stack whose calls are written down. -/
def Graphics.watched (g : Graphics σ) : Graphics (Watched σ) where
  nativeFences := g.nativeFences
  exportPlane buffer plane := watch (.planeExported buffer plane) (g.exportPlane buffer plane)
  bind target := watch (.bound target) (g.bind target)
  start viewport := pass (g.start viewport)
  clear viewport color := pass (g.clear viewport color)
  finish := pass g.finish
  importFence fence := pass (g.importFence fence)
  await fence := pass (g.await fence)

/-- That `act` does in a watched world what `plain` does in the world itself, and that `R` holds of
its result and of the calls it makes. -/
def Watches (act : Act (Watched σ) α) (plain : Act σ α) (R : α → List GraphicsCall → Prop) : Prop :=
  ∀ t, ∃ calls, act t = ((plain t.world).1, ⟨(plain t.world).2, t.calls ++ calls⟩) ∧
    R (plain t.world).1 calls

theorem Watches.mono {act : Act (Watched σ) α} {plain : Act σ α}
    {R S : α → List GraphicsCall → Prop} (h : Watches act plain R)
    (hs : ∀ a calls, R a calls → S a calls) : Watches act plain S := by
  intro t
  obtain ⟨calls, given, hr⟩ := h t
  exact ⟨calls, given, hs _ _ hr⟩

theorem Watches.fresh {act : Act (Watched σ) α} {plain : Act σ α} {R : α → List GraphicsCall → Prop}
    (h : Watches act plain R) (world : σ) :
    ((act ⟨world, []⟩).1, (act ⟨world, []⟩).2.world) = plain world ∧
      R (act ⟨world, []⟩).1 (act ⟨world, []⟩).2.calls := by
  obtain ⟨calls, given, hr⟩ := h ⟨world, []⟩
  rw [given]
  exact ⟨rfl, hr⟩

theorem watches_pure {a : α} {R : α → List GraphicsCall → Prop} (h : R a []) :
    Watches (σ := σ) (pure a) (pure a) R := by
  intro t
  refine ⟨[], ?_, h⟩
  rw [List.append_nil]
  rfl

theorem watches_bind {act : Act (Watched σ) α} {plain : Act σ α}
    {next : α → Act (Watched σ) β} {plainNext : α → Act σ β}
    {R : α → List GraphicsCall → Prop} {S : β → List GraphicsCall → Prop} (h : Watches act plain R)
    (hn : ∀ a calls, R a calls →
      Watches (next a) (plainNext a) (fun b later => S b (calls ++ later))) :
    Watches (act >>= next) (plain >>= plainNext) S := by
  intro t
  obtain ⟨calls, he, hr⟩ := h t
  obtain ⟨later, hl, hs⟩ := hn _ _ hr ⟨(plain t.world).2, t.calls ++ calls⟩
  refine ⟨calls ++ later, ?_, hs⟩
  change next (act t).1 (act t).2 = _
  rw [he, hl, List.append_assoc]
  rfl

/-- An act whose calls are known comes first in the calls that are made. -/
theorem watches_then {act : Act (Watched σ) α} {plain : Act σ α}
    {next : α → Act (Watched σ) β} {plainNext : α → Act σ β} {calls : α → List GraphicsCall}
    {S : β → List GraphicsCall → Prop} (h : Watches act plain (fun a now => now = calls a))
    (hn : ∀ a, Watches (next a) (plainNext a) (fun b later => S b (calls a ++ later))) :
    Watches (act >>= next) (plain >>= plainNext) S := by
  refine watches_bind h ?_
  intro a now hnow
  subst hnow
  exact hn a

theorem watches_watch (call : α → GraphicsCall) (act : Act σ α) :
    Watches (Watched.watch call act) act (fun a calls => calls = [call a]) :=
  fun _ => ⟨_, rfl, rfl⟩

/-- What is not written down stays out of the calls, as logging and closing do. -/
theorem watches_quiet {act : Act (Watched σ) α} {plain : Act σ α}
    (h : ∀ t, act t = ((plain t.world).1, { t with world := (plain t.world).2 })) :
    Watches act plain (fun _ calls => calls = []) := by
  intro t
  refine ⟨[], ?_, rfl⟩
  rw [List.append_nil]
  exact h t

theorem watches_pass (act : Act σ α) : Watches (Watched.pass act) act (fun _ calls => calls = []) :=
  watches_quiet fun _ => rfl

variable [World σ]

theorem watches_closeAll (planes : List ExportedPlane) :
    Watches (σ := σ) (planes.forM fun plane => closeFence plane.descriptor)
      (planes.forM fun plane => closeFence plane.descriptor) (fun _ calls => calls = []) := by
  induction planes with
  | nil => exact watches_pure rfl
  | cons plane rest ih => exact watches_then (watches_quiet fun _ => rfl) fun _ => ih

namespace GlesRenderer

/-- The calls that hand out the planes of a buffer from `index` on, with the descriptors given. -/
def exportCalls (buffer : Buffer) (index : Nat) (descriptors : List Fence) : List GraphicsCall :=
  (descriptors.zipIdx index).map fun (descriptor, plane) =>
    .planeExported buffer plane (.ok descriptor)

/-- The planes of a buffer as they are handed out. -/
def exportedPlanes : List Fence → List MemoryPlane → List ExportedPlane :=
  List.zipWith fun descriptor plane => ⟨descriptor, plane.offset, plane.pitch⟩

/-- Handing out planes from `index` on, after those in `done`: all of them, or those up to the
first that fails. -/
inductive PlanesRecord (buffer : Buffer) (index : Nat) (done : List ExportedPlane)
    (planes : List MemoryPlane) : Except Failure (List ExportedPlane) → List GraphicsCall → Prop
  | exported (descriptors : List Fence) : descriptors.length = planes.length →
      PlanesRecord buffer index done planes (.ok (done ++ exportedPlanes descriptors planes))
        (exportCalls buffer index descriptors)
  | refused (descriptors : List Fence) (cause : CallError) :
      descriptors.length < planes.length →
      PlanesRecord buffer index done planes
        (.error ⟨"error exporting plane " ++ toString (index + descriptors.length),
          [cause.message]⟩)
        (exportCalls buffer index descriptors ++
          [.planeExported buffer (index + descriptors.length) (.error cause)])

theorem PlanesRecord.cons {buffer : Buffer} {index : Nat} {done : List ExportedPlane}
    {plane : MemoryPlane} {rest : List MemoryPlane} {descriptor : Fence}
    {result : Except Failure (List ExportedPlane)} {calls : List GraphicsCall}
    (h : PlanesRecord buffer (index + 1) (done ++ [⟨descriptor, plane.offset, plane.pitch⟩]) rest
      result calls) :
    PlanesRecord buffer index done (plane :: rest) result
      (.planeExported buffer index (.ok descriptor) :: calls) := by
  cases h with
  | exported descriptors hl =>
    have first : PlanesRecord buffer index done (plane :: rest) _ _ :=
      .exported (descriptor :: descriptors) (by simpa using hl)
    simpa [exportedPlanes, exportCalls] using first
  | refused descriptors cause hl =>
    have moved : index + 1 + descriptors.length = index + (descriptor :: descriptors).length := by
      simp only [List.length_cons]
      omega
    rw [moved]
    exact .refused (descriptor :: descriptors) cause (by simpa using hl)

theorem watches_exportPlanes (g : Graphics σ) (buffer : Buffer) (index : Nat)
    (done : List ExportedPlane) (planes : List MemoryPlane) :
    Watches (exportPlanes g.watched buffer index done planes)
      (exportPlanes g buffer index done planes) (PlanesRecord buffer index done planes) := by
  induction planes generalizing index done with
  | nil =>
    exact watches_pure (by simpa [exportedPlanes, exportCalls] using PlanesRecord.exported [] rfl)
  | cons plane rest ih =>
    refine watches_then (watches_watch _ _) ?_
    rintro (cause | descriptor)
    · refine watches_then (watches_closeAll done) fun _ => ?_
      exact watches_pure (PlanesRecord.refused [] cause (by simp))
    · refine (ih _ _).mono ?_
      intro result later hr
      exact hr.cons

/-- A buffer that is handed out with these descriptors for its planes. -/
def exportedAs (buffer : Buffer) (descriptors : List Fence) : ExportedBuffer where
  width := buffer.layout.width
  height := buffer.layout.height
  format := buffer.layout.format
  modifier := buffer.layout.modifier.getD .invalid
  planes := exportedPlanes descriptors buffer.layout.planes.toList

/-- Handing a buffer out: all of its planes, those up to the first that fails, or none for want of
any. -/
inductive ExportRecord (buffer : Buffer) :
    Except Failure ExportedBuffer → List GraphicsCall → Prop
  | exported (descriptors : List Fence) : descriptors ≠ [] →
      descriptors.length = buffer.layout.planeCount →
      ExportRecord buffer (.ok (exportedAs buffer descriptors)) (exportCalls buffer 0 descriptors)
  | refused (descriptors : List Fence) (cause : CallError) :
      descriptors.length < buffer.layout.planeCount →
      ExportRecord buffer
        (.error ⟨"error exporting plane " ++ toString descriptors.length, [cause.message]⟩)
        (exportCalls buffer 0 descriptors ++
          [.planeExported buffer descriptors.length (.error cause)])
  | planeless : buffer.layout.planeCount = 0 →
      ExportRecord buffer (.error (.of "buffer has no planes")) []

theorem planeCount_le (layout : Layout) : layout.planeCount ≤ layout.planes.toList.length :=
  List.countP_le_length

theorem exportedPlanes_take (descriptors : List Fence) (planes : List MemoryPlane) :
    exportedPlanes descriptors (planes.take descriptors.length) =
      exportedPlanes descriptors planes := by
  unfold exportedPlanes
  induction descriptors generalizing planes with
  | nil => rfl
  | cons descriptor rest ih =>
    cases planes with
    | nil => rfl
    | cons plane others => simpa using ih others

theorem length_exportedPlanes (descriptors : List Fence) (planes : List MemoryPlane) :
    (exportedPlanes descriptors planes).length = min descriptors.length planes.length :=
  List.length_zipWith

theorem watches_exportBuffer (g : Graphics σ) (buffer : Buffer) :
    Watches (exportBuffer g.watched buffer) (exportBuffer g buffer) (ExportRecord buffer) := by
  have counted : (buffer.layout.planes.toList.take buffer.layout.planeCount).length =
      buffer.layout.planeCount := by
    rw [List.length_take]
    exact Nat.min_eq_left (planeCount_le buffer.layout)
  refine watches_bind (watches_exportPlanes g buffer 0 [] _) ?_
  intro result calls hr
  cases hr with
  | exported descriptors hl =>
    rw [counted] at hl
    rw [List.nil_append, ← hl, exportedPlanes_take]
    have whole : (exportedPlanes descriptors buffer.layout.planes.toList).length =
        descriptors.length := by
      rw [length_exportedPlanes, hl]
      exact Nat.min_eq_left (planeCount_le buffer.layout)
    cases hp : exportedPlanes descriptors buffer.layout.planes.toList with
    | nil =>
      rw [hp] at whole
      obtain rfl : descriptors = [] := List.eq_nil_of_length_eq_zero whole.symm
      exact watches_pure (.planeless hl.symm)
    | cons plane rest =>
      have given : descriptors ≠ [] := by
        rintro rfl
        cases hp
      have record := ExportRecord.exported descriptors given hl
      unfold exportedAs at record
      rw [hp] at record
      exact watches_pure (by simpa using record)
  | refused descriptors cause hl =>
    rw [counted] at hl
    exact watches_pure (by simpa using .refused descriptors cause hl)

/-- That a buffer was handed out plane by plane: as many as it has handles, each as it lies in
memory and with the descriptor given for it. -/
structure OfPlanes (exported : ExportedBuffer) (buffer : Buffer) (calls : List GraphicsCall) :
    Prop where
  count : exported.planes.length = buffer.layout.planeCount
  plane : ∀ (i : Nat) plane, exported.planes[i]? = some plane → ∃ _ : i < 4,
    plane.offset = buffer.layout.planes[i].offset ∧ plane.pitch = buffer.layout.planes[i].pitch ∧
      .planeExported buffer i (.ok plane.descriptor) ∈ calls

theorem planeExported_mem_exportCalls {buffer : Buffer} {descriptors : List Fence} {i : Nat}
    {descriptor : Fence} (h : descriptors[i]? = some descriptor) :
    .planeExported buffer i (.ok descriptor) ∈ exportCalls buffer 0 descriptors :=
  List.mem_map.mpr ⟨(descriptor, i), List.mk_mem_zipIdx_iff_getElem?.mpr h, rfl⟩

theorem ExportRecord.ofPlanes {buffer : Buffer} {exported : ExportedBuffer}
    {calls : List GraphicsCall} (h : ExportRecord buffer (.ok exported) calls) :
    OfPlanes exported buffer calls := by
  cases h with
  | exported descriptors _ hl =>
    refine ⟨?_, ?_⟩
    · change (exportedPlanes descriptors buffer.layout.planes.toList).length = _
      rw [length_exportedPlanes, hl]
      exact Nat.min_eq_left (planeCount_le buffer.layout)
    · intro i plane hp
      obtain ⟨descriptor, memory, hd, hm, rfl⟩ := List.getElem?_zipWith_eq_some.mp hp
      obtain ⟨inside, rfl⟩ := List.getElem?_eq_some_iff.mp hm
      exact ⟨by simpa using inside, rfl, rfl, planeExported_mem_exportCalls hd⟩

/-- Handing a buffer out only asks for its planes. -/
theorem ExportRecord.exports {buffer : Buffer} {result : Except Failure ExportedBuffer}
    {calls : List GraphicsCall} (h : ExportRecord buffer result calls) :
    ∀ call ∈ calls, ∃ plane answer, call = .planeExported buffer plane answer := by
  have given (descriptors : List Fence) : ∀ call ∈ exportCalls buffer 0 descriptors,
      ∃ plane answer, call = .planeExported buffer plane answer := by
    intro call hc
    obtain ⟨⟨descriptor, plane⟩, -, rfl⟩ := List.mem_map.mp hc
    exact ⟨plane, _, rfl⟩
  cases h with
  | exported descriptors => exact given descriptors
  | refused descriptors cause =>
    intro call hc
    rcases List.mem_append.mp hc with hc | hc
    · exact given descriptors call hc
    · exact ⟨_, _, List.mem_singleton.mp hc⟩
  | planeless => simp

/-- A buffer that was handed out had planes, and none of them was refused. -/
theorem ExportRecord.all_ok {buffer : Buffer} {exported : ExportedBuffer}
    {calls : List GraphicsCall} (h : ExportRecord buffer (.ok exported) calls) :
    calls ≠ [] ∧ ∀ other plane cause, .planeExported other plane (.error cause) ∉ calls := by
  cases h with
  | exported descriptors given _ =>
    refine ⟨?_, ?_⟩
    · simpa [exportCalls] using given
    · intro other plane cause hc
      obtain ⟨_, -, he⟩ := List.mem_map.mp hc
      cases he

/-- What is kept for a slot. -/
def exportOf (exports : List (Option ExportedBuffer)) (slot : Nat) : Option ExportedBuffer :=
  exports[slot]?.join

@[simp] theorem exportOf_nil (slot : Nat) : exportOf [] slot = none :=
  rfl

/-- Keeping a buffer for a slot changes nothing for the others, however the list has to grow. -/
theorem exportOf_keep (exports : List (Option ExportedBuffer)) (slot : Nat)
    (exported : ExportedBuffer) (other : Nat) :
    exportOf (keep exports slot exported) other =
      if other = slot then some exported else exportOf exports other := by
  unfold exportOf keep
  by_cases same : other = slot
  · subst same
    rw [List.getElem?_set_self (by simp; omega), if_pos rfl]
    rfl
  · rw [List.getElem?_set_ne (Ne.symm same), if_neg same, List.getElem?_append]
    split
    · rfl
    next beyond =>
      rw [List.getElem?_replicate, List.getElem?_eq_none (Nat.le_of_not_lt beyond)]
      split <;> rfl

/-- What is handed out for a slot: what is kept for it, or else the buffer, which is then kept
unless that fails. -/
inductive SlotRecord (r : GlesRenderer) (slot : Nat) (buffer : Buffer) :
    Except Failure ExportedBuffer × GlesRenderer → List GraphicsCall → Prop
  | kept {exported : ExportedBuffer} : exportOf r.exports slot = some exported →
      SlotRecord r slot buffer (.ok exported, r) []
  | failed {failure : Failure} {calls : List GraphicsCall} : exportOf r.exports slot = none →
      ExportRecord buffer (.error failure) calls →
      SlotRecord r slot buffer (.error failure, r) calls
  | exported {exported : ExportedBuffer} {calls : List GraphicsCall} :
      exportOf r.exports slot = none → ExportRecord buffer (.ok exported) calls →
      SlotRecord r slot buffer (.ok exported, { r with exports := keep r.exports slot exported })
        calls

theorem watches_slotBuffer (g : Graphics σ) (r : GlesRenderer) (slot : Nat) (buffer : Buffer) :
    Watches (slotBuffer g.watched r slot buffer) (slotBuffer g r slot buffer)
      (SlotRecord r slot buffer) := by
  unfold slotBuffer
  cases hk : r.exports[slot]?.join with
  | some exported => exact watches_pure (.kept hk)
  | none =>
    refine watches_bind (watches_exportBuffer g buffer) ?_
    rintro (failure | exported) calls hr
    · exact watches_pure (by simpa using .failed hk hr)
    · refine watches_then (watches_quiet fun _ => rfl) fun _ => ?_
      exact watches_pure (by simpa using .exported hk hr)

omit [World σ] in
theorem watches_drawBound (g : Graphics σ) (viewport : Viewport) (frame : Nat) :
    Watches (drawBound g.watched viewport frame) (drawBound g viewport frame)
      (fun _ calls => calls = []) := by
  refine watches_then (watches_pass _) ?_
  rintro (failure | _)
  · exact watches_pure rfl
  · refine watches_then (watches_pass _) ?_
    rintro (failure | _)
    · exact watches_pure rfl
    · refine watches_then (watches_pass _) ?_
      rintro (failure | _ | fence) <;> exact watches_pure rfl

/-- Drawing into a slot: nothing comes of it where nothing can be handed out, and else what is
handed out is bound, whatever goes wrong after that. -/
inductive RenderRecord (r : GlesRenderer) (slot : Nat) (buffer : Buffer) :
    Except Failure Fence × GlesRenderer → List GraphicsCall → Prop
  | undrawn {failure : Failure} {left : GlesRenderer} {calls : List GraphicsCall} :
      SlotRecord r slot buffer (.error failure, left) calls →
      RenderRecord r slot buffer (.error failure, left) calls
  | bound {exported : ExportedBuffer} {left : GlesRenderer} {calls : List GraphicsCall}
      (answer : Except Failure Unit) (result : Except Failure Fence) :
      SlotRecord r slot buffer (.ok exported, left) calls →
      RenderRecord r slot buffer (result, left) (calls ++ [.bound exported answer])

theorem watches_renderSlot (g : Graphics σ) (r : GlesRenderer) (slot : Nat) (buffer : Buffer)
    (frame : Nat) :
    Watches (renderSlot g.watched r slot buffer frame) (renderSlot g r slot buffer frame)
      (RenderRecord r slot buffer) := by
  refine watches_bind (watches_slotBuffer g r slot buffer) ?_
  rintro ⟨failure | exported, left⟩ calls hr
  · exact watches_pure (by simpa using .undrawn hr)
  · refine watches_then (watches_watch _ _) ?_
    rintro (failure | _)
    · exact watches_pure (.bound (.error failure) _ hr)
    · refine watches_then (watches_drawBound g _ _) fun result => ?_
      exact watches_pure (by simpa using .bound (.ok ()) result hr)

end GlesRenderer

end Scanout
