import Scanout.Proofs.Transcript

namespace Scanout

/-- A fence without its number. -/
def Fence.anonymous (_ : Fence) : Fence := ⟨0⟩

def PropertyValue.anonymous : PropertyValue → PropertyValue
  | number value => .number value
  | fence f => .fence f.anonymous

def Assignment.anonymous (a : Assignment) : Assignment :=
  { a with value := a.value.anonymous }

/-- A transaction without the numbers of fences. -/
def Transaction.anonymous (txn : Transaction) : Transaction :=
  { txn with assignments := txn.assignments.map Assignment.anonymous }

/-- What is left of an exchange with the renderer, the allocator or the device without the numbers
of fences. Waits, and what fences are closed, are left out, as is whether a blob was destroyed. -/
def Exchange.outline? : Exchange → Option Exchange
  | called _ | polled _ | gpuWaited _ _ | waited _ _ | closed _ => none
  | rendered target frame answer => some (.rendered target frame (answer.map Fence.anonymous))
  | submitted txn answer =>
    some (.submitted txn.anonymous (answer.map (Option.map Fence.anonymous)))
  | blobDestroyed blob _ => some (.blobDestroyed blob (.ok ()))
  | e => some e

/-- What is drawn, made and submitted in a stretch of a transcript. -/
def outline (events : List Exchange) : List Exchange :=
  events.filterMap Exchange.outline?

@[simp] theorem outline_append (events later : List Exchange) :
    outline (events ++ later) = outline events ++ outline later :=
  List.filterMap_append

/-- That two results are the same as far as `f` tells. -/
inductive SameUpTo {ε α β : Type} (f : α → β) : Except ε α → Except ε α → Prop
  | ok {a b : α} : f a = f b → SameUpTo f (.ok a) (.ok b)
  | error (e : ε) : SameUpTo f (.error e) (.error e)

theorem SameUpTo.map_eq {ε α β : Type} {f : α → β} {a b : Except ε α} (h : SameUpTo f a b) :
    a.map f = b.map f := by
  cases h with
  | ok same => exact congrArg Except.ok same
  | error e => rfl

variable {σ τ α β γ δ : Type}

/-- That two acts go by what is seen of a world: where they see the same, they give the same by
`R`, and leave the same to be seen. -/
def GoBy (view : σ → τ) (act act' : Act σ α) (R : α → α → Prop) : Prop :=
  ∀ s s', view s = view s' → R (act s).1 (act' s').1 ∧ view (act s).2 = view (act' s').2

/-- Collaborators that never interrupt and whose waits succeed, all others going by what is seen of
their world. Neither waits nor the log, the clock and descriptors that close have a part in that. -/
structure Steady [World σ] (c : Collaborators σ) (interrupted : Act σ Bool) (view : σ → τ) :
    Prop where
  log : ∀ n s, view (World.record n s) = view s
  clock : ∀ s, view (World.now s).2 = view s
  close : ∀ fence s, view (World.close fence s) = view s
  poll : ∀ s, (interrupted s).1 = false ∧ view (interrupted s).2 = view s
  wait : ∀ fence s, (c.waiter.wait fence s).1 = .ok () ∧ view (c.waiter.wait fence s).2 = view s
  gpuWait : ∀ fence s, view (c.renderer.waitForScanout fence s).2 = view s
  render : ∀ target frame, GoBy view (c.renderer.render target frame)
    (c.renderer.render target frame) (SameUpTo Fence.anonymous)
  lock : ∀ surface, GoBy view (c.allocator.lock surface) (c.allocator.lock surface) Eq
  release : ∀ buffer, GoBy view (c.allocator.release buffer) (c.allocator.release buffer) Eq
  addFramebuffer : ∀ layout withModifiers, GoBy view (c.device.addFramebuffer layout withModifiers)
    (c.device.addFramebuffer layout withModifiers) Eq
  createBlob : ∀ mode, GoBy view (c.device.createBlob mode) (c.device.createBlob mode) Eq
  destroy : ∀ blob,
    GoBy view (c.device.destroyBlob blob) (c.device.destroyBlob blob) fun _ _ => True
  commit : ∀ txn txn', txn.anonymous = txn'.anonymous → GoBy view (c.device.commit txn)
    (c.device.commit txn') (SameUpTo (Option.map Fence.anonymous))

/-- That two acts look the same wherever the same is seen: they give the same by `V`, leave the same
to be seen, and add the same to the outline. -/
def Alike (view : σ → τ) (act : Act (Recorded σ) α) (act' : Act (Recorded σ) β)
    (V : α → β → Prop) : Prop :=
  ∀ r r', view r.world = view r'.world → V (act r).1 (act' r').1 ∧
    view (act r).2.world = view (act' r').2.world ∧
    ∃ seen, outline (act r).2.transcript = outline r.transcript ++ seen ∧
      outline (act' r').2.transcript = outline r'.transcript ++ seen

/-- That nothing is seen of an act, and that `P` holds of its result. -/
def Unseen (view : σ → τ) (act : Act (Recorded σ) α) (P : α → Prop) : Prop :=
  ∀ r, P (act r).1 ∧ view (act r).2.world = view r.world ∧
    outline (act r).2.transcript = outline r.transcript

variable {view : σ → τ}

theorem Unseen.of_eq {act : Act (Recorded σ) α} {P : α → Prop} (h : Unseen view act P)
    {r s : Recorded σ} {a : α} (he : act r = (a, s)) :
    P a ∧ view s.world = view r.world ∧ outline s.transcript = outline r.transcript := by
  have hr := h r
  rwa [he] at hr

/-- What an act does where another one was called that looks the same. -/
theorem Alike.of_eq {act : Act (Recorded σ) α} {act' : Act (Recorded σ) β} {V : α → β → Prop}
    (h : Alike view act act' V) {r r' s' : Recorded σ} {b : β}
    (same : view r.world = view r'.world) (he : act' r' = (b, s')) :
    ∃ a s, act r = (a, s) ∧ V a b ∧ view s.world = view s'.world ∧
      ∃ seen, outline s.transcript = outline r.transcript ++ seen ∧
        outline s'.transcript = outline r'.transcript ++ seen := by
  obtain ⟨hv, viewed, seen, added, added'⟩ := h r r' same
  rw [he] at hv viewed added'
  exact ⟨_, _, rfl, hv, viewed, seen, added, added'⟩

theorem alike_pure {a : α} {b : β} {V : α → β → Prop} (h : V a b) :
    Alike view (pure a) (pure b) V :=
  fun _ _ same => ⟨h, same, [], (List.append_nil _).symm, (List.append_nil _).symm⟩

theorem Alike.mono {act : Act (Recorded σ) α} {act' : Act (Recorded σ) β} {V W : α → β → Prop}
    (h : Alike view act act' V) (hv : ∀ a b, V a b → W a b) : Alike view act act' W := by
  intro r r' same
  obtain ⟨hr, rest⟩ := h r r' same
  exact ⟨hv _ _ hr, rest⟩

theorem alike_bind {act : Act (Recorded σ) α} {act' : Act (Recorded σ) β}
    {next : α → Act (Recorded σ) γ} {next' : β → Act (Recorded σ) δ} {V : α → β → Prop}
    {W : γ → δ → Prop} (h : Alike view act act' V)
    (hn : ∀ a b, V a b → Alike view (next a) (next' b) W) :
    Alike view (act >>= next) (act' >>= next') W := by
  intro r r' same
  obtain ⟨hv, viewed, seen, added, added'⟩ := h r r' same
  obtain ⟨hw, viewedLater, later, addedLater, addedLater'⟩ := hn _ _ hv _ _ viewed
  refine ⟨hw, viewedLater, seen ++ later, ?_, ?_⟩
  · rw [← List.append_assoc, ← added]
    exact addedLater
  · rw [← List.append_assoc, ← added']
    exact addedLater'

theorem unseen_pure {a : α} {P : α → Prop} (h : P a) : Unseen view (pure a) P :=
  fun _ => ⟨h, rfl, rfl⟩

theorem unseen_bind {act : Act (Recorded σ) α} {next : α → Act (Recorded σ) β} {P : α → Prop}
    {Q : β → Prop} (h : Unseen view act P) (hn : ∀ a, P a → Unseen view (next a) Q) :
    Unseen view (act >>= next) Q := by
  intro r
  obtain ⟨hp, viewed, same⟩ := h r
  obtain ⟨hq, viewedLater, sameLater⟩ := hn _ hp (act r).2
  exact ⟨hq, viewedLater.trans viewed, sameLater.trans same⟩

/-- Acts of which nothing is seen look the same. -/
theorem Unseen.alike {act : Act (Recorded σ) α} {act' : Act (Recorded σ) β} {P : α → Prop}
    {Q : β → Prop} (h : Unseen view act P) (h' : Unseen view act' Q) :
    Alike view act act' fun a b => P a ∧ Q b := by
  intro r r' same
  obtain ⟨hp, viewed, quiet⟩ := h r
  obtain ⟨hq, viewed', quiet'⟩ := h' r'
  refine ⟨⟨hp, hq⟩, viewed.trans (same.trans viewed'.symm), [], ?_, ?_⟩
  · rw [quiet, List.append_nil]
  · rw [quiet', List.append_nil]

theorem alike_unseen {act : Act (Recorded σ) α} {act' : Act (Recorded σ) β}
    {next : α → Act (Recorded σ) γ} {next' : β → Act (Recorded σ) δ} {P : α → Prop} {Q : β → Prop}
    {W : γ → δ → Prop} (h : Unseen view act P) (h' : Unseen view act' Q)
    (hn : ∀ a b, P a → Q b → Alike view (next a) (next' b) W) :
    Alike view (act >>= next) (act' >>= next') W :=
  alike_bind (h.alike h') fun a b hab => hn a b hab.1 hab.2

/-- A call that is written down goes by what is seen if it does so itself. -/
theorem alike_watch {act act' : Act σ α} {exchange exchange' : α → Exchange} {R : α → α → Prop}
    (h : GoBy view act act' R)
    (ho : ∀ a b, R a b → (exchange a).outline? = (exchange' b).outline?) :
    Alike view (Recorded.watch exchange act) (Recorded.watch exchange' act') R := by
  intro r r' same
  obtain ⟨hr, viewed⟩ := h _ _ same
  refine ⟨hr, viewed, outline [exchange (act r.world).1], outline_append _ _, ?_⟩
  have alike : outline [exchange (act r.world).1] = outline [exchange' (act' r'.world).1] := by
    unfold outline
    rw [List.filterMap_cons, List.filterMap_cons, ho _ _ hr]
  rw [alike]
  exact outline_append _ _

theorem unseen_watch {act : Act σ α} {exchange : α → Exchange} {P : α → Prop}
    (h : ∀ s, P (act s).1 ∧ view (act s).2 = view s) (ho : ∀ a, (exchange a).outline? = none) :
    Unseen view (Recorded.watch exchange act) P := by
  intro r
  obtain ⟨hp, viewed⟩ := h r.world
  have none : outline [exchange (act r.world).1] = [] := by simp [outline, ho]
  have added : outline (Recorded.watch exchange act r).2.transcript =
      outline r.transcript ++ outline [exchange (act r.world).1] := outline_append _ _
  exact ⟨hp, viewed, by rw [added, none, List.append_nil]⟩

namespace Steady

variable [World σ] {c : Collaborators σ} {interrupted : Act σ Bool}

theorem unseen_note (steady : Steady c interrupted view) (n : Note) :
    Unseen view (note n) fun _ => True :=
  fun r => ⟨trivial, steady.log n r.world, rfl⟩

theorem unseen_notes (steady : Steady c interrupted view) (ns : List Note) :
    Unseen view (notes ns) fun _ => True := by
  induction ns with
  | nil => exact unseen_pure trivial
  | cons n rest ih => exact unseen_bind (steady.unseen_note n) fun _ _ => ih

theorem unseen_now (steady : Steady c interrupted view) :
    Unseen view now fun _ => True :=
  fun r => ⟨trivial, steady.clock r.world, rfl⟩

theorem unseen_closeFence (steady : Steady c interrupted view) (fence : Fence) :
    Unseen view (closeFence fence) fun _ => True := by
  intro r
  refine ⟨trivial, steady.close fence r.world, ?_⟩
  have added : outline (r.transcript ++ [.closed fence]) = outline r.transcript ++ [] :=
    outline_append _ _
  exact added.trans (List.append_nil _)

theorem unseen_closeFence? (steady : Steady c interrupted view) (fence : Option Fence) :
    Unseen view (closeFence? fence) fun _ => True := by
  cases fence with
  | none => exact unseen_pure trivial
  | some fence => exact steady.unseen_closeFence fence

theorem unseen_poll (steady : Steady c interrupted view) :
    Unseen view (Recorded.watch .polled interrupted) fun stop => stop = false :=
  unseen_watch steady.poll fun _ => rfl

theorem unseen_queueGpuWait (steady : Steady c interrupted view) (pending : Option Fence) :
    Unseen view (Pipeline.queueGpuWait c.renderer.recorded pending) fun _ => True := by
  cases pending with
  | none => exact unseen_pure trivial
  | some fence =>
    have asked : Unseen view
        (Recorded.watch (.gpuWaited fence) (c.renderer.waitForScanout fence)) fun _ => True :=
      unseen_watch (fun s => ⟨trivial, steady.gpuWait fence s⟩) fun _ => rfl
    refine unseen_bind asked ?_
    intro answer _
    cases answer with
    | ok _ => exact unseen_pure trivial
    | error failure => exact steady.unseen_note _

theorem unseen_finish (steady : Steady c interrupted view) (p : Pipeline) :
    Unseen view (p.finish c.waiter.recorded)
      fun result => result = (.ok (), { p with pendingFlip := none }) := by
  unfold Pipeline.finish
  cases hf : p.pendingFlip with
  | none => exact unseen_pure (by rw [← hf])
  | some fence =>
    have waited : Unseen view (Recorded.watch (.waited fence) (c.waiter.wait fence))
        fun answer => answer = .ok () :=
      unseen_watch (steady.wait fence) fun _ => rfl
    refine unseen_bind waited ?_
    rintro _ rfl
    refine unseen_bind (steady.unseen_closeFence fence) fun _ _ => ?_
    exact unseen_pure rfl

end Steady

end Scanout
