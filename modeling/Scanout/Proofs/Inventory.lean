import Scanout.Output

namespace Scanout

variable {σ α β : Type}

/-- That an act comes to a result with `P`, whatever the world it is done in. -/
def Yields (act : Act σ α) (P : α → Prop) : Prop :=
  ∀ world, P (act world).1

theorem yields_pure {a : α} {P : α → Prop} (h : P a) : Yields (σ := σ) (pure a) P :=
  fun _ => h

theorem Yields.bind {act : Act σ α} {next : α → Act σ β} {P : α → Prop} {Q : β → Prop}
    (h : Yields act P) (hn : ∀ a, P a → Yields (next a) Q) : Yields (act >>= next) Q :=
  fun world => hn _ (h world) (act world).2

theorem Yields.mono {act : Act σ α} {P Q : α → Prop} (h : Yields act P) (hq : ∀ a, P a → Q a) :
    Yields act Q :=
  fun world => hq _ (h world)

theorem yields_after {act : Act σ α} {next : α → Act σ β} {Q : β → Prop}
    (hn : ∀ a, Yields (next a) Q) : Yields (act >>= next) Q :=
  fun world => hn (act world).1 (act world).2

/-- What a device has to choose an output from: its answer to each question. -/
structure Inventory where
  resources : Except CallError Resources
  connector : ConnectorId → Except CallError Connector
  encoder : EncoderId → Except CallError Encoder
  planes : Except CallError (List PlaneId)
  plane : PlaneId → Except CallError Plane

/-- That a device answers by an inventory whenever it is asked. How it answers questions about
properties is left open. -/
structure Device.Answers (device : Device σ) (inventory : Inventory) : Prop where
  resources : Yields device.resources (· = inventory.resources)
  connector : ∀ handle, Yields (device.connector handle) (· = inventory.connector handle)
  encoder : ∀ handle, Yields (device.encoder handle) (· = inventory.encoder handle)
  planes : Yields device.planes (· = inventory.planes)
  plane : ∀ handle, Yields (device.plane handle) (· = inventory.plane handle)

/-- That the lowest position a mask allows in a list of CRTCs is `index`, where `crtc` stands. -/
structure CrtcMask.Lowest (mask : CrtcMask) (crtcs : List CrtcId) (crtc : CrtcId) (index : Nat) :
    Prop where
  listed : crtcs[index]? = some crtc
  allowed : mask.allows index = true
  lowest : ∀ i < index, mask.allows i = false

theorem firstAllowed_at {mask : CrtcMask} {start index : Nat} {crtcs : List CrtcId}
    {crtc : CrtcId} (h : firstAllowed mask start crtcs = some (crtc, index)) :
    ∃ i, index = start + i ∧ crtcs[i]? = some crtc ∧ mask.allows index = true ∧
      ∀ j < i, mask.allows (start + j) = false := by
  induction crtcs generalizing start with
  | nil => simp [firstAllowed] at h
  | cons first rest ih =>
    unfold firstAllowed at h
    split at h
    next allowed =>
      obtain ⟨rfl, rfl⟩ := Prod.mk.inj (Option.some.inj h)
      exact ⟨0, rfl, rfl, allowed, by simp⟩
    next refused =>
      obtain ⟨i, rfl, hi, allowed, lower⟩ := ih h
      refine ⟨i + 1, by omega, hi, allowed, ?_⟩
      intro j hj
      cases j with
      | zero => simpa using refused
      | succ j =>
        have hl := lower j (by omega)
        rwa [show start + (j + 1) = start + 1 + j by omega]

theorem firstAllowed_eq_none {mask : CrtcMask} {start : Nat} {crtcs : List CrtcId}
    (h : firstAllowed mask start crtcs = none) :
    ∀ i < crtcs.length, mask.allows (start + i) = false := by
  induction crtcs generalizing start with
  | nil => simp
  | cons first rest ih =>
    unfold firstAllowed at h
    split at h
    next => simp at h
    next refused =>
      intro i hi
      cases i with
      | zero => simpa using refused
      | succ i =>
        have hl := ih h i (by simpa using hi)
        rwa [show start + (i + 1) = start + 1 + i by omega]

theorem CrtcMask.Lowest.unique {mask : CrtcMask} {crtcs : List CrtcId} {crtc other : CrtcId}
    {index i : Nat} (h : mask.Lowest crtcs crtc index) (ho : mask.Lowest crtcs other i) :
    crtc = other ∧ index = i := by
  have notLower : ¬index < i := by
    intro lower
    simpa [h.allowed] using ho.lowest index lower
  have notHigher : ¬i < index := by
    intro higher
    simpa [ho.allowed] using h.lowest i higher
  obtain rfl : index = i := by omega
  exact ⟨Option.some.inj (h.listed.symm.trans ho.listed), rfl⟩

theorem firstAllowed_eq_some_iff {mask : CrtcMask} {crtcs : List CrtcId} {crtc : CrtcId}
    {index : Nat} :
    firstAllowed mask 0 crtcs = some (crtc, index) ↔ mask.Lowest crtcs crtc index := by
  have lowest {crtc : CrtcId} {index : Nat} (h : firstAllowed mask 0 crtcs = some (crtc, index)) :
      mask.Lowest crtcs crtc index := by
    obtain ⟨i, rfl, listed, allowed, lower⟩ := firstAllowed_at h
    rw [Nat.zero_add] at allowed ⊢
    refine ⟨listed, allowed, ?_⟩
    intro j hj
    simpa using lower j hj
  refine ⟨lowest, ?_⟩
  intro h
  cases found : firstAllowed mask 0 crtcs with
  | none =>
    have inList := (List.getElem?_eq_some_iff.mp h.listed).1
    have refused := firstAllowed_eq_none found index inList
    rw [Nat.zero_add, h.allowed] at refused
    simp at refused
  | some first =>
    obtain ⟨rfl, rfl⟩ := h.unique (lowest found)
    rfl

namespace Inventory

/-- That a connector can be queried and has a display. -/
def HasDisplay (inventory : Inventory) (handle : ConnectorId) : Prop :=
  ∃ connector, inventory.connector handle = .ok connector ∧ connector.state = .connected

/-- The connector that is driven: the first listed one that can be queried and has a display. -/
structure Displays (inventory : Inventory) (resources : Resources) (connector : Connector) :
    Prop where
  listed : inventory.resources = .ok resources
  first : ∃ before handle after, resources.connectors = before ++ handle :: after ∧
    inventory.connector handle = .ok connector ∧ connector.state = .connected ∧
    ∀ earlier ∈ before, ¬inventory.HasDisplay earlier

/-- That a connector's current encoder can be queried and is bound to a CRTC of the list. -/
structure Bound (inventory : Inventory) (crtcs : List CrtcId) (connector : Connector)
    (choice : CrtcChoice) : Prop where
  driven : ∃ handle encoder, connector.currentEncoder = some handle ∧
    choice.encoder = some handle ∧ inventory.encoder handle = .ok encoder ∧
    encoder.crtc = some choice.crtc
  listed : crtcs.idxOf? choice.crtc = some choice.index

/-- That an encoder can be queried and can drive a CRTC of the list. -/
def Reachable (inventory : Inventory) (crtcs : List CrtcId) (handle : EncoderId) : Prop :=
  ∃ encoder, inventory.encoder handle = .ok encoder ∧
    ∃ index < crtcs.length, encoder.possible.allows index = true

/-- The lowest CRTC that the first encoder with any can drive. -/
structure Reaches (inventory : Inventory) (crtcs : List CrtcId) (connector : Connector)
    (choice : CrtcChoice) : Prop where
  first : ∃ before handle after encoder, connector.encoders = before ++ handle :: after ∧
    choice.encoder = some handle ∧ inventory.encoder handle = .ok encoder ∧
    encoder.possible.Lowest crtcs choice.crtc choice.index ∧
    ∀ earlier ∈ before, ¬inventory.Reachable crtcs earlier

/-- The CRTC for a connector: the one it is bound to, and without such the one it reaches. -/
def Drives (inventory : Inventory) (crtcs : List CrtcId) (connector : Connector)
    (choice : CrtcChoice) : Prop :=
  inventory.Bound crtcs connector choice ∨
    (∀ other, ¬inventory.Bound crtcs connector other) ∧ inventory.Reaches crtcs connector choice

/-- That a plane can be queried and fits the CRTC at `index`. -/
def Fits (inventory : Inventory) (index : Nat) (handle : PlaneId) : Prop :=
  ∃ plane, inventory.plane handle = .ok plane ∧ plane.possible.allows index = true

/-- That a plane that fits the CRTC at `index` is listed. -/
structure Offers (inventory : Inventory) (index : Nat) (handle : PlaneId) : Prop where
  listed : ∃ planes, inventory.planes = .ok planes ∧ handle ∈ planes
  fits : inventory.Fits index handle

/-- That no encoder that can be queried is bound to a listed CRTC outside its own mask. -/
def Honest (inventory : Inventory) (crtcs : List CrtcId) : Prop :=
  ∀ handle encoder crtc index, inventory.encoder handle = .ok encoder →
    encoder.crtc = some crtc → crtcs.idxOf? crtc = some index →
    encoder.possible.allows index = true

/-- That an output is the one to choose, and can be used as it is. -/
structure Realizes (inventory : Inventory) (resources : Resources) (connector : Connector)
    (topology : Topology) : Prop where
  wired : topology.connector = connector.handle
  name : topology.connectorName = connector.name
  mode : topology.mode ∈ connector.modes
  driven : inventory.Drives resources.crtcs connector
    ⟨topology.crtc, topology.crtcIndex, topology.encoder⟩
  listed : resources.crtcs[topology.crtcIndex]? = some topology.crtc
  inWord : topology.crtcIndex < 32
  shown : inventory.Offers topology.crtcIndex topology.plane
  routed : inventory.Honest resources.crtcs → ∃ handle encoder,
    topology.encoder = some handle ∧ inventory.encoder handle = .ok encoder ∧
      encoder.possible.allows topology.crtcIndex = true

/-- What choosing an output comes to. Its stages are gone through in this order: a connector, a
mode, a CRTC, a plane. It fails at the first for which there is nothing. -/
structure Selection (inventory : Inventory) (result : Except DisplayError Topology) : Prop where
  undisplayed : result = .error .noConnectedDisplay ↔
    ∀ resources, inventory.resources = .ok resources →
      ∀ handle ∈ resources.connectors, ¬inventory.HasDisplay handle
  modeless : ∀ handle, result = .error (.noModeAvailable handle) ↔
    ∃ resources connector, inventory.Displays resources connector ∧
      connector.handle = handle ∧ connector.modes = []
  undriven : ∀ handle, result = .error (.noCrtcAvailable handle) ↔
    ∃ resources connector, inventory.Displays resources connector ∧
      connector.handle = handle ∧ connector.modes ≠ [] ∧
      (∀ choice, ¬inventory.Bound resources.crtcs connector choice) ∧
      ∀ encoder ∈ connector.encoders, ¬inventory.Reachable resources.crtcs encoder
  unshown : ∀ crtc index, result = .error (.noSuitablePlane crtc index) ↔
    ∃ resources connector encoder, inventory.Displays resources connector ∧
      connector.modes ≠ [] ∧ inventory.Drives resources.crtcs connector ⟨crtc, index, encoder⟩ ∧
      ∀ plane, ¬inventory.Offers index plane
  otherwise : ∀ e, result = .error e → e = .noConnectedDisplay ∨
    (∃ handle, e = .noModeAvailable handle) ∨ (∃ handle, e = .noCrtcAvailable handle) ∨
    ∃ crtc index, e = .noSuitablePlane crtc index
  selected : ∀ topology, result = .ok topology → ∃ resources connector,
    inventory.Displays resources connector ∧ inventory.Realizes resources connector topology

variable {inventory : Inventory} {resources : Resources} {crtcs : List CrtcId}
  {connector : Connector} {choice : CrtcChoice}

/-- The display of a connector, found. -/
def display? (inventory : Inventory) (handle : ConnectorId) : Option Connector :=
  match inventory.connector handle with
  | .ok connector => if connector.state = .connected then some connector else none
  | .error _ => none

theorem display?_eq_some_iff {handle : ConnectorId} :
    inventory.display? handle = some connector ↔
      inventory.connector handle = .ok connector ∧ connector.state = .connected := by
  unfold display?
  cases inventory.connector handle with
  | error cause => simp
  | ok found =>
    by_cases hc : found.state = .connected
    · simp only [hc, ↓reduceIte, Option.some.injEq, Except.ok.injEq]
      exact ⟨fun same => ⟨same, same ▸ hc⟩, fun same => same.1⟩
    · simp only [hc, ↓reduceIte, reduceCtorEq, Except.ok.injEq, false_iff, not_and]
      exact fun same => same ▸ hc

theorem display?_eq_none_iff {handle : ConnectorId} :
    inventory.display? handle = none ↔ ¬inventory.HasDisplay handle := by
  have some_iff : (∃ connector, inventory.display? handle = some connector) ↔
      inventory.HasDisplay handle := exists_congr fun _ => display?_eq_some_iff
  rw [← some_iff, Option.eq_none_iff_forall_ne_some, not_exists]

theorem displays_iff : inventory.Displays resources connector ↔
    inventory.resources = .ok resources ∧
      resources.connectors.findSome? inventory.display? = some connector := by
  simp only [List.findSome?_eq_some_iff, display?_eq_some_iff, display?_eq_none_iff]
  constructor
  · rintro ⟨listed, before, handle, after, split, found, connected, none⟩
    exact ⟨listed, before, handle, after, split, ⟨found, connected⟩, none⟩
  · rintro ⟨listed, before, handle, after, split, ⟨found, connected⟩, none⟩
    exact ⟨listed, before, handle, after, split, found, connected, none⟩

/-- The connector that is driven, found, with the list it stands in. -/
def driven? (inventory : Inventory) : Option (Resources × Connector) :=
  match inventory.resources with
  | .error _ => none
  | .ok resources =>
    (resources.connectors.findSome? inventory.display?).map fun connector => (resources, connector)

theorem driven?_eq_some_iff : inventory.driven? = some (resources, connector) ↔
    inventory.Displays resources connector := by
  rw [displays_iff]
  unfold driven?
  cases inventory.resources with
  | error cause => simp
  | ok listed =>
    simp only [Option.map_eq_some_iff, Prod.mk.injEq, Except.ok.injEq]
    constructor
    · rintro ⟨connector, found, rfl, rfl⟩
      exact ⟨rfl, found⟩
    · rintro ⟨rfl, found⟩
      exact ⟨connector, found, rfl, rfl⟩

theorem driven?_eq_none_iff : inventory.driven? = none ↔
    ∀ resources, inventory.resources = .ok resources →
      ∀ handle ∈ resources.connectors, ¬inventory.HasDisplay handle := by
  unfold driven?
  cases inventory.resources with
  | error cause => simp
  | ok listed => simp [display?_eq_none_iff]

/-- The CRTC that a current encoder is bound to, found. -/
def bound? (inventory : Inventory) (crtcs : List CrtcId) : Option EncoderId → Option CrtcChoice
  | none => none
  | some handle =>
    match inventory.encoder handle with
    | .error _ => none
    | .ok encoder => encoder.crtc.bind fun crtc =>
        (crtcs.idxOf? crtc).map fun index => ⟨crtc, index, some handle⟩

theorem bound?_eq_some_iff :
    inventory.bound? crtcs connector.currentEncoder = some choice ↔
      inventory.Bound crtcs connector choice := by
  constructor
  · intro h
    cases current : connector.currentEncoder with
    | none => simp [bound?, current] at h
    | some handle =>
      rw [current] at h
      unfold bound? at h
      dsimp only at h
      split at h
      next => simp at h
      next encoder queried =>
        obtain ⟨crtc, bound, found⟩ := Option.bind_eq_some_iff.mp h
        obtain ⟨index, listed, rfl⟩ := Option.map_eq_some_iff.mp found
        exact ⟨⟨handle, encoder, current, rfl, queried, bound⟩, listed⟩
  · obtain ⟨crtc, index, recorded⟩ := choice
    rintro ⟨⟨handle, encoder, current, rfl, queried, bound⟩, listed⟩
    simp only at bound listed
    simp [bound?, current, queried, bound, listed]

theorem bound?_eq_none_iff : inventory.bound? crtcs connector.currentEncoder = none ↔
    ∀ choice, ¬inventory.Bound crtcs connector choice := by
  rw [Option.eq_none_iff_forall_ne_some]
  exact forall_congr' fun _ => not_congr bound?_eq_some_iff

/-- The lowest CRTC that an encoder can drive, found. -/
def reached? (inventory : Inventory) (crtcs : List CrtcId) (handle : EncoderId) :
    Option CrtcChoice :=
  match inventory.encoder handle with
  | .error _ => none
  | .ok encoder => (firstAllowed encoder.possible 0 crtcs).map fun found =>
      ⟨found.1, found.2, some handle⟩

theorem reached?_eq_some_iff {handle : EncoderId} :
    inventory.reached? crtcs handle = some choice ↔ ∃ encoder, choice.encoder = some handle ∧
      inventory.encoder handle = .ok encoder ∧
      encoder.possible.Lowest crtcs choice.crtc choice.index := by
  unfold reached?
  cases queried : inventory.encoder handle with
  | error cause => simp
  | ok encoder =>
    constructor
    · intro h
      obtain ⟨⟨crtc, index⟩, found, rfl⟩ := Option.map_eq_some_iff.mp h
      exact ⟨encoder, rfl, rfl, firstAllowed_eq_some_iff.mp found⟩
    · obtain ⟨crtc, index, recorded⟩ := choice
      rintro ⟨_, rfl, same, lowest⟩
      obtain rfl := Except.ok.inj same
      exact Option.map_eq_some_iff.mpr ⟨_, firstAllowed_eq_some_iff.mpr lowest, rfl⟩

theorem reached?_eq_none_iff {handle : EncoderId} :
    inventory.reached? crtcs handle = none ↔ ¬inventory.Reachable crtcs handle := by
  constructor
  · rintro h ⟨encoder, queried, index, inList, allowed⟩
    simp only [reached?, queried, Option.map_eq_none_iff] at h
    have refused := firstAllowed_eq_none h index inList
    rw [Nat.zero_add, allowed] at refused
    simp at refused
  · intro unreachable
    rw [Option.eq_none_iff_forall_ne_some]
    intro choice found
    obtain ⟨encoder, -, queried, lowest⟩ := reached?_eq_some_iff.mp found
    have inList := (List.getElem?_eq_some_iff.mp lowest.listed).1
    exact unreachable ⟨encoder, queried, choice.index, inList, lowest.allowed⟩

/-- The CRTC for a connector, found. -/
def choice? (inventory : Inventory) (crtcs : List CrtcId) (connector : Connector) :
    Option CrtcChoice :=
  match inventory.bound? crtcs connector.currentEncoder with
  | some choice => some choice
  | none => connector.encoders.findSome? (inventory.reached? crtcs)

theorem reaches_iff : inventory.Reaches crtcs connector choice ↔
    connector.encoders.findSome? (inventory.reached? crtcs) = some choice := by
  simp only [List.findSome?_eq_some_iff, reached?_eq_some_iff, reached?_eq_none_iff]
  constructor
  · rintro ⟨before, handle, after, encoder, split, recorded, queried, lowest, none⟩
    exact ⟨before, handle, after, split, ⟨encoder, recorded, queried, lowest⟩, none⟩
  · rintro ⟨before, handle, after, split, ⟨encoder, recorded, queried, lowest⟩, none⟩
    exact ⟨before, handle, after, encoder, split, recorded, queried, lowest, none⟩

theorem choice?_eq_some_iff :
    inventory.choice? crtcs connector = some choice ↔ inventory.Drives crtcs connector choice := by
  unfold choice? Drives
  rw [← bound?_eq_some_iff, ← bound?_eq_none_iff, reaches_iff]
  cases inventory.bound? crtcs connector.currentEncoder <;> simp

theorem choice?_eq_none_iff : inventory.choice? crtcs connector = none ↔
    (∀ choice, ¬inventory.Bound crtcs connector choice) ∧
      ∀ handle ∈ connector.encoders, ¬inventory.Reachable crtcs handle := by
  unfold choice?
  simp only [← bound?_eq_none_iff, ← reached?_eq_none_iff]
  cases inventory.bound? crtcs connector.currentEncoder <;> simp

end Inventory

end Scanout
