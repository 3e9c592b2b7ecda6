import Scanout.Kernel
import Scanout.Output

namespace Scanout

/-- What choosing an output can fail with. -/
def DisplayError.ofSelection : DisplayError → Bool
  | noConnectedDisplay | noModeAvailable _ | noCrtcAvailable _ | noSuitablePlane _ _ => true
  | _ => false

/-- That a step of choosing an output gives what `P` holds of, or fails with nothing but what
choosing an output can fail with. -/
def SelectsTo {α : Type} (P : α → Prop) : Except DisplayError α → Prop
  | .error e => e.ofSelection
  | .ok a => P a

/-- What choosing an output does when the resources have been read. -/
def selectAmong {σ : Type} [World σ] (device : Device σ) (mode : Option String)
    (refresh : UInt32) : Except CallError Resources → Act σ (Except DisplayError Topology)
  | .error cause => do
    note (.resourcesUnreadable cause)
    return .error .noConnectedDisplay
  | .ok resources => do
    match ← findConnector device resources.connectors with
    | .error e => return .error e
    | .ok connector =>
      note (.connectorChosen connector.name)
      match ← chooseMode connector mode refresh with
      | .error e => return .error e
      | .ok mode => choosePath device resources.crtcs connector mode

theorem selectOutput_eq_selectAmong {σ : Type} [World σ] (device : Device σ)
    (mode : Option String) (refresh : UInt32) :
    selectOutput device mode refresh = device.resources >>= selectAmong device mode refresh := by
  refine congrArg (device.resources >>= ·) (funext fun resources => ?_)
  cases resources <;> rfl

/-- A way to judge what an act does in one world beside what it does in another, and what its
result is like, that looks at an act step by step. -/
structure Judgment (τ σ : Type) [World τ] [World σ] where
  Holds : {α : Type} → Act τ α → Act σ α → (α → Prop) → Prop
  pure : ∀ {α : Type} {a : α} {P : α → Prop}, P a → Holds (pure a) (pure a) P
  bind : ∀ {α β : Type} {act : Act τ α} {plain : Act σ α} {next : α → Act τ β}
    {plainNext : α → Act σ β} {P : α → Prop} {S : β → Prop}, Holds act plain P →
    (∀ a, P a → Holds (next a) (plainNext a) S) → Holds (act >>= next) (plain >>= plainNext) S
  note : ∀ n, Holds (Scanout.note n) (Scanout.note n) fun _ => True

namespace Judgment

variable {τ σ : Type} [World τ] [World σ] {j : Judgment τ σ} {α β : Type}

/-- An act of whose result nothing need be known, and what comes after it. -/
theorem after {act : Act τ α} {plain : Act σ α} {next : α → Act τ β} {plainNext : α → Act σ β}
    {S : β → Prop} (h : j.Holds act plain fun _ => True)
    (hn : ∀ a, j.Holds (next a) (plainNext a) S) :
    j.Holds (act >>= next) (plain >>= plainNext) S :=
  j.bind h fun a _ => hn a

theorem notes (ns : List Note) :
    j.Holds (Scanout.notes ns) (Scanout.notes ns) fun _ => True := by
  induction ns with
  | nil => exact j.pure trivial
  | cons n rest ih => exact after (j.note n) fun _ => ih

/-- A failure is passed on, a success goes on. -/
theorem bindOk {act : Act τ (Except DisplayError α)} {plain : Act σ (Except DisplayError α)}
    {next : Except DisplayError α → Act τ (Except DisplayError β)}
    {plainNext : Except DisplayError α → Act σ (Except DisplayError β)}
    {P : α → Prop} {S : β → Prop} (h : j.Holds act plain (SelectsTo P))
    (failed : ∀ e, next (.error e) = Pure.pure (.error e))
    (plainFailed : ∀ e, plainNext (.error e) = Pure.pure (.error e))
    (hn : ∀ a, P a → j.Holds (next (.ok a)) (plainNext (.ok a)) (SelectsTo S)) :
    j.Holds (act >>= next) (plain >>= plainNext) (SelectsTo S) := by
  refine j.bind h ?_
  rintro (e | a) result
  · rw [failed, plainFailed]
    exact j.pure result
  · exact hn a result

/-- That a judgment holds of the queries of a device, but for that of its resources. -/
structure Covers (j : Judgment τ σ) (device : Device τ) (plain : Device σ) : Prop where
  connector : ∀ handle, j.Holds (device.connector handle) (plain.connector handle) fun _ => True
  encoder : ∀ handle, j.Holds (device.encoder handle) (plain.encoder handle) fun _ => True
  planes : j.Holds device.planes plain.planes fun _ => True
  plane : ∀ handle, j.Holds (device.plane handle) (plain.plane handle) fun _ => True
  properties : ∀ object,
    j.Holds (device.properties object) (plain.properties object) fun _ => True
  propertyName : ∀ handle,
    j.Holds (device.propertyName handle) (plain.propertyName handle) fun _ => True

namespace Covers

variable {device : Device τ} {plain : Device σ}

theorem readEntries (covers : j.Covers device plain) (object : DisplayObject)
    (listed : List (PropertyId × UInt64)) :
    j.Holds (Scanout.readEntries device object listed) (Scanout.readEntries plain object listed)
      fun _ => True := by
  induction listed with
  | nil => exact j.pure trivial
  | cons property rest ih =>
    refine after (covers.propertyName property.1) ?_
    rintro (cause | name)
    · exact after (j.note _) fun _ => ih
    · exact after ih fun _ => j.pure trivial

theorem isPrimary (covers : j.Covers device plain) (plane : PlaneId) :
    j.Holds (Scanout.isPrimary device plane) (Scanout.isPrimary plain plane) fun _ => True := by
  have loaded : j.Holds (PropertyTable.load device (.plane plane))
      (PropertyTable.load plain (.plane plane)) fun _ => True := by
    refine after (covers.properties _) ?_
    rintro (cause | listed)
    · exact j.pure trivial
    · exact after (covers.readEntries _ _) fun _ => after (j.note _) fun _ => j.pure trivial
  refine after loaded ?_
  rintro (e | table)
  · exact after (j.note _) fun _ => j.pure trivial
  · exact j.pure trivial

theorem findConnector (covers : j.Covers device plain) (connectors : List ConnectorId) :
    j.Holds (Scanout.findConnector device connectors) (Scanout.findConnector plain connectors)
      (SelectsTo fun _ => True) := by
  induction connectors with
  | nil => exact j.pure rfl
  | cons handle rest ih =>
    refine after (covers.connector handle) ?_
    rintro (cause | connector)
    · exact after (j.note _) fun _ => ih
    · by_cases connected : connector.state = .connected
      · simp only [connected, ↓reduceIte]
        exact j.pure trivial
      · simp only [connected, ↓reduceIte]
        exact ih

theorem currentCrtc (covers : j.Covers device plain) (crtcs : List CrtcId)
    (current : Option EncoderId) :
    j.Holds (Scanout.currentCrtc device crtcs current) (Scanout.currentCrtc plain crtcs current)
      fun _ => True := by
  cases current with
  | none => exact j.pure trivial
  | some handle =>
    refine after (covers.encoder handle) ?_
    rintro (cause | encoder)
    · exact after (j.note _) fun _ => j.pure trivial
    · dsimp only
      cases encoder.crtc with
      | none => exact j.pure trivial
      | some crtc =>
        dsimp only
        cases crtcs.idxOf? crtc with
        | some index => exact j.pure trivial
        | none => exact after (j.note _) fun _ => j.pure trivial

theorem reachableCrtc (covers : j.Covers device plain) (crtcs : List CrtcId)
    (encoders : List EncoderId) :
    j.Holds (Scanout.reachableCrtc device crtcs encoders)
      (Scanout.reachableCrtc plain crtcs encoders) fun _ => True := by
  induction encoders with
  | nil => exact j.pure trivial
  | cons handle rest ih =>
    refine after (covers.encoder handle) ?_
    rintro (cause | encoder)
    · exact after (j.note _) fun _ => ih
    · dsimp only
      cases firstAllowed encoder.possible 0 crtcs with
      | some found => exact j.pure trivial
      | none => exact ih

theorem findCrtc (covers : j.Covers device plain) (crtcs : List CrtcId) (connector : Connector) :
    j.Holds (Scanout.findCrtc device crtcs connector) (Scanout.findCrtc plain crtcs connector)
      (SelectsTo fun _ => True) := by
  refine after (covers.currentCrtc crtcs connector.currentEncoder) ?_
  rintro (_ | choice)
  · refine after (covers.reachableCrtc crtcs connector.encoders) ?_
    rintro (_ | choice)
    · exact j.pure rfl
    · exact j.pure trivial
  · exact j.pure trivial

/-- A plane is only found for a CRTC that has a bit in a mask. -/
theorem scanPlanes (covers : j.Covers device plain) (index : Nat) (candidate : Option PlaneId)
    (earlier : candidate.isSome → index < 32) (planes : List PlaneId) :
    j.Holds (Scanout.scanPlanes device index candidate planes)
      (Scanout.scanPlanes plain index candidate planes) fun found => found.isSome → index < 32 := by
  induction planes generalizing candidate with
  | nil => exact j.pure earlier
  | cons handle rest ih =>
    refine after (covers.plane handle) ?_
    rintro (cause | plane)
    · exact after (j.note _) fun _ => ih candidate earlier
    · cases allowed : plane.possible.allows index with
      | false =>
        simp only [allowed, Bool.false_eq_true, ↓reduceIte]
        exact ih candidate earlier
      | true =>
        have inWord : index < 32 := by
          simp only [CrtcMask.allows, Bool.and_eq_true, decide_eq_true_eq] at allowed
          exact allowed.1
        simp only [allowed, ↓reduceIte]
        refine after (covers.isPrimary handle) ?_
        rintro (_ | _)
        · exact ih _ fun _ => inWord
        · exact j.pure fun _ => inWord

theorem findPlane (covers : j.Covers device plain) (crtc : CrtcId) (index : Nat) :
    j.Holds (Scanout.findPlane device crtc index) (Scanout.findPlane plain crtc index)
      (SelectsTo fun _ => index < 32) := by
  refine after covers.planes ?_
  rintro (cause | planes)
  · exact after (j.note _) fun _ => j.pure rfl
  · refine j.bind (covers.scanPlanes index none (by simp) planes) ?_
    rintro (_ | plane) inWord
    · exact j.pure rfl
    · exact j.pure (inWord rfl)

theorem chooseMode (connector : Connector) (name : Option String) (refresh : UInt32) :
    j.Holds (Scanout.chooseMode connector name refresh)
      (Scanout.chooseMode connector name refresh)
      (SelectsTo fun _ => True) := by
  refine after (notes _) fun _ => ?_
  cases Mode.pick connector.modes name refresh with
  | none => exact j.pure rfl
  | some choice =>
    cases fell : choice.fallback with
    | false =>
      simp only [fell, Bool.false_eq_true, ↓reduceIte]
      exact j.pure trivial
    | true =>
      simp only [fell, ↓reduceIte]
      exact after (j.note _) fun _ => j.pure trivial

theorem choosePath (covers : j.Covers device plain) (crtcs : List CrtcId) (connector : Connector)
    (mode : Mode) :
    j.Holds (Scanout.choosePath device crtcs connector mode)
      (Scanout.choosePath plain crtcs connector mode)
      (SelectsTo fun topology => topology.crtcIndex < 32) := by
  refine bindOk (covers.findCrtc crtcs connector) (fun _ => rfl) (fun _ => rfl) ?_
  intro choice _
  refine bindOk (covers.findPlane choice.crtc choice.index) (fun _ => rfl) (fun _ => rfl) ?_
  intro plane inWord
  exact after (j.note _) fun _ => j.pure inWord

/-- The CRTC that is chosen has a bit in a mask, whatever a device answers. -/
theorem selectAmong (covers : j.Covers device plain) (mode : Option String) (refresh : UInt32)
    (resources : Except CallError Resources) :
    j.Holds (Scanout.selectAmong device mode refresh resources)
      (Scanout.selectAmong plain mode refresh resources)
      (SelectsTo fun topology => topology.crtcIndex < 32) := by
  cases resources with
  | error cause => exact after (j.note _) fun _ => j.pure rfl
  | ok resources =>
    refine bindOk (covers.findConnector resources.connectors) (fun _ => rfl) (fun _ => rfl) ?_
    intro connector _
    refine after (j.note _) fun _ => ?_
    refine bindOk (chooseMode connector mode refresh) (fun _ => rfl) (fun _ => rfl) ?_
    intro mode _
    exact covers.choosePath resources.crtcs connector mode

end Covers

end Judgment

/-- A kernel's device, with another way to come to the mask of an encoder or a plane. -/
def Kernel.deviceBy {σ : Type} [World σ] (kernel : Kernel σ)
    (mask : UInt32 → Act σ (Except CallError CrtcMask)) : Device σ :=
  { kernel.device with
    encoder handle := do
      match ← kernel.encoder handle with
      | .error cause => return .error cause
      | .ok info => return (← mask info.mask).map (⟨handle, info.crtc, ·⟩)
    plane handle := do
      match ← kernel.planeMask handle with
      | .error cause => return .error cause
      | .ok own => return (← mask own).map (⟨handle, ·⟩) }

theorem Kernel.deviceBy_crtcMask {σ : Type} [World σ] (kernel : Kernel σ) :
    kernel.deviceBy kernel.crtcMask = kernel.device := rfl

namespace Judgment

variable {τ σ : Type} [World τ] [World σ] {j : Judgment τ σ}

/-- A judgment of what is asked of the kernel is one of the queries of its device. -/
theorem covers_kernel {kernel : Kernel τ} {other : Kernel σ}
    {mask : UInt32 → Act τ (Except CallError CrtcMask)}
    {otherMask : UInt32 → Act σ (Except CallError CrtcMask)}
    (connector : ∀ handle, j.Holds (kernel.connector handle) (other.connector handle)
      fun _ => True)
    (encoder : ∀ handle, j.Holds (kernel.encoder handle) (other.encoder handle) fun _ => True)
    (planes : j.Holds kernel.planes other.planes fun _ => True)
    (planeMask : ∀ handle, j.Holds (kernel.planeMask handle) (other.planeMask handle)
      fun _ => True)
    (properties : ∀ object, j.Holds (kernel.properties object) (other.properties object)
      fun _ => True)
    (propertyName : ∀ handle, j.Holds (kernel.propertyName handle) (other.propertyName handle)
      fun _ => True)
    (masked : ∀ own, j.Holds (mask own) (otherMask own) fun _ => True) :
    j.Covers (kernel.deviceBy mask) (other.deviceBy otherMask) where
  connector handle := by
    refine after (connector handle) ?_
    rintro (cause | info) <;> exact j.pure trivial
  encoder handle := by
    refine after (encoder handle) ?_
    rintro (cause | info)
    · exact j.pure trivial
    · exact after (masked info.mask) fun _ => j.pure trivial
  planes := planes
  plane handle := by
    refine after (planeMask handle) ?_
    rintro (cause | own)
    · exact j.pure trivial
    · exact after (masked own) fun _ => j.pure trivial
  properties := properties
  propertyName handle := after (propertyName handle) fun _ => j.pure trivial

end Judgment

end Scanout
