import Scanout.Memory.Display
import Scanout.Proofs.Inventory
import Scanout.Proofs.ModePick

namespace Scanout

/-- What a search comes to: what it found, or an error. -/
def found {α : Type} (e : DisplayError) : Option α → Except DisplayError α
  | some a => .ok a
  | none => .error e

section Searches

variable {σ : Type} [World σ] {device : Device σ} {inventory : Inventory}

theorem yields_findConnector (answers : device.Answers inventory)
    (connectors : List ConnectorId) :
    Yields (findConnector device connectors)
      (· = found .noConnectedDisplay (connectors.findSome? inventory.display?)) := by
  induction connectors with
  | nil => exact yields_pure rfl
  | cons handle rest ih =>
    refine (answers.connector handle).bind ?_
    rintro _ rfl
    cases queried : inventory.connector handle with
    | error cause =>
      refine yields_after fun _ => ?_
      simpa [Inventory.display?, queried] using ih
    | ok connector =>
      by_cases connected : connector.state = .connected
      · simp only [connected, ↓reduceIte]
        exact yields_pure (by simp [Inventory.display?, queried, connected, found])
      · simp only [connected, ↓reduceIte]
        simpa [Inventory.display?, queried, connected] using ih

theorem yields_currentCrtc (answers : device.Answers inventory) (crtcs : List CrtcId)
    (current : Option EncoderId) :
    Yields (currentCrtc device crtcs current) (· = inventory.bound? crtcs current) := by
  cases current with
  | none => exact yields_pure rfl
  | some handle =>
    refine (answers.encoder handle).bind ?_
    rintro _ rfl
    cases queried : inventory.encoder handle with
    | error cause =>
      exact yields_after fun _ => yields_pure (by simp [Inventory.bound?, queried])
    | ok encoder =>
      dsimp only
      cases bound : encoder.crtc with
      | none => exact yields_pure (by simp [Inventory.bound?, queried, bound])
      | some crtc =>
        dsimp only
        cases listed : crtcs.idxOf? crtc with
        | none =>
          refine yields_after fun _ => ?_
          exact yields_pure (by simp [Inventory.bound?, queried, bound, listed])
        | some index =>
          exact yields_pure (by simp [Inventory.bound?, queried, bound, listed])

theorem yields_reachableCrtc (answers : device.Answers inventory) (crtcs : List CrtcId)
    (encoders : List EncoderId) :
    Yields (reachableCrtc device crtcs encoders)
      (· = encoders.findSome? (inventory.reached? crtcs)) := by
  induction encoders with
  | nil => exact yields_pure rfl
  | cons handle rest ih =>
    refine (answers.encoder handle).bind ?_
    rintro _ rfl
    cases queried : inventory.encoder handle with
    | error cause =>
      refine yields_after fun _ => ?_
      simpa [Inventory.reached?, queried] using ih
    | ok encoder =>
      dsimp only
      cases first : firstAllowed encoder.possible 0 crtcs with
      | none => simpa [Inventory.reached?, queried, first] using ih
      | some allowed => exact yields_pure (by simp [Inventory.reached?, queried, first])

theorem yields_findCrtc (answers : device.Answers inventory) (crtcs : List CrtcId)
    (connector : Connector) :
    Yields (findCrtc device crtcs connector)
      (· = found (.noCrtcAvailable connector.handle) (inventory.choice? crtcs connector)) := by
  refine (yields_currentCrtc answers crtcs connector.currentEncoder).bind ?_
  rintro _ rfl
  unfold Inventory.choice?
  cases inventory.bound? crtcs connector.currentEncoder with
  | some choice => exact yields_pure rfl
  | none =>
    refine (yields_reachableCrtc answers crtcs connector.encoders).bind ?_
    rintro _ rfl
    cases connector.encoders.findSome? (inventory.reached? crtcs) <;> exact yields_pure rfl

/-- A scan gives a plane that fits or was a candidate before, and none only if no plane fits. -/
theorem yields_scanPlanes (answers : device.Answers inventory) (index : Nat)
    (candidate : Option PlaneId) (planes : List PlaneId) :
    Yields (scanPlanes device index candidate planes) fun result =>
      (∀ handle, result = some handle →
        candidate = some handle ∨ handle ∈ planes ∧ inventory.Fits index handle) ∧
      (result = none → candidate = none ∧ ∀ handle ∈ planes, ¬inventory.Fits index handle) := by
  induction planes generalizing candidate with
  | nil => exact yields_pure ⟨fun _ h => .inl h, fun h => ⟨h, by simp⟩⟩
  | cons handle rest ih =>
    refine (answers.plane handle).bind ?_
    rintro _ rfl
    -- A plane that does not fit is passed by.
    have passed (unfit : ¬inventory.Fits index handle) :
        Yields (scanPlanes device index candidate rest) fun result =>
          (∀ plane, result = some plane →
            candidate = some plane ∨ plane ∈ handle :: rest ∧ inventory.Fits index plane) ∧
          (result = none → candidate = none ∧
            ∀ plane ∈ handle :: rest, ¬inventory.Fits index plane) := by
      refine (ih candidate).mono ?_
      rintro result ⟨some, none⟩
      refine ⟨fun plane hr => (some plane hr).imp_right fun h => ⟨by simp [h.1], h.2⟩, ?_⟩
      intro hr
      obtain ⟨empty, unfits⟩ := none hr
      exact ⟨empty, by simpa [unfit] using unfits⟩
    cases queried : inventory.plane handle with
    | error cause =>
      have unfit : ¬inventory.Fits index handle := by simp [Inventory.Fits, queried]
      exact yields_after fun _ => passed unfit
    | ok plane =>
      dsimp only
      cases allowed : plane.possible.allows index with
      | false =>
        have unfit : ¬inventory.Fits index handle := by simp [Inventory.Fits, queried, allowed]
        simpa only [allowed, Bool.false_eq_true, ↓reduceIte] using passed unfit
      | true =>
        have fits : inventory.Fits index handle := ⟨plane, queried, allowed⟩
        simp only [↓reduceIte]
        refine yields_after fun primary => ?_
        cases primary with
        | true => exact yields_pure (by simp [fits])
        | false =>
          refine (ih (some (candidate.getD handle))).mono ?_
          rintro result ⟨some, none⟩
          refine ⟨?_, fun hr => absurd (none hr).1 (by simp)⟩
          intro plane hr
          rcases some plane hr with same | ⟨listed, fit⟩
          · cases candidate with
            | none =>
              obtain rfl : handle = plane := by simpa using same
              exact .inr ⟨by simp, fits⟩
            | some first => exact .inl (by simpa using same)
          · exact .inr ⟨by simp [listed], fit⟩

theorem yields_findPlane (answers : device.Answers inventory) (crtc : CrtcId) (index : Nat) :
    Yields (findPlane device crtc index) fun result =>
      (∃ plane, result = .ok plane ∧ inventory.Offers index plane) ∨
      result = .error (.noSuitablePlane crtc index) ∧
        ∀ plane, ¬inventory.Offers index plane := by
  refine answers.planes.bind ?_
  rintro _ rfl
  cases queried : inventory.planes with
  | error cause =>
    refine yields_after fun _ => yields_pure (.inr ⟨rfl, ?_⟩)
    rintro plane ⟨⟨planes, listed, -⟩, -⟩
    simp [queried] at listed
  | ok planes =>
    refine (yields_scanPlanes answers index none planes).bind ?_
    rintro result ⟨some, none⟩
    cases result with
    | some plane =>
      obtain ⟨listed, fits⟩ := (some plane rfl).resolve_left (by simp)
      exact yields_pure (.inl ⟨plane, rfl, ⟨planes, queried, listed⟩, fits⟩)
    | none =>
      refine yields_pure (.inr ⟨rfl, ?_⟩)
      rintro plane ⟨⟨_, same, listed⟩, fits⟩
      obtain rfl := Except.ok.inj (queried.symm.trans same)
      exact (none rfl).2 plane listed fits

theorem yields_chooseMode (connector : Connector) (name : Option String) (refresh : UInt32) :
    Yields (σ := σ) (chooseMode connector name refresh)
      (· = found (.noModeAvailable connector.handle)
        ((Mode.pick connector.modes name refresh).map (·.mode))) := by
  refine yields_after fun _ => ?_
  cases Mode.pick connector.modes name refresh with
  | none => exact yields_pure rfl
  | some choice =>
    dsimp only
    cases choice.fallback with
    | false => exact yields_pure rfl
    | true => exact yields_after fun _ => yields_pure rfl

/-- What choosing an output comes to, by the last stage that was gone through. -/
inductive Inventory.Outcome (inventory : Inventory) : Except DisplayError Topology → Prop
  | undisplayed : inventory.driven? = none → Outcome inventory (.error .noConnectedDisplay)
  | modeless {resources : Resources} {connector : Connector} :
      inventory.driven? = some (resources, connector) → connector.modes = [] →
      Outcome inventory (.error (.noModeAvailable connector.handle))
  | undriven {resources : Resources} {connector : Connector} :
      inventory.driven? = some (resources, connector) → connector.modes ≠ [] →
      inventory.choice? resources.crtcs connector = none →
      Outcome inventory (.error (.noCrtcAvailable connector.handle))
  | unshown {resources : Resources} {connector : Connector} {choice : CrtcChoice} :
      inventory.driven? = some (resources, connector) → connector.modes ≠ [] →
      inventory.choice? resources.crtcs connector = some choice →
      (∀ plane, ¬inventory.Offers choice.index plane) →
      Outcome inventory (.error (.noSuitablePlane choice.crtc choice.index))
  | selected {resources : Resources} {connector : Connector} {choice : CrtcChoice} {mode : Mode}
      {plane : PlaneId} : inventory.driven? = some (resources, connector) →
      mode ∈ connector.modes → inventory.choice? resources.crtcs connector = some choice →
      inventory.Offers choice.index plane →
      Outcome inventory (.ok
        { connector := connector.handle, connectorName := connector.name, mode,
          crtc := choice.crtc, crtcIndex := choice.index, encoder := choice.encoder, plane })

theorem yields_selectOutput (answers : device.Answers inventory) (name : Option String)
    (refresh : UInt32) :
    Yields (selectOutput device name refresh) inventory.Outcome := by
  refine answers.resources.bind ?_
  rintro _ rfl
  cases queried : inventory.resources with
  | error cause =>
    have none : inventory.driven? = none := by simp [Inventory.driven?, queried]
    exact yields_after fun _ => yields_pure (.undisplayed none)
  | ok resources =>
    refine (yields_findConnector answers resources.connectors).bind ?_
    rintro _ rfl
    cases first : resources.connectors.findSome? inventory.display? with
    | none =>
      have none : inventory.driven? = none := by simp [Inventory.driven?, queried, first]
      exact yields_pure (.undisplayed none)
    | some connector =>
      have driven : inventory.driven? = some (resources, connector) := by
        simp [Inventory.driven?, queried, first]
      refine yields_after fun _ => ?_
      refine (yields_chooseMode connector name refresh).bind ?_
      rintro _ rfl
      cases picked : Mode.pick connector.modes name refresh with
      | none => exact yields_pure (.modeless driven (Mode.pick_eq_none_iff.mp picked))
      | some mode =>
        have listed := Mode.pick_mem picked
        refine (yields_findCrtc answers resources.crtcs connector).bind ?_
        rintro _ rfl
        cases chosen : inventory.choice? resources.crtcs connector with
        | none => exact yields_pure (.undriven driven (List.ne_nil_of_mem listed) chosen)
        | some choice =>
          refine (yields_findPlane answers choice.crtc choice.index).bind ?_
          rintro _ (⟨plane, rfl, offered⟩ | ⟨rfl, none⟩)
          · exact yields_after fun _ => yields_pure (.selected driven listed chosen offered)
          · exact yields_pure (.unshown driven (List.ne_nil_of_mem listed) chosen none)

end Searches

theorem CrtcMask.allows_inWord {mask : CrtcMask} {index : Nat} (h : mask.allows index = true) :
    index < 32 := by
  unfold allows at h
  exact of_decide_eq_true (Bool.and_eq_true_iff.mp h).1

namespace Inventory

variable {inventory : Inventory} {resources : Resources} {crtcs : List CrtcId}
  {connector : Connector} {choice : CrtcChoice}

theorem Drives.listed (h : inventory.Drives crtcs connector choice) :
    crtcs[choice.index]? = some choice.crtc := by
  rcases h with bound | ⟨-, ⟨_, _, _, _, _, _, _, lowest, _⟩⟩
  · obtain ⟨inList, same, -⟩ := List.idxOf?_eq_some_iff.mp bound.listed
    exact List.getElem?_eq_some_iff.mpr ⟨inList, same⟩
  · exact lowest.listed

/-- The encoder that is recorded can drive the CRTC, also where it was driven already. -/
theorem Drives.routed (h : inventory.Drives crtcs connector choice)
    (honest : inventory.Honest crtcs) : ∃ handle encoder, choice.encoder = some handle ∧
      inventory.encoder handle = .ok encoder ∧ encoder.possible.allows choice.index = true := by
  rcases h with ⟨⟨handle, encoder, -, recorded, queried, bound⟩, listed⟩ |
    ⟨-, ⟨_, handle, _, encoder, _, recorded, queried, lowest, _⟩⟩
  · exact ⟨handle, encoder, recorded, queried, honest _ _ _ _ queried bound listed⟩
  · exact ⟨handle, encoder, recorded, queried, lowest.allowed⟩

theorem Outcome.selected_realizes {topology : Topology}
    (h : inventory.Outcome (.ok topology)) : ∃ resources connector,
      inventory.Displays resources connector ∧
        inventory.Realizes resources connector topology := by
  cases h with
  | @selected resources connector choice mode plane driven picked chosen offered =>
    have drives := choice?_eq_some_iff.mp chosen
    obtain ⟨_, _, allowed⟩ := offered.fits
    refine ⟨resources, connector, driven?_eq_some_iff.mp driven, ?_⟩
    exact ⟨rfl, rfl, picked, drives, drives.listed, CrtcMask.allows_inWord allowed, offered,
      drives.routed⟩

theorem Outcome.selection {result : Except DisplayError Topology}
    (h : inventory.Outcome result) : inventory.Selection result := by
  -- The searches decide each stage, and so which of the outcomes it is.
  refine ⟨?_, ?_, ?_, ?_, ?_, fun topology same => (same ▸ h).selected_realizes⟩
  · rw [← driven?_eq_none_iff]
    cases h <;> simp_all
  · intro handle
    simp only [← driven?_eq_some_iff]
    cases h <;> grind
  · intro handle
    simp only [← driven?_eq_some_iff, ← choice?_eq_none_iff]
    cases h <;> grind
  · intro crtc index
    constructor
    · rintro rfl
      cases h with
      | unshown driven moded chosen none =>
        exact ⟨_, _, _, driven?_eq_some_iff.mp driven, moded, choice?_eq_some_iff.mp chosen, none⟩
    · rintro ⟨resources, connector, encoder, displays, moded, drives, none⟩
      have driven := driven?_eq_some_iff.mpr displays
      have chosen := choice?_eq_some_iff.mpr drives
      cases h <;> grind
  · intro e same
    cases h <;> grind

end Inventory

/-- Of a device that answers by an inventory, the output chosen is the one to choose. Choosing fails
exactly where there is nothing to choose. -/
theorem output_chosen {σ : Type} [World σ] {device : Device σ} {inventory : Inventory}
    (answers : device.Answers inventory) (name : Option String) (refresh : UInt32) (world : σ) :
    inventory.Selection (selectOutput device name refresh world).1 :=
  (yields_selectOutput answers name refresh world).selection

/-- What a device answers in a world. -/
def Device.inventoryIn {σ : Type} (device : Device σ) (world : σ) : Inventory where
  resources := (device.resources world).1
  connector handle := (device.connector handle world).1
  encoder handle := (device.encoder handle world).1
  planes := (device.planes world).1
  plane handle := (device.plane handle world).1

theorem MemoryDisplay.answers (d : MemoryDisplay) (world : Memory) :
    d.device.Answers (d.device.inventoryIn world) where
  resources _ := rfl
  connector _ _ := rfl
  encoder _ _ := rfl
  planes _ := rfl
  plane _ _ := rfl

/-- A display in memory whose encoder is bound to a CRTC that is not listed. -/
def MemoryDisplay.boundElsewhere : MemoryDisplay :=
  singleOutput.withCurrentCrtc ⟨99⟩

/-- In memory, an encoder that is bound to a CRTC that is not listed gets the one it can drive. -/
theorem output_chosen_in_memory :
    (MemoryDisplay.boundElsewhere.device.inventoryIn (Memory.fresh 0)).Selection
        (selectOutput MemoryDisplay.boundElsewhere.device none 0 (Memory.fresh 0)).1 ∧
      (selectOutput MemoryDisplay.boundElsewhere.device none 0 (Memory.fresh 0)).1.toOption.map
        (fun topology => (topology.crtc, topology.crtcIndex, topology.plane)) =
          some (MemoryDisplay.secondCrtc, 1, ⟨42⟩) := by
  refine ⟨?_, by decide +kernel⟩
  exact output_chosen (MemoryDisplay.boundElsewhere.answers _) none 0 (Memory.fresh 0)

end Scanout
