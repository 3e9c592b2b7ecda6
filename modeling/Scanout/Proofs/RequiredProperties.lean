import Scanout.Proofs.TransactionShape

namespace Scanout

/-- The error of what fails. -/
def errorOf {ε α : Type} : Except ε α → Option ε
  | .ok _ => none
  | .error e => some e

theorem errorOf_bind {ε α β : Type} {x : Except ε α} {next : α → Except ε β} {failure : Option ε}
    (h : ∀ a, errorOf (next a) = failure) :
    errorOf (x >>= next) = (errorOf x).or failure := by
  cases x with
  | error e => rfl
  | ok a => exact h a

theorem errorOf_eq_some {ε α : Type} {x : Except ε α} {e : ε} :
    errorOf x = some e ↔ x = .error e := by
  cases x <;> simp [errorOf]

/-- What is reported of a table that does not have all properties of some names: the first one it
lacks. -/
def PropertyTable.missing? (table : PropertyTable) (names : List String) : Option DisplayError :=
  names.findSome? fun name => errorOf (table.require name)

theorem PropertyTable.missing?_named {table : PropertyTable} {names : List String}
    {e : DisplayError} (h : table.missing? names = some e) :
    ∃ object name, e = .missingProperty object name := by
  obtain ⟨name, -, he⟩ := List.exists_of_findSome?_eq_some h
  have failed : table.require name = .error e := errorOf_eq_some.mp he
  unfold require at failed
  split at failed
  next => cases failed
  next => exact ⟨table.object, name, (Except.error.inj failed).symm⟩

namespace Transaction

/-- The names of what every frame sets on the plane. -/
def planeNames : List String :=
  ["FB_ID", "CRTC_ID", "SRC_X", "SRC_Y", "SRC_W", "SRC_H", "CRTC_X", "CRTC_Y", "CRTC_W", "CRTC_H"]

theorem planeValues_names (topology : Topology) (framebuffer : FramebufferId) :
    (planeValues topology framebuffer).map Prod.fst = planeNames :=
  rfl

theorem errorOf_set (txn : Transaction) (table : PropertyTable) (name : String)
    (value : PropertyValue) :
    errorOf (txn.set table name value) = errorOf (table.require name) := by
  unfold set
  cases table.require name <;> rfl

theorem errorOf_setAll (txn : Transaction) (table : PropertyTable)
    (values : List (String × PropertyValue)) :
    errorOf (txn.setAll table values) = table.missing? (values.map Prod.fst) := by
  induction values generalizing txn with
  | nil => rfl
  | cons named rest ih =>
    have first := errorOf_bind (x := txn.set table named.1 named.2) fun between => ih between
    rw [errorOf_set] at first
    unfold setAll PropertyTable.missing?
    rw [first, List.map_cons, List.findSome?_cons]
    cases errorOf (table.require named.1) <;> rfl

end Transaction

namespace PropertyCache

/-- What is reported of an output whose objects lack a property that a frame needs. Those of a
modeset come before those of the plane. -/
def missing? (tables : PropertyCache) (modeset : Bool) : Option DisplayError :=
  let unset :=
    (tables.connector.missing? ["CRTC_ID"]).or (tables.crtc.missing? ["MODE_ID", "ACTIVE"])
  (if modeset then unset else none).or (tables.plane.missing? Transaction.planeNames)

theorem missing?_named {tables : PropertyCache} {modeset : Bool} {e : DisplayError}
    (h : tables.missing? modeset = some e) : ∃ object name, e = .missingProperty object name := by
  obtain hm | ⟨-, hp⟩ := Option.or_eq_some_iff.mp h
  · split at hm
    · obtain hc | ⟨-, hc⟩ := Option.or_eq_some_iff.mp hm
      · exact PropertyTable.missing?_named hc
      · exact PropertyTable.missing?_named hc
    · cases hm
  · exact PropertyTable.missing?_named hp

/-- What is there for a modeset is there for a mere flip. -/
theorem missing?_flip {tables : PropertyCache} {modeset : Bool}
    (h : tables.missing? modeset = none) : tables.missing? false = none :=
  (Option.or_eq_none_iff.mp h).2

end PropertyCache

namespace Transaction

variable (topology : Topology) (tables : PropertyCache)

theorem errorOf_setMode (txn : Transaction) (crtc : CrtcId) (blob : UInt64) :
    errorOf (txn.setMode crtc tables blob) =
      (tables.connector.missing? ["CRTC_ID"]).or (tables.crtc.missing? ["MODE_ID", "ACTIVE"]) := by
  have bound := errorOf_setAll txn tables.connector [("CRTC_ID", .number crtc.id.toUInt64)]
  have driven (between : Transaction) :=
    errorOf_setAll between tables.crtc [("MODE_ID", .number blob), ("ACTIVE", .number 1)]
  simp only [setAll, bind_ok_id] at bound driven
  unfold setMode
  rw [errorOf_bind driven, bound]
  rfl

/-- Whether a frame's transaction can be built depends on what the objects have, and on whether the
mode is set, not on what the frame consists of. -/
theorem errorOf_build (content : FrameContent) :
    errorOf (build topology tables content) = tables.missing? content.modeBlob.isSome := by
  have planed (txn : Transaction) :
      errorOf (txn.setPlane topology tables.plane content.framebuffer >>=
        fun planed => .ok (planed.setFences topology tables content)) =
      tables.plane.missing? planeNames := by
    have fenced (planed : Transaction) :
        errorOf (ε := DisplayError) (.ok (planed.setFences topology tables content)) = none := rfl
    rw [errorOf_bind fenced, setPlane_eq_setAll, errorOf_setAll, planeValues_names, Option.or_none]
  unfold build PropertyCache.missing?
  cases content.modeBlob with
  | none => exact planed _
  | some blob =>
    let titled := (empty (frameFlags (some blob))).setMode topology.crtc tables blob
    have moded := errorOf_bind (x := titled) planed
    rw [errorOf_setMode] at moded
    exact moded

end Transaction

end Scanout
