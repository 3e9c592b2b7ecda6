import Scanout.Proofs.SelectionWalk
import Scanout.Proofs.TableReads

namespace Scanout

variable {σ α β : Type}

/-- The calls that belong to setting a display path up. -/
def Exchange.isSetUp : Exchange → Bool
  | enabled _ _ | resourcesRead _ | connectorRead _ _ | encoderRead _ _ | planesRead _
  | planeRead _ _ | propertiesRead _ _ | nameRead _ _ | allocated _ _ _ | surfaceCreated _ _ _
  | freed _ => true
  | _ => false

/-- That an act makes only calls of setting up, and that `P` holds of its result. -/
def SetsUp (act : Act (Recorded σ) α) (plain : Act σ α) (P : α → Prop) : Prop :=
  Records act plain fun a added => (∀ e ∈ added, e.isSetUp) ∧ P a

theorem Exchange.isSetUp_of_isQuery {e : Exchange} (h : e.isQuery) : e.isSetUp := by
  cases e <;> simp_all [isQuery, isSetUp]

/-- That an act only asks what a device has, and that `P` holds of its result. -/
def Asks (act : Act (Recorded σ) α) (plain : Act σ α) (P : α → Prop) : Prop :=
  Records act plain fun a added => (∀ e ∈ added, e.isQuery) ∧ P a

/-- That an act only asks, and fails with nothing but what choosing an output can fail with. -/
def Selects (act : Act (Recorded σ) (Except DisplayError α))
    (plain : Act σ (Except DisplayError α)) : Prop :=
  Asks act plain fun result => ∀ e, result = .error e → e.ofSelection

theorem asks_pure {a : α} {P : α → Prop} (h : P a) : Asks (σ := σ) (pure a) (pure a) P :=
  records_pure ⟨by simp, h⟩

theorem asks_bind {act : Act (Recorded σ) α} {plain : Act σ α}
    {next : α → Act (Recorded σ) β} {plainNext : α → Act σ β} {P : α → Prop} {S : β → Prop}
    (h : Asks act plain P) (hn : ∀ a, P a → Asks (next a) (plainNext a) S) :
    Asks (act >>= next) (plain >>= plainNext) S := by
  refine records_bind h ?_
  intro a added ha
  obtain ⟨quiet, ha⟩ := ha
  refine (hn a ha).mono ?_
  intro b later hb
  obtain ⟨quietLater, hb⟩ := hb
  refine ⟨?_, hb⟩
  intro e he
  rcases List.mem_append.mp he with he | he
  · exact quiet e he
  · exact quietLater e he

theorem asks_watch (exchange : α → Exchange) (h : ∀ a, (exchange a).isQuery) (act : Act σ α) :
    Asks (Recorded.watch exchange act) act (fun _ => True) := by
  refine (records_watch exchange act).mono ?_
  intro a added ha
  subst ha
  exact ⟨by simpa using h a, trivial⟩

variable [World σ]

theorem asks_note (n : Note) : Asks (σ := σ) (note n) (note n) (fun _ => True) := by
  refine (records_note n).mono ?_
  rintro _ _ rfl
  exact ⟨by simp, trivial⟩

/-- To only ask is a judgment step by step. -/
def asking : Judgment (Recorded σ) σ where
  Holds := Asks
  pure := asks_pure
  bind := asks_bind
  note := asks_note

theorem asking_covers (device : Device σ) : asking.Covers device.recorded device where
  connector _ := asks_watch _ (fun _ => rfl) _
  encoder _ := asks_watch _ (fun _ => rfl) _
  planes := asks_watch _ (fun _ => rfl) _
  plane _ := asks_watch _ (fun _ => rfl) _
  properties _ := asks_watch _ (fun _ => rfl) _
  propertyName _ := asks_watch _ (fun _ => rfl) _

theorem selects_selectOutput (device : Device σ) (mode : Option String) (refresh : UInt32) :
    Selects (selectOutput device.recorded mode refresh) (selectOutput device mode refresh) := by
  rw [selectOutput_eq_selectAmong, selectOutput_eq_selectAmong]
  refine asks_bind (asks_watch _ (fun _ => rfl) _) fun resources _ => ?_
  have asks : Asks _ _ _ := (asking_covers device).selectAmong mode refresh resources
  refine Records.mono asks ?_
  rintro _ added ⟨queries, result⟩
  refine ⟨queries, ?_⟩
  rintro e rfl
  exact result

/-- That the tables are those of the objects of a display path. -/
structure PropertyCache.Describes (tables : PropertyCache) (topology : Topology) : Prop where
  connector : tables.connector.object = .connector topology.connector
  crtc : tables.crtc.object = .crtc topology.crtc
  plane : tables.plane.object = .plane topology.plane

end Scanout
