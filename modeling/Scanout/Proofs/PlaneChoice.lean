import Mathlib.Logic.ExistsUnique
import Scanout.Output
import Scanout.Proofs.TableReads

namespace Scanout

/-- The calls in which the properties of an object are asked for, as far as their list is had. -/
def listingCalls (object : DisplayObject) : Except CallError (List PropertyRead) → List Exchange
  | .error cause => [.propertiesRead object (.error cause)]
  | .ok reads => readingCalls object reads

/-- That the first property called `type` says that a plane is a primary one. -/
def SaysPrimary (listing : Except CallError (List PropertyRead)) : Prop :=
  ∃ reads read, listing = .ok reads ∧ FirstWith (fun read => read.answer = .ok "type") reads read ∧
    read.value = primaryPlaneType

/-- A look at one plane: what came of asking for it, and of asking for its properties if that was
done. -/
structure PlaneLook where
  handle : PlaneId
  answer : Except CallError Plane
  listing : Option (Except CallError (List PropertyRead))

namespace PlaneLook

def calls (look : PlaneLook) : List Exchange :=
  .planeRead look.handle look.answer ::
    look.listing.elim [] (listingCalls (.plane look.handle))

/-- That a plane can be had, and has the bit of the CRTC at `index`. -/
def Fits (index : Nat) (look : PlaneLook) : Prop :=
  ∃ plane, look.answer = .ok plane ∧ index < 32 ∧ plane.possible.bits.toNat.testBit index

def Primary (index : Nat) (look : PlaneLook) : Prop :=
  look.Fits index ∧ ∃ listing, look.listing = some listing ∧ SaysPrimary listing

theorem fits_iff {index : Nat} {handle : PlaneId} {plane : Plane}
    {listing : Option (Except CallError (List PropertyRead))} :
    Fits index ⟨handle, .ok plane, listing⟩ ↔ plane.possible.allows index = true := by
  simp [Fits, CrtcMask.allows]

end PlaneLook

open PlaneLook (Fits Primary)

/-- A scan of planes: they are looked at in turn until one is primary, and of those that fit the
first is the candidate. -/
inductive ScanRecord (index : Nat) :
    Option PlaneId → List PlaneId → Option PlaneId → List PlaneLook → Prop
  | done (candidate : Option PlaneId) : ScanRecord index candidate [] candidate []
  | unfit {candidate result : Option PlaneId} {rest : List PlaneId} {looks : List PlaneLook}
      (look : PlaneLook) : ¬look.Fits index → look.listing = none →
      ScanRecord index candidate rest result looks →
      ScanRecord index candidate (look.handle :: rest) result (look :: looks)
  | secondary {candidate result : Option PlaneId} {rest : List PlaneId} {looks : List PlaneLook}
      (look : PlaneLook) : look.Fits index → look.listing.isSome → ¬look.Primary index →
      ScanRecord index (some (candidate.getD look.handle)) rest result looks →
      ScanRecord index candidate (look.handle :: rest) result (look :: looks)
  | primary (candidate : Option PlaneId) (rest : List PlaneId) (look : PlaneLook) :
      look.Primary index →
      ScanRecord index candidate (look.handle :: rest) (some look.handle) [look]

section Recording

variable {σ : Type} [World σ] (device : Device σ)

theorem records_isPrimary (plane : PlaneId) :
    Records (isPrimary device.recorded plane) (isPrimary device plane)
      (fun primary added => ∃ listing, added = listingCalls (.plane plane) listing ∧
        (primary = true ↔ SaysPrimary listing)) := by
  refine records_bind (records_loadTable device (.plane plane)) ?_
  intro table added loaded
  cases loaded with
  | unlisted cause =>
    refine records_then (records_note _) fun _ => records_pure ?_
    exact ⟨.error cause, rfl, by simp [SaysPrimary]⟩
  | read reads =>
    refine records_pure ⟨.ok reads, by simp [listingCalls], ?_⟩
    simp [SaysPrimary, PropertyTable.value_ofReads_eq_some_iff]

theorem records_scanPlanes (index : Nat) (candidate : Option PlaneId) (planes : List PlaneId) :
    Records (scanPlanes device.recorded index candidate planes)
      (scanPlanes device index candidate planes)
      (fun result added => ∃ looks : List PlaneLook, added = looks.flatMap PlaneLook.calls ∧
        ScanRecord index candidate planes result looks) := by
  induction planes generalizing candidate with
  | nil => exact records_pure ⟨[], rfl, .done candidate⟩
  | cons handle rest ih =>
    refine records_then (records_watch _ _) ?_
    intro answer
    cases answer with
    | error cause =>
      refine records_then (records_note _) fun _ => (ih candidate).mono ?_
      rintro result _ ⟨looks, rfl, scanned⟩
      have unfit : ¬Fits index ⟨handle, .error cause, none⟩ := by simp [Fits]
      exact ⟨_ :: looks, by simp [PlaneLook.calls], .unfit _ unfit rfl scanned⟩
    | ok plane =>
      cases allowed : plane.possible.allows index with
      | false =>
        simp only [allowed, Bool.false_eq_true, ↓reduceIte]
        refine (ih candidate).mono ?_
        rintro result _ ⟨looks, rfl, scanned⟩
        have unfit : ¬Fits index ⟨handle, .ok plane, none⟩ := by
          simp [PlaneLook.fits_iff, allowed]
        exact ⟨_ :: looks, by simp [PlaneLook.calls], .unfit _ unfit rfl scanned⟩
      | true =>
        simp only [allowed, ↓reduceIte]
        refine records_bind (records_isPrimary device handle) ?_
        rintro primary _ ⟨listing, rfl, said⟩
        have fits : Fits index ⟨handle, .ok plane, some listing⟩ :=
          PlaneLook.fits_iff.mpr allowed
        have shown : Primary index ⟨handle, .ok plane, some listing⟩ ↔ primary = true := by
          simp [Primary, fits, said]
        cases primary with
        | true =>
          refine records_pure ⟨[⟨handle, .ok plane, some listing⟩], by simp [PlaneLook.calls], ?_⟩
          exact .primary candidate rest _ (shown.mpr rfl)
        | false =>
          refine (ih (some (candidate.getD handle))).mono ?_
          rintro result _ ⟨looks, rfl, scanned⟩
          refine ⟨⟨handle, .ok plane, some listing⟩ :: looks, by simp [PlaneLook.calls], ?_⟩
          exact .secondary _ fits rfl (by simp [shown]) scanned

end Recording

namespace ScanRecord

variable {index : Nat} {candidate result : Option PlaneId} {planes : List PlaneId}
  {looks : List PlaneLook}

/-- The planes are looked at in their order. -/
theorem in_order (h : ScanRecord index candidate planes result looks) :
    looks.map (·.handle) <+: planes := by
  induction h with
  | done => simp
  | unfit look _ _ _ ih => simpa using ih
  | secondary look _ _ _ _ ih => simpa using ih
  | primary => simp

/-- Only a primary plane ends a scan early. -/
theorem complete (h : ScanRecord index candidate planes result looks)
    (none : ∀ look ∈ looks, ¬look.Primary index) : looks.map (·.handle) = planes := by
  induction h with
  | done => rfl
  | unfit look _ _ _ ih => simpa using ih (List.forall_mem_cons.mp none).2
  | secondary look _ _ _ _ ih => simpa using ih (List.forall_mem_cons.mp none).2
  | primary _ _ look primary => exact absurd primary (none look (by simp))

/-- The properties of a plane are asked for if it fits, and only then. -/
theorem asked (h : ScanRecord index candidate planes result looks) :
    ∀ look ∈ looks, look.listing.isSome ↔ look.Fits index := by
  induction h with
  | done => simp
  | unfit look unfit unasked _ ih => simpa [unfit, unasked] using ih
  | secondary look fits asked _ _ ih => simpa [fits, asked] using ih
  | primary _ _ look primary =>
    obtain ⟨fits, listing, asked, -⟩ := primary
    simp [fits, asked]

theorem primary_found (h : ScanRecord index candidate planes result looks) {look : PlaneLook}
    (first : FirstWith (Primary index) looks look) : result = some look.handle := by
  induction h with
  | done => simpa using first.mem
  | unfit other unfit _ _ ih =>
    rcases firstWith_cons_iff.mp first with ⟨primary, -⟩ | ⟨-, later⟩
    · exact absurd primary.1 unfit
    · exact ih later
  | secondary other _ _ secondary _ ih =>
    rcases firstWith_cons_iff.mp first with ⟨primary, -⟩ | ⟨-, later⟩
    · exact absurd primary secondary
    · exact ih later
  | primary _ _ only primary =>
    obtain rfl : look = only := by simpa using first.mem
    rfl

/-- A candidate is kept unless a primary plane turns up. -/
theorem candidate_kept (h : ScanRecord index candidate planes result looks)
    (none : ∀ look ∈ looks, ¬look.Primary index) {kept : PlaneId} (given : candidate = some kept) :
    result = some kept := by
  induction h with
  | done => exact given
  | unfit look _ _ _ ih => exact ih (List.forall_mem_cons.mp none).2 given
  | secondary look _ _ _ _ ih =>
    exact ih (List.forall_mem_cons.mp none).2 (by simp [given])
  | primary _ _ look primary => exact absurd primary (none look (by simp))

theorem fit_found (h : ScanRecord index none planes result looks)
    (none : ∀ look ∈ looks, ¬look.Primary index) {look : PlaneLook}
    (first : FirstWith (Fits index) looks look) : result = some look.handle := by
  generalize start : Option.none = candidate at h
  induction h with
  | done => simpa using first.mem
  | unfit other unfit _ _ ih =>
    rcases firstWith_cons_iff.mp first with ⟨fits, -⟩ | ⟨-, later⟩
    · exact absurd fits unfit
    · exact ih (List.forall_mem_cons.mp none).2 later start
  | secondary other fits _ _ scanned _ =>
    rcases firstWith_cons_iff.mp first with ⟨-, rfl⟩ | ⟨unfit, -⟩
    · exact scanned.candidate_kept (List.forall_mem_cons.mp none).2 (by simp [← start])
    · exact absurd fits unfit
  | primary _ _ other primary => exact absurd primary (none other (by simp))

theorem none_iff (h : ScanRecord index candidate planes result looks) :
    result = none ↔ candidate = none ∧ ∀ look ∈ looks, ¬look.Fits index := by
  induction h with
  | done => simp
  | unfit look unfit _ _ ih => simp [ih, unfit]
  | secondary look fits _ _ _ ih => simp [ih, fits]
  | primary _ _ look primary => simp [primary.1]

end ScanRecord

/-- What a search for a plane learns: the list of planes, and what each look at one comes to. -/
structure PlaneSurvey where
  planes : Except CallError (List PlaneId)
  looks : List PlaneLook

namespace PlaneSurvey

def calls (survey : PlaneSurvey) : List Exchange :=
  .planesRead survey.planes :: survey.looks.flatMap PlaneLook.calls

/-- How a survey decides on the plane for the CRTC at `index`. -/
structure Decides (survey : PlaneSurvey) (crtc : CrtcId) (index : Nat)
    (result : Except DisplayError PlaneId) : Prop where
  unlisted : ∀ cause, survey.planes = .error cause → survey.looks = []
  inOrder : ∀ planes, survey.planes = .ok planes → survey.looks.map (·.handle) <+: planes
  /-- Only a primary plane makes it needless to look at the others. -/
  complete : ∀ planes, survey.planes = .ok planes →
    (∀ look ∈ survey.looks, ¬look.Primary index) → survey.looks.map (·.handle) = planes
  asked : ∀ look ∈ survey.looks, look.listing.isSome ↔ look.Fits index
  primary : ∀ look, FirstWith (Primary index) survey.looks look → result = .ok look.handle
  /-- Without a primary plane it is the first that fits, whatever its properties say. -/
  fallback : (∀ look ∈ survey.looks, ¬look.Primary index) →
    ∀ look, FirstWith (Fits index) survey.looks look → result = .ok look.handle
  none : ∀ e, result = .error e ↔ e = .noSuitablePlane crtc index ∧
    ((∃ cause, survey.planes = .error cause) ∨ ∀ look ∈ survey.looks, ¬look.Fits index)

section Told

theorem reads_inj {reads others : List PropertyRead}
    (listed : reads.map (fun read => (read.handle, read.value)) =
      others.map fun read => (read.handle, read.value))
    (named : reads.map (fun read => Exchange.nameRead read.handle read.answer) =
      others.map fun read => .nameRead read.handle read.answer) : reads = others := by
  induction reads generalizing others with
  | nil =>
    cases others with
    | nil => rfl
    | cons other others => simp at listed
  | cons read rest ih =>
    cases others with
    | nil => simp at listed
    | cons other others =>
      obtain ⟨⟨_, _⟩, listed⟩ := by simpa using listed
      obtain ⟨⟨_, _⟩, named⟩ := by simpa using named
      have later := ih listed named
      cases read
      cases other
      simp_all

theorem looks_begin {looks : List PlaneLook} {e : Exchange} {later : List Exchange}
    (h : looks.flatMap PlaneLook.calls = e :: later) :
    ∃ handle answer, e = .planeRead handle answer := by
  cases looks with
  | nil => simp at h
  | cons look rest =>
    simp only [List.flatMap_cons, PlaneLook.calls, List.cons_append, List.cons.injEq] at h
    exact ⟨_, _, h.1.symm⟩

theorem listingCalls_inj {object : DisplayObject}
    {listing other : Except CallError (List PropertyRead)} {later rest : List Exchange}
    (same : listingCalls object listing ++ later = listingCalls object other ++ rest) :
    listing = other ∧ later = rest := by
  cases listing with
  | error cause =>
    cases other with
    | error other => simpa [listingCalls] using same
    | ok others => simp [listingCalls, readingCalls] at same
  | ok reads =>
    cases other with
    | error other => simp [listingCalls, readingCalls] at same
    | ok others =>
      simp only [listingCalls, readingCalls, List.cons_append, List.cons.injEq,
        Exchange.propertiesRead.injEq, Except.ok.injEq, true_and] at same
      obtain ⟨listed, same⟩ := same
      have length := congrArg List.length listed
      obtain ⟨named, later⟩ := List.append_inj same (by simpa using length)
      exact ⟨by rw [reads_inj listed named], later⟩

/-- What follows a look tells whether the properties were asked for: the next look begins with
another call. -/
theorem listing_inj {object : DisplayObject}
    {listing other : Option (Except CallError (List PropertyRead))} {looks others : List PlaneLook}
    (same : listing.elim [] (listingCalls object) ++ looks.flatMap PlaneLook.calls =
      other.elim [] (listingCalls object) ++ others.flatMap PlaneLook.calls) :
    listing = other ∧ looks.flatMap PlaneLook.calls = others.flatMap PlaneLook.calls := by
  have apart {l : Except CallError (List PropertyRead)} {later : List Exchange}
      {looks : List PlaneLook} :
      looks.flatMap PlaneLook.calls ≠ listingCalls object l ++ later := by
    intro h
    cases l <;> simpa using looks_begin h
  cases listing with
  | none =>
    cases other with
    | none => exact ⟨rfl, same⟩
    | some other => exact absurd same apart
  | some listing =>
    cases other with
    | none => exact absurd same.symm apart
    | some other =>
      obtain ⟨rfl, later⟩ := listingCalls_inj same
      exact ⟨rfl, later⟩

theorem looks_inj {looks others : List PlaneLook}
    (same : looks.flatMap PlaneLook.calls = others.flatMap PlaneLook.calls) : looks = others := by
  induction looks generalizing others with
  | nil =>
    cases others with
    | nil => rfl
    | cons other rest => simp [PlaneLook.calls] at same
  | cons look rest ih =>
    cases others with
    | nil => simp [PlaneLook.calls] at same
    | cons other others =>
      obtain ⟨handle, answer, listing⟩ := look
      obtain ⟨handle', answer', listing'⟩ := other
      simp only [List.flatMap_cons, PlaneLook.calls, List.cons_append, List.cons.injEq,
        Exchange.planeRead.injEq] at same
      obtain ⟨⟨rfl, rfl⟩, same⟩ := same
      obtain ⟨rfl, later⟩ := listing_inj same
      rw [ih later]

/-- The calls of a survey tell all that it learns. -/
theorem calls_injective : Function.Injective calls := by
  rintro ⟨planes, looks⟩ ⟨others, otherLooks⟩ same
  simp only [calls, List.cons.injEq, Exchange.planesRead.injEq] at same
  rw [same.1, looks_inj same.2]

end Told

section Deciding

variable (crtc : CrtcId) {index : Nat}

theorem decides_unlisted (cause : CallError) :
    Decides ⟨.error cause, []⟩ crtc index (.error (.noSuitablePlane crtc index)) where
  unlisted _ _ := rfl
  inOrder := by simp
  complete := by simp
  asked := by simp
  primary look first := by simpa using first.mem
  fallback _ look first := by simpa using first.mem
  none e := by simp [eq_comm]

theorem decides_scanned {planes : List PlaneId} {result : Option PlaneId} {looks : List PlaneLook}
    (h : ScanRecord index none planes result looks) :
    Decides ⟨.ok planes, looks⟩ crtc index
      (result.elim (.error (.noSuitablePlane crtc index)) .ok) where
  unlisted := by simp
  inOrder := by
    rintro _ ⟨⟩
    exact h.in_order
  complete := by
    rintro _ ⟨⟩
    exact h.complete
  asked := h.asked
  primary look first := by rw [h.primary_found first]; rfl
  fallback secondary look first := by rw [h.fit_found secondary first]; rfl
  none e := by
    have failing : result = none ↔ ∀ look ∈ looks, ¬look.Fits index := by simpa using h.none_iff
    cases result with
    | none =>
      have unfit := failing.mp rfl
      simpa [eq_comm] using fun _ => unfit
    | some plane =>
      simp only [Option.elim_some, reduceCtorEq, false_iff]
      rintro ⟨-, ⟨cause, failed⟩ | unfit⟩
      · simp at failed
      · simpa using failing.mpr unfit

end Deciding

end PlaneSurvey

section Choice

variable {σ : Type} [World σ] (device : Device σ)

theorem records_findPlane (crtc : CrtcId) (index : Nat) :
    Records (findPlane device.recorded crtc index) (findPlane device crtc index)
      (fun result added => ∃ survey : PlaneSurvey, survey.calls = added ∧
        survey.Decides crtc index result) := by
  refine records_then (records_watch _ _) ?_
  intro answer
  cases answer with
  | error cause =>
    refine records_then (records_note _) fun _ => records_pure ?_
    exact ⟨⟨.error cause, []⟩, rfl, PlaneSurvey.decides_unlisted crtc cause⟩
  | ok planes =>
    refine records_bind (records_scanPlanes device index none planes) ?_
    rintro result _ ⟨looks, rfl, scanned⟩
    have decides := PlaneSurvey.decides_scanned crtc scanned
    cases result with
    | none => exact records_pure ⟨⟨.ok planes, looks⟩, by simp [PlaneSurvey.calls], decides⟩
    | some plane => exact records_pure ⟨⟨.ok planes, looks⟩, by simp [PlaneSurvey.calls], decides⟩

/-- A search for a plane in a world in which every call to the device is written down. -/
def recordFindPlane (crtc : CrtcId) (index : Nat) (world : σ) :
    Except DisplayError PlaneId × Recorded σ :=
  findPlane device.recorded crtc index ⟨world, []⟩

theorem recordFindPlane_eq_findPlane (crtc : CrtcId) (index : Nat) (world : σ) :
    ((recordFindPlane device crtc index world).1,
      (recordFindPlane device crtc index world).2.world) = findPlane device crtc index world :=
  ((records_findPlane device crtc index).fresh world).1

/-- The plane for a CRTC is decided by what the device answers, and by nothing else. -/
theorem plane_chosen (crtc : CrtcId) (index : Nat) (world : σ) :
    ∃! survey : PlaneSurvey,
      survey.calls = (recordFindPlane device crtc index world).2.transcript ∧
        survey.Decides crtc index (findPlane device crtc index world).1 := by
  rw [← recordFindPlane_eq_findPlane]
  obtain ⟨survey, told, decides⟩ := ((records_findPlane device crtc index).fresh world).2
  refine ⟨survey, ⟨told, decides⟩, ?_⟩
  intro other same
  exact PlaneSurvey.calls_injective (same.1.trans told.symm)

end Choice

end Scanout
