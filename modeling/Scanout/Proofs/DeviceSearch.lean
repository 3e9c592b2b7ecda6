import Scanout.Discovery

namespace Scanout

/-- One call in the search for a device, with its answer. -/
inductive Probe (δ : Type)
  | enumerated (answer : Except CallError (List DeviceCandidate))
  | opened (path : String) (answer : Except CallError δ)
  | queried (device : δ) (answer : Except CallError Resources)
  | closed (device : δ)

/-- A world with every call of a search for a device so far. -/
structure Probed (σ δ : Type) where
  world : σ
  probes : List (Probe δ)

namespace Probed

variable {σ δ α β : Type}

instance [World σ] : World (Probed σ δ) where
  record n r := { r with world := World.record n r.world }
  now r := ((World.now r.world).1, { r with world := (World.now r.world).2 })
  close fence r := { r with world := World.close fence r.world }

/-- Makes a call and writes it down with its answer. -/
def watch (probe : α → Probe δ) (act : Act σ α) : Act (Probed σ δ) α :=
  fun r => ((act r.world).1, ⟨(act r.world).2, r.probes ++ [probe (act r.world).1]⟩)

end Probed

/-- An opener of devices whose calls are written down. -/
def DeviceOpener.probed {σ δ : Type} (opener : DeviceOpener σ δ) :
    DeviceOpener (Probed σ δ) δ where
  candidates := Probed.watch .enumerated opener.candidates
  openAt path := Probed.watch (.opened path) (opener.openAt path)
  resources device := Probed.watch (.queried device) (opener.resources device)
  close device := Probed.watch (fun _ => .closed device) (opener.close device)

section Probing

variable {σ δ α β : Type}

/-- That an act does the same whether or not its calls are written down, and that `R` holds of its
result and of what is written. -/
def Probes (act : Act (Probed σ δ) α) (plain : Act σ α) (R : α → List (Probe δ) → Prop) : Prop :=
  ∀ r, ∃ added, act r = ((plain r.world).1, ⟨(plain r.world).2, r.probes ++ added⟩) ∧
    R (plain r.world).1 added

theorem Probes.mono {act : Act (Probed σ δ) α} {plain : Act σ α}
    {R S : α → List (Probe δ) → Prop} (h : Probes act plain R)
    (hs : ∀ a added, R a added → S a added) : Probes act plain S := by
  intro r
  obtain ⟨added, given, hr⟩ := h r
  exact ⟨added, given, hs _ _ hr⟩

theorem probes_pure {a : α} {R : α → List (Probe δ) → Prop} (h : R a []) :
    Probes (σ := σ) (pure a) (pure a) R := by
  intro r
  refine ⟨[], ?_, h⟩
  rw [List.append_nil]
  rfl

theorem probes_bind {act : Act (Probed σ δ) α} {plain : Act σ α}
    {next : α → Act (Probed σ δ) β} {plainNext : α → Act σ β} {R : α → List (Probe δ) → Prop}
    {S : β → List (Probe δ) → Prop} (h : Probes act plain R)
    (hn : ∀ a added, R a added →
      Probes (next a) (plainNext a) (fun b later => S b (added ++ later))) :
    Probes (act >>= next) (plain >>= plainNext) S := by
  intro r
  obtain ⟨added, given, hr⟩ := h r
  obtain ⟨later, goneOn, hs⟩ := hn _ _ hr ⟨(plain r.world).2, r.probes ++ added⟩
  refine ⟨added ++ later, ?_, hs⟩
  change next (act r).1 (act r).2 = _
  rw [given, goneOn, List.append_assoc]
  rfl

/-- A call comes first in what is written. -/
theorem probes_watch {act : Act σ α} (probe : α → Probe δ) {next : α → Act (Probed σ δ) β}
    {plainNext : α → Act σ β} {S : β → List (Probe δ) → Prop}
    (hn : ∀ a, Probes (next a) (plainNext a) (fun b later => S b (probe a :: later))) :
    Probes (Probed.watch probe act >>= next) (act >>= plainNext) S := by
  refine probes_bind (R := fun a added => added = [probe a]) (fun _ => ⟨_, rfl, rfl⟩) ?_
  rintro a _ rfl
  exact hn a

theorem probes_note [World σ] {n : Note} {next : Unit → Act (Probed σ δ) β}
    {plainNext : Unit → Act σ β} {S : β → List (Probe δ) → Prop}
    (hn : Probes (next ()) (plainNext ()) S) :
    Probes (note n >>= next) (note n >>= plainNext) S :=
  fun r => hn ⟨World.record n r.world, r.probes⟩

end Probing

section Search

variable {σ δ : Type} {candidates : List DeviceCandidate} {probes : List (Probe δ)}

/-- That a candidate is passed over, with the calls this takes: it has no primary node, or cannot be
opened, or has no resources and is closed again. -/
inductive Rejected (candidate : DeviceCandidate) : List (Probe δ) → Prop
  | secondary : candidate.hasPrimaryNode = false → Rejected candidate []
  | unopened (cause : CallError) : candidate.hasPrimaryNode = true →
      Rejected candidate [.opened candidate.path (.error cause)]
  | unresourced (device : δ) (cause : CallError) : candidate.hasPrimaryNode = true →
      Rejected candidate [.opened candidate.path (.ok device), .queried device (.error cause),
        .closed device]

/-- That candidates are passed over one after the other. -/
inductive AllRejected : List DeviceCandidate → List (Probe δ) → Prop
  | none : AllRejected [] []
  | more {candidate : DeviceCandidate} {rest : List DeviceCandidate}
      {first later : List (Probe δ)} :
      Rejected candidate first → AllRejected rest later →
      AllRejected (candidate :: rest) (first ++ later)

/-- Opening the device at a path that was given. -/
inductive ExplicitRecord (path : String) : Except DisplayError δ → List (Probe δ) → Prop
  | unopened (cause : CallError) : ExplicitRecord path (.error (.deviceNotModesettable path cause))
      [.opened path (.error cause)]
  | unresourced (device : δ) (cause : CallError) :
      ExplicitRecord path (.error (.deviceNotModesettable path cause))
        [.opened path (.ok device), .queried device (.error cause), .closed device]
  | opened (device : δ) (resources : Resources) : ExplicitRecord path (.ok device)
      [.opened path (.ok device), .queried device (.ok resources)]

/-- Trying a candidate. -/
inductive CandidateRecord (candidate : DeviceCandidate) : Option δ → List (Probe δ) → Prop
  | rejected {probes : List (Probe δ)} : Rejected candidate probes →
      CandidateRecord candidate none probes
  | usable (device : δ) (resources : Resources) : candidate.hasPrimaryNode = true →
      CandidateRecord candidate (some device)
        [.opened candidate.path (.ok device), .queried device (.ok resources)]

/-- Going through candidates as far as the first that is usable. -/
inductive SearchRecord : List DeviceCandidate → Option δ → List (Probe δ) → Prop
  | exhausted {candidates : List DeviceCandidate} {rejecting : List (Probe δ)} :
      AllRejected candidates rejecting → SearchRecord candidates none rejecting
  | found {earlier later : List DeviceCandidate} {candidate : DeviceCandidate}
      {rejecting : List (Probe δ)} (device : δ) (resources : Resources) :
      AllRejected earlier rejecting → candidate.hasPrimaryNode = true →
      SearchRecord (earlier ++ candidate :: later) (some device)
        (rejecting ++ [.opened candidate.path (.ok device), .queried device (.ok resources)])

/-- Resolving a device: the one at a path, or the first usable one of those that are listed. -/
inductive ResolveRecord : Option String → Except DisplayError δ → List (Probe δ) → Prop
  | explicit {path : String} {result : Except DisplayError δ} {probes : List (Probe δ)} :
      ExplicitRecord path result probes → ResolveRecord (some path) result probes
  | unlisted (cause : CallError) :
      ResolveRecord none (.error .noDeviceFound) [.enumerated (.error cause)]
  | exhausted {candidates : List DeviceCandidate} {searching : List (Probe δ)} :
      SearchRecord candidates none searching →
      ResolveRecord none (.error .noDeviceFound) (.enumerated (.ok candidates) :: searching)
  | found {candidates : List DeviceCandidate} {device : δ} {searching : List (Probe δ)} :
      SearchRecord candidates (some device) searching →
      ResolveRecord none (.ok device) (.enumerated (.ok candidates) :: searching)

theorem SearchRecord.after {candidate : DeviceCandidate} {result : Option δ}
    {first : List (Probe δ)} (rejected : Rejected candidate first)
    (h : SearchRecord candidates result probes) :
    SearchRecord (candidate :: candidates) result (first ++ probes) := by
  cases h with
  | exhausted rejecting => exact .exhausted (.more rejected rejecting)
  | @found earlier later chosen rejecting device resources hearlier primary =>
    rw [← List.append_assoc]
    exact .found device resources (.more rejected hearlier) primary

variable [World σ] (opener : DeviceOpener σ δ)

theorem probes_openExplicit (path : String) :
    Probes (opener.probed.openExplicit path) (opener.openExplicit path) (ExplicitRecord path) := by
  refine probes_watch _ ?_
  rintro (cause | device)
  · exact probes_pure (.unopened cause)
  · refine probes_watch _ ?_
    rintro (cause | resources)
    · dsimp only
      split
      · refine probes_note (probes_watch (fun _ => .closed device) fun _ => ?_)
        exact probes_pure (.unresourced device cause)
      · refine probes_watch (fun _ => .closed device) fun _ => ?_
        exact probes_pure (.unresourced device cause)
    · exact probes_note (probes_pure (.opened device resources))

theorem probes_tryCandidate (candidate : DeviceCandidate) :
    Probes (opener.probed.tryCandidate candidate) (opener.tryCandidate candidate)
      (CandidateRecord candidate) := by
  unfold DeviceOpener.tryCandidate
  cases primary : candidate.hasPrimaryNode with
  | false => exact probes_note (probes_pure (.rejected (.secondary primary)))
  | true =>
    refine probes_watch _ ?_
    rintro (cause | device)
    · exact probes_note (probes_pure (.rejected (.unopened cause primary)))
    · refine probes_watch _ ?_
      rintro (cause | resources)
      · refine probes_note (probes_watch (fun _ => .closed device) fun _ => ?_)
        exact probes_pure (.rejected (.unresourced device cause primary))
      · exact probes_note (probes_pure (.usable device resources primary))

theorem probes_firstUsable (candidates : List DeviceCandidate) :
    Probes (opener.probed.firstUsable candidates) (opener.firstUsable candidates)
      (SearchRecord candidates) := by
  induction candidates with
  | nil => exact probes_pure (.exhausted .none)
  | cons candidate rest ih =>
    refine probes_bind (probes_tryCandidate opener candidate) ?_
    rintro _ _ (rejected | ⟨device, resources, primary⟩)
    · exact ih.mono fun _ _ later => later.after rejected
    · have first : SearchRecord ([] ++ candidate :: rest) (some device) ([] ++ _) :=
        .found device resources .none primary
      exact probes_pure (by simpa using first)

theorem probes_resolve (path : Option String) :
    Probes (opener.probed.resolve path) (opener.resolve path) (ResolveRecord path) := by
  cases path with
  | some path => exact (probes_openExplicit opener path).mono fun _ _ => .explicit
  | none =>
    refine probes_watch _ ?_
    rintro (cause | candidates)
    · exact probes_note (probes_pure (.unlisted cause))
    · refine probes_bind (probes_firstUsable opener candidates) ?_
      rintro (_ | device) searching hsearch
      · exact probes_pure (by simpa using .exhausted hsearch)
      · exact probes_pure (by simpa using .found hsearch)

end Search

section Holding

variable {δ : Type} {held kept last : Option δ} {probes later : List (Probe δ)}

/-- What a call makes of the device that is open. One is opened only where none is, and only the
open one is queried or closed. -/
inductive Keeps : Option δ → Probe δ → Option δ → Prop
  | enumerated {answer : Except CallError (List DeviceCandidate)} :
      Keeps none (.enumerated answer) none
  | opened {path : String} {device : δ} : Keeps none (.opened path (.ok device)) (some device)
  | unopened {path : String} {cause : CallError} : Keeps none (.opened path (.error cause)) none
  | queried {device : δ} {answer : Except CallError Resources} :
      Keeps (some device) (.queried device answer) (some device)
  | closed {device : δ} : Keeps (some device) (.closed device) none

/-- That at most one device is open at any time: which one before some calls, and which one after
them. -/
inductive OneAtATime : Option δ → List (Probe δ) → Option δ → Prop
  | none {held : Option δ} : OneAtATime held [] held
  | more {held kept last : Option δ} {probe : Probe δ} {later : List (Probe δ)} :
      Keeps held probe kept → OneAtATime kept later last → OneAtATime held (probe :: later) last

theorem OneAtATime.trans (h : OneAtATime held probes kept) (hl : OneAtATime kept later last) :
    OneAtATime held (probes ++ later) last := by
  induction h with
  | none => exact hl
  | more first _ ih => exact .more first (ih hl)

theorem oneAtATime_usable {path : String} {device : δ} {resources : Resources} :
    OneAtATime none [.opened path (.ok device), .queried device (.ok resources)] (some device) :=
  .more .opened (.more .queried .none)

theorem oneAtATime_unresourced {path : String} {device : δ} {cause : CallError} :
    OneAtATime none
      [.opened path (.ok device), .queried device (.error cause), .closed device] none :=
  .more .opened (.more .queried (.more .closed .none))

theorem Rejected.oneAtATime {candidate : DeviceCandidate} (h : Rejected candidate probes) :
    OneAtATime none probes none := by
  cases h with
  | secondary => exact .none
  | unopened => exact .more .unopened .none
  | unresourced => exact oneAtATime_unresourced

theorem AllRejected.oneAtATime {candidates : List DeviceCandidate}
    (h : AllRejected candidates probes) : OneAtATime .none probes .none := by
  induction h with
  | none => exact .none
  | more first _ ih => exact first.oneAtATime.trans ih

theorem ResolveRecord.oneAtATime {path : Option String} {result : Except DisplayError δ}
    (h : ResolveRecord path result probes) : OneAtATime none probes result.toOption := by
  cases h with
  | explicit h =>
    cases h with
    | unopened => exact .more .unopened .none
    | unresourced => exact oneAtATime_unresourced
    | opened => exact oneAtATime_usable
  | unlisted => exact .more .enumerated .none
  | exhausted h =>
    cases h with
    | exhausted rejecting => exact .more .enumerated rejecting.oneAtATime
  | found h =>
    cases h with
    | found device resources rejecting =>
      exact .more .enumerated (rejecting.oneAtATime.trans oneAtATime_usable)

end Holding

section Outcome

variable {δ : Type} {probes : List (Probe δ)}

/-- The paths that were tried to be opened. -/
def openedPaths (probes : List (Probe δ)) : List String :=
  probes.filterMap fun
    | .opened path _ => some path
    | _ => none

@[simp] theorem openedPaths_append (probes later : List (Probe δ)) :
    openedPaths (probes ++ later) = openedPaths probes ++ openedPaths later :=
  List.filterMap_append

/-- The paths of the candidates with a primary node. -/
def primaryPaths (candidates : List DeviceCandidate) : List String :=
  (candidates.filter (·.hasPrimaryNode)).map (·.path)

/-- What comes of opening the device at a given path. -/
structure ExplicitOutcome (path : String) (result : Except DisplayError δ)
    (probes : List (Probe δ)) : Prop where
  opened : openedPaths probes = [path]
  unlisted : ∀ answer, .enumerated answer ∉ probes
  success : ∀ device, result = .ok device ↔
    .opened path (.ok device) ∈ probes ∧ ∃ resources, .queried device (.ok resources) ∈ probes
  failure : ∀ e, result = .error e ↔ ∃ cause, e = .deviceNotModesettable path cause ∧
    (.opened path (.error cause) ∈ probes ∨ ∃ device, .queried device (.error cause) ∈ probes)

/-- What comes of searching for a device: the first candidate that is not passed over, or nothing,
where the candidates cannot be listed or are all passed over. -/
structure SearchOutcome (result : Except DisplayError δ) (probes : List (Probe δ)) : Prop where
  found : ∀ device, result = .ok device ↔ ∃ earlier candidate later rejecting resources,
    AllRejected earlier rejecting ∧ candidate.hasPrimaryNode = true ∧
    probes = .enumerated (.ok (earlier ++ candidate :: later)) ::
      (rejecting ++ [.opened candidate.path (.ok device), .queried device (.ok resources)]) ∧
    openedPaths probes = primaryPaths (earlier ++ [candidate])
  nothing : result = .error .noDeviceFound ↔
    (∃ cause, probes = [.enumerated (.error cause)]) ∨
    ∃ candidates rejecting, AllRejected candidates rejecting ∧
      probes = .enumerated (.ok candidates) :: rejecting
  otherwise : ∀ e, result = .error e → e = .noDeviceFound

/-- What comes of resolving a device. -/
def ResolveOutcome : Option String → Except DisplayError δ → List (Probe δ) → Prop
  | some path => ExplicitOutcome path
  | none => SearchOutcome

theorem Rejected.openedPaths {candidate : DeviceCandidate} (h : Rejected candidate probes) :
    openedPaths probes = primaryPaths [candidate] := by
  cases h with
  | secondary primary => simp [Scanout.openedPaths, primaryPaths, primary]
  | unopened _ primary => simp [Scanout.openedPaths, primaryPaths, primary]
  | unresourced _ _ primary => simp [Scanout.openedPaths, primaryPaths, primary]

theorem primaryPaths_append (earlier later : List DeviceCandidate) :
    primaryPaths (earlier ++ later) = primaryPaths earlier ++ primaryPaths later := by
  simp [primaryPaths]

theorem AllRejected.openedPaths {candidates : List DeviceCandidate}
    (h : AllRejected candidates probes) : openedPaths probes = primaryPaths candidates := by
  induction h with
  | none => rfl
  | @more candidate rest _ _ first _ ih =>
    rw [openedPaths_append, first.openedPaths, ih, ← primaryPaths_append]
    rfl

/-- Whatever is passed over gave no resources. -/
theorem AllRejected.unresourced {candidates : List DeviceCandidate}
    (h : AllRejected candidates probes) (device : δ) (resources : Resources) :
    .queried device (.ok resources) ∉ probes := by
  induction h with
  | none => simp
  | more first _ ih =>
    rw [List.mem_append, not_or]
    refine ⟨?_, ih⟩
    cases first <;> simp

theorem ExplicitRecord.outcome {path : String} {result : Except DisplayError δ}
    (h : ExplicitRecord path result probes) : ExplicitOutcome path result probes := by
  cases h with
  | unopened cause => exact ⟨rfl, by simp, by simp, by simp [eq_comm]⟩
  | unresourced device cause => exact ⟨rfl, by simp, by simp, by simp [eq_comm]⟩
  | opened device resources => exact ⟨rfl, by simp, by simp [eq_comm], by simp⟩

theorem SearchRecord.outcome_none {candidates : List DeviceCandidate}
    {searching : List (Probe δ)} (h : SearchRecord candidates none searching) :
    SearchOutcome (.error .noDeviceFound) (.enumerated (.ok candidates) :: searching) := by
  cases h with
  | exhausted rejecting =>
    refine ⟨?_, ?_, by simp⟩
    · intro device
      refine ⟨nofun, ?_⟩
      -- A device that is found gave its resources, and none that was passed over did.
      rintro ⟨_, _, _, _, resources, -, -, same, -⟩
      obtain ⟨-, rfl⟩ := List.cons.inj same
      exact absurd (by simp) (rejecting.unresourced device resources)
    · exact ⟨fun _ => .inr ⟨_, _, rejecting, rfl⟩, fun _ => rfl⟩

theorem SearchRecord.outcome_some {candidates : List DeviceCandidate} {device : δ}
    {searching : List (Probe δ)} (h : SearchRecord candidates (some device) searching) :
    SearchOutcome (.ok device) (.enumerated (.ok candidates) :: searching) := by
  cases h with
  | @found earlier later candidate rejecting _ resources hearlier primary =>
    refine ⟨?_, ?_, nofun⟩
    · intro other
      constructor
      · rintro same
        obtain rfl := Except.ok.inj same
        refine ⟨earlier, candidate, later, rejecting, resources, hearlier, primary, rfl, ?_⟩
        have before := hearlier.openedPaths
        rw [primaryPaths_append, ← before]
        simp [openedPaths, primaryPaths, primary]
      · rintro ⟨_, _, _, _, _, -, -, same, -⟩
        obtain ⟨-, same⟩ := List.cons.inj same
        have last := congrArg List.getLast? same
        simp at last
        rw [last.1]
    · refine ⟨nofun, ?_⟩
      rintro (⟨cause, same⟩ | ⟨_, _, all, same⟩)
      · simp at same
      · obtain ⟨-, rfl⟩ := List.cons.inj same
        exact absurd (by simp) (all.unresourced device resources)

theorem ResolveRecord.outcome {path : Option String} {result : Except DisplayError δ}
    (h : ResolveRecord path result probes) : ResolveOutcome path result probes := by
  cases h with
  | explicit h => exact h.outcome
  | unlisted cause =>
    refine ⟨?_, ?_, by simp⟩
    · intro device
      refine ⟨nofun, ?_⟩
      rintro ⟨_, _, _, _, _, -, -, same, -⟩
      simp at same
    · exact ⟨fun _ => .inl ⟨cause, rfl⟩, fun _ => rfl⟩
  | exhausted h => exact h.outcome_none
  | found h => exact h.outcome_some

variable {σ : Type} [World σ]

/-- Resolving a device, with every call written down. -/
def recordResolve (opener : DeviceOpener σ δ) (path : Option String) (world : σ) :
    Except DisplayError δ × Probed σ δ :=
  opener.probed.resolve path ⟨world, []⟩

/-- Writing the calls down changes neither the device nor the world that is left. -/
theorem recordResolve_eq_resolve (opener : DeviceOpener σ δ) (path : Option String) (world : σ) :
    ((recordResolve opener path world).1, (recordResolve opener path world).2.world) =
      opener.resolve path world := by
  obtain ⟨added, given, -⟩ := probes_resolve opener path ⟨world, []⟩
  unfold recordResolve
  rw [given]
  rfl

/-- A device is the one at the path that was given, or else the first usable one of those listed;
no more than one is open at any time, and none in the end but the one that is returned. -/
theorem resolve_outcome (opener : DeviceOpener σ δ) (path : Option String) (world : σ) :
    ResolveOutcome path (recordResolve opener path world).1
      (recordResolve opener path world).2.probes ∧
    OneAtATime none (recordResolve opener path world).2.probes
      (recordResolve opener path world).1.toOption := by
  obtain ⟨added, given, record⟩ := probes_resolve opener path ⟨world, []⟩
  unfold recordResolve
  rw [given]
  exact ⟨record.outcome, record.oneAtATime⟩

end Outcome

end Scanout
