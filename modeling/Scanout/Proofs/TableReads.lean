import Scanout.Proofs.FirstWith
import Scanout.Proofs.Recording

namespace Scanout

/-- A property of an object as it was read: its number and value, and what came of asking for its
name. -/
structure PropertyRead where
  handle : PropertyId
  value : UInt64
  answer : Except CallError String

/-- The entry of a property in a table, if its name could be read. -/
def PropertyRead.tabled? (read : PropertyRead) : Option PropertyEntry :=
  read.answer.toOption.map fun name => ⟨name, read.handle, read.value⟩

/-- The calls in which the properties of an object are read: its list, then the name of each. -/
def readingCalls (object : DisplayObject) (reads : List PropertyRead) : List Exchange :=
  .propertiesRead object (.ok (reads.map fun read => (read.handle, read.value))) ::
    reads.map fun read => .nameRead read.handle read.answer

/-- That a property is the first of a list whose name was read, and is this one. -/
def FirstRead (reads : List PropertyRead) (name : String) (property : PropertyId) : Prop :=
  ∃ earlier read later, reads = earlier ++ read :: later ∧ read.answer = .ok name ∧
    read.handle = property ∧ ∀ other ∈ earlier, other.answer ≠ .ok name

theorem PropertyRead.called_iff {read : PropertyRead} {name : String} :
    (read.tabled?.any fun entry => entry.name == name) = true ↔ read.answer = .ok name := by
  obtain ⟨handle, value, answer⟩ := read
  cases answer <;> simp [tabled?, Except.toOption]

namespace PropertyTable

/-- The table of an object whose properties were read. -/
def ofReads (object : DisplayObject) (reads : List PropertyRead) : PropertyTable :=
  ⟨object, reads.filterMap PropertyRead.tabled?⟩

variable {object : DisplayObject} {reads : List PropertyRead} {name : String}

/-- What a name leads to was the first property that was read with it. -/
theorem entry?_ofReads_eq_some_iff {entry : PropertyEntry} :
    entry? (ofReads object reads) name = some entry ↔
      ∃ read, FirstWith (fun read => read.answer = .ok name) reads read ∧
        entry = ⟨name, read.handle, read.value⟩ := by
  unfold entry? ofReads
  rw [List.find?_filterMap, Option.bind_eq_some_iff]
  simp only [find?_eq_some_iff_firstWith, PropertyRead.called_iff]
  refine exists_congr fun read => and_congr_right fun first => ?_
  have called : read.answer = .ok name := first.holds
  simp [PropertyRead.tabled?, called, Except.toOption, eq_comm]

theorem value_ofReads_eq_some_iff {value : UInt64} :
    (ofReads object reads).value name = some value ↔
      ∃ read, FirstWith (fun read => read.answer = .ok name) reads read ∧ read.value = value := by
  unfold PropertyTable.value
  simp only [Option.map_eq_some_iff, entry?_ofReads_eq_some_iff]
  constructor
  · rintro ⟨_, ⟨read, first, rfl⟩, rfl⟩
    exact ⟨read, first, rfl⟩
  · rintro ⟨read, first, rfl⟩
    exact ⟨_, ⟨read, first, rfl⟩, rfl⟩

/-- A name leads to the first property that was read with it. -/
theorem lookup_ofReads_eq_some_iff {property : PropertyId} :
    (ofReads object reads).lookup name = some property ↔ FirstRead reads name property := by
  unfold lookup
  simp only [Option.map_eq_some_iff, entry?_ofReads_eq_some_iff]
  constructor
  · rintro ⟨_, ⟨read, ⟨earlier, later, split, called, others⟩, rfl⟩, handle⟩
    exact ⟨earlier, read, later, split, called, handle, others⟩
  · rintro ⟨earlier, read, later, split, called, handle, others⟩
    exact ⟨_, ⟨read, ⟨earlier, later, split, called, others⟩, rfl⟩, handle⟩

/-- A name that no property was read with leads to none. -/
theorem lookup_ofReads_eq_none_iff :
    (ofReads object reads).lookup name = none ↔ ∀ read ∈ reads, read.answer ≠ .ok name := by
  unfold lookup
  rw [Option.map_eq_none_iff, Option.eq_none_iff_forall_ne_some]
  simp only [ne_eq, entry?_ofReads_eq_some_iff]
  constructor
  · intro absent read listed called
    obtain ⟨first, found⟩ :=
      exists_firstWith (p := fun read => read.answer = .ok name) ⟨read, listed, called⟩
    exact absent _ ⟨first, found, rfl⟩
  · rintro uncalled _ ⟨read, found, -⟩
    exact uncalled read found.mem found.holds

end PropertyTable

/-- Reading the properties of an object: their list could not be had, or each name was asked for. -/
inductive TableRecord (object : DisplayObject) :
    Except DisplayError PropertyTable → List Exchange → Prop
  | unlisted (cause : CallError) :
      TableRecord object (.error (.propertyQueryFailed object cause))
        [.propertiesRead object (.error cause)]
  | read (reads : List PropertyRead) :
      TableRecord object (.ok (.ofReads object reads)) (readingCalls object reads)

/-- Reading the properties of the objects of a display path, as far as their lists can be had. -/
inductive TablesRecord (topology : Topology) :
    Except DisplayError PropertyCache → List Exchange → Prop
  | connectorUnread {e : DisplayError} {reading : List Exchange} :
      TableRecord (.connector topology.connector) (.error e) reading →
      TablesRecord topology (.error e) reading
  | crtcUnread {connector : PropertyTable} {e : DisplayError} {first reading : List Exchange} :
      TableRecord (.connector topology.connector) (.ok connector) first →
      TableRecord (.crtc topology.crtc) (.error e) reading →
      TablesRecord topology (.error e) (first ++ reading)
  | planeUnread {connector crtc : PropertyTable} {e : DisplayError}
      {first second reading : List Exchange} :
      TableRecord (.connector topology.connector) (.ok connector) first →
      TableRecord (.crtc topology.crtc) (.ok crtc) second →
      TableRecord (.plane topology.plane) (.error e) reading →
      TablesRecord topology (.error e) (first ++ (second ++ reading))
  | read {connector crtc plane : PropertyTable} {first second third : List Exchange} :
      TableRecord (.connector topology.connector) (.ok connector) first →
      TableRecord (.crtc topology.crtc) (.ok crtc) second →
      TableRecord (.plane topology.plane) (.ok plane) third →
      TablesRecord topology (.ok ⟨connector, crtc, plane⟩) (first ++ (second ++ third))

/-- The calls in which a device is asked for what it has. -/
def Exchange.isQuery : Exchange → Bool
  | resourcesRead _ | connectorRead _ _ | encoderRead _ _ | planesRead _ | planeRead _ _
  | propertiesRead _ _ | nameRead _ _ => true
  | _ => false

theorem isQuery_readingCalls {object : DisplayObject} {reads : List PropertyRead} :
    ∀ x ∈ readingCalls object reads, x.isQuery := by
  simp [readingCalls, Exchange.isQuery]

theorem TableRecord.isQuery {object : DisplayObject} {result : Except DisplayError PropertyTable}
    {events : List Exchange} (h : TableRecord object result events) :
    ∀ x ∈ events, x.isQuery := by
  cases h with
  | unlisted cause => simp [Exchange.isQuery]
  | read reads => exact isQuery_readingCalls

theorem TablesRecord.isQuery {topology : Topology} {result : Except DisplayError PropertyCache}
    {events : List Exchange} (h : TablesRecord topology result events) :
    ∀ x ∈ events, x.isQuery := by
  cases h with
  | connectorUnread first => exact first.isQuery
  | crtcUnread first second =>
    simpa only [List.forall_mem_append] using ⟨first.isQuery, second.isQuery⟩
  | planeUnread first second third =>
    simpa only [List.forall_mem_append] using ⟨first.isQuery, second.isQuery, third.isQuery⟩
  | read first second third =>
    simpa only [List.forall_mem_append] using ⟨first.isQuery, second.isQuery, third.isQuery⟩

section Records

variable {σ : Type} [World σ] (device : Device σ)

theorem records_readEntries (object : DisplayObject) (listed : List (PropertyId × UInt64)) :
    Records (readEntries device.recorded object listed) (readEntries device object listed)
      (fun entries added => ∃ reads : List PropertyRead,
        listed = reads.map (fun read => (read.handle, read.value)) ∧
        entries = reads.filterMap PropertyRead.tabled? ∧
        added = reads.map fun read => .nameRead read.handle read.answer) := by
  induction listed with
  | nil => exact records_pure ⟨[], rfl, rfl, rfl⟩
  | cons property rest ih =>
    obtain ⟨handle, value⟩ := property
    refine records_then (records_watch _ _) ?_
    intro answer
    cases answer with
    | error cause =>
      refine records_then (records_note _) fun _ => ih.mono ?_
      rintro _ _ ⟨reads, rfl, rfl, rfl⟩
      exact ⟨⟨handle, value, .error cause⟩ :: reads, rfl, rfl, rfl⟩
    | ok name =>
      refine records_bind ih ?_
      rintro _ _ ⟨reads, rfl, rfl, rfl⟩
      exact records_pure ⟨⟨handle, value, .ok name⟩ :: reads, rfl, rfl, by simp⟩

theorem records_loadTable (object : DisplayObject) :
    Records (PropertyTable.load device.recorded object) (PropertyTable.load device object)
      (TableRecord object) := by
  refine records_then (records_watch _ _) ?_
  intro answer
  cases answer with
  | error cause => exact records_pure (.unlisted cause)
  | ok listed =>
    refine records_bind (records_readEntries device object listed) ?_
    rintro _ _ ⟨reads, rfl, rfl, rfl⟩
    refine records_then (records_note _) fun _ => ?_
    exact records_pure (by simpa [readingCalls, PropertyTable.ofReads] using .read reads)

theorem records_loadTables (topology : Topology) :
    Records (PropertyCache.load device.recorded topology) (PropertyCache.load device topology)
      (TablesRecord topology) := by
  refine records_bind (records_loadTable device (.connector topology.connector)) ?_
  rintro (e | connector) first hfirst
  · exact records_pure (by simpa using .connectorUnread hfirst)
  · refine records_bind (records_loadTable device (.crtc topology.crtc)) ?_
    rintro (e | crtc) second hsecond
    · exact records_pure (by simpa using .crtcUnread hfirst hsecond)
    · refine records_bind (records_loadTable device (.plane topology.plane)) ?_
      rintro (e | plane) third hthird
      · exact records_pure (by simpa using .planeUnread hfirst hsecond hthird)
      · exact records_pure (by simpa using .read hfirst hsecond hthird)

end Records

end Scanout
