import Mathlib.Data.List.Nodup
import Scanout.Kernel

namespace Scanout

/-- A property of an object by their numbers, and what it is set to. -/
abbrev AtomicEntry := (UInt32 × UInt32) × AtomicValue

/-- What a transaction says, by number: its assignments in their order, and where the out-fence
goes. -/
def Transaction.entries (txn : Transaction) : List AtomicEntry :=
  txn.assignments.map (fun a => ((a.object.id, a.property.id), AtomicRequest.ofValue a.value)) ++
    txn.outFence.toList.map fun (crtc, property) => ((crtc.id, property.id), .pointer)

namespace AtomicRequest

section Keys

variable {κ α : Type} [BEq κ] [LawfulBEq κ]

/-- Where no key stands twice, a list holds just what can be looked up in it. -/
theorem lookup_eq_some_iff_mem {list : List (κ × α)} (once : (list.map Prod.fst).Nodup) {key : κ}
    {value : α} : list.lookup key = some value ↔ (key, value) ∈ list := by
  induction list with
  | nil => simp
  | cons entry rest ih =>
    obtain ⟨k, v⟩ := entry
    rw [List.map_cons, List.nodup_cons] at once
    rw [List.lookup_cons]
    cases same : key == k with
    | true =>
      obtain rfl := eq_of_beq same
      have absent : (key, value) ∉ rest := fun held =>
        once.1 (List.mem_map.mpr ⟨_, held, rfl⟩)
      simp [absent, eq_comm]
    | false => simp [ih once.2, ne_of_beq_false same]

end Keys

/-- What a request sets, entry by entry. -/
def entries (request : AtomicRequest) : List AtomicEntry :=
  request.objects.flatMap fun (object, properties) =>
    properties.map fun (property, value) => ((object, property), value)

def get (request : AtomicRequest) (object property : UInt32) : Option AtomicValue :=
  request.entries.lookup (object, property)

theorem hasPointer_iff {request : AtomicRequest} :
    request.hasPointer = true ↔ ∃ place, (place, .pointer) ∈ request.entries := by
  unfold hasPointer entries
  simp only [List.any_eq_true, List.mem_flatMap, List.mem_map, beq_iff_eq]
  constructor
  · rintro ⟨⟨object, properties⟩, held, ⟨property, value⟩, listed, rfl⟩
    exact ⟨(object, property), (object, properties), held, (property, .pointer), listed, rfl⟩
  · rintro ⟨place, ⟨object, properties⟩, held, ⟨property, value⟩, listed, same⟩
    exact ⟨(object, properties), held, (property, value), listed, congrArg Prod.snd same⟩

end AtomicRequest

namespace Kernel

variable {σ : Type} {kernel : Kernel σ} {txn : Transaction}

/-- The request that some entries make, one after the other. -/
def built (kernel : Kernel σ) (added : List AtomicEntry) : AtomicRequest :=
  added.foldl (fun request entry => kernel.setProperty request entry.1.1 entry.1.2 entry.2) ⟨[]⟩

/-- That a request holds one value for each property of an object, and of several that were set the
last. -/
structure KeepsLast (kernel : Kernel σ) : Prop where
  once : ∀ added, ((kernel.built added).entries.map Prod.fst).Nodup
  last : ∀ added key value,
    (key, value) ∈ (kernel.built added).entries ↔ added.reverse.lookup key = some value

theorem request_eq_built (kernel : Kernel σ) (txn : Transaction) :
    kernel.request txn = kernel.built txn.entries := by
  unfold request built Transaction.entries
  simp only [List.foldl_append, List.foldl_map]
  cases txn.outFence <;> rfl

theorem KeepsLast.request_nodup (keeps : kernel.KeepsLast) :
    ((kernel.request txn).entries.map Prod.fst).Nodup := by
  rw [request_eq_built]
  exact keeps.once txn.entries

/-- Where no property is set twice, the request for a transaction holds what the transaction says,
no more and no less. -/
theorem KeepsLast.request_perm (keeps : kernel.KeepsLast)
    (once : (txn.entries.map Prod.fst).Nodup) :
    (kernel.request txn).entries.Perm txn.entries := by
  refine (List.perm_ext_iff_of_nodup (.of_map _ keeps.request_nodup) (.of_map _ once)).mpr ?_
  rintro ⟨key, value⟩
  have reversed : (txn.entries.reverse.map Prod.fst).Nodup := by
    rwa [List.map_reverse, List.nodup_reverse]
  rw [request_eq_built, keeps.last, AtomicRequest.lookup_eq_some_iff_mem reversed,
    List.mem_reverse]

end Kernel

namespace AtomicRequest

section Ascending

variable {α : Type} {list : List (UInt32 × α)}

/-- That the numbers under which values stand ascend. -/
def Ascending (list : List (UInt32 × α)) : Prop :=
  list.Pairwise (·.1 < ·.1)

theorem Ascending.nodup (h : Ascending list) : (list.map Prod.fst).Nodup :=
  List.pairwise_map.mpr (h.imp fun less => UInt32.ne_of_lt less)

theorem mem_insertSorted {key : UInt32} {value : α} {entry : UInt32 × α}
    (h : entry ∈ insertSorted key value list) : entry = (key, value) ∨ entry ∈ list := by
  induction list with
  | nil => simpa [insertSorted] using h
  | cons first rest ih =>
    obtain ⟨k, v⟩ := first
    unfold insertSorted at h
    split_ifs at h
    · simpa using h
    · rcases List.mem_cons.mp h with rfl | later
      · exact .inl rfl
      · exact .inr (List.mem_cons_of_mem _ later)
    · rcases List.mem_cons.mp h with rfl | later
      · exact .inr List.mem_cons_self
      · exact (ih later).imp_right (List.mem_cons_of_mem _)

theorem insertSorted_ascending (h : Ascending list) (key : UInt32) (value : α) :
    Ascending (insertSorted key value list) := by
  induction list with
  | nil => exact List.pairwise_singleton _ _
  | cons first rest ih =>
    obtain ⟨k, v⟩ := first
    obtain ⟨below, sorted⟩ := List.pairwise_cons.mp h
    unfold insertSorted
    split_ifs with less equal
    · refine List.pairwise_cons.mpr ⟨?_, h⟩
      intro entry held
      rcases List.mem_cons.mp held with rfl | later
      · exact less
      · exact UInt32.lt_trans less (below entry later)
    · subst equal
      exact List.pairwise_cons.mpr ⟨below, sorted⟩
    · refine List.pairwise_cons.mpr ⟨?_, ih sorted⟩
      intro entry held
      rcases mem_insertSorted held with rfl | later
      · exact UInt32.lt_of_le_of_ne (UInt32.not_lt.mp less) (Ne.symm equal)
      · exact below entry later

theorem lookup_insertSorted (key : UInt32) (value : α) (other : UInt32)
    (list : List (UInt32 × α)) :
    (insertSorted key value list).lookup other =
      if other = key then some value else list.lookup other := by
  induction list with
  | nil =>
    by_cases same : other = key
    · simp [insertSorted, same]
    · simp [insertSorted, List.lookup_cons, beq_false_of_ne same, same]
  | cons first rest ih =>
    obtain ⟨k, v⟩ := first
    unfold insertSorted
    split_ifs with less equal same same
    all_goals grind

end Ascending

/-- What a property is set to, looked up under its object. -/
def stored (request : AtomicRequest) (object property : UInt32) : Option AtomicValue :=
  (request.objects.lookup object).bind (·.lookup property)

/-- That the objects of a request ascend, and the properties of each. -/
structure Sorted (request : AtomicRequest) : Prop where
  objects : Ascending request.objects
  properties : ∀ entry ∈ request.objects, Ascending entry.2

variable {request : AtomicRequest} {object property : UInt32} {value : AtomicValue}

theorem Sorted.mem_entries (h : request.Sorted) :
    ((object, property), value) ∈ request.entries ↔
      request.stored object property = some value := by
  unfold entries stored
  rw [Option.bind_eq_some_iff, List.mem_flatMap]
  constructor
  · rintro ⟨⟨o, properties⟩, held, listed⟩
    obtain ⟨⟨p, v⟩, assigned, same⟩ := List.mem_map.mp listed
    obtain ⟨⟨rfl, rfl⟩, rfl⟩ := by simpa using same
    exact ⟨properties, (lookup_eq_some_iff_mem h.objects.nodup).mpr held,
      (lookup_eq_some_iff_mem (h.properties _ held).nodup).mpr assigned⟩
  · rintro ⟨properties, found, assigned⟩
    have held := (lookup_eq_some_iff_mem h.objects.nodup).mp found
    refine ⟨(object, properties), held, List.mem_map.mpr ⟨(property, value), ?_, rfl⟩⟩
    exact (lookup_eq_some_iff_mem (h.properties _ held).nodup).mp assigned

/-- A request sets no property of an object twice. -/
theorem Sorted.entries_nodup (h : request.Sorted) : (request.entries.map Prod.fst).Nodup := by
  unfold entries
  rw [List.map_flatMap]
  refine List.nodup_flatMap.mpr ⟨?_, ?_⟩
  · intro entry held
    have once := (h.properties entry held).nodup
    simpa [List.map_map, Function.comp_def] using
      List.Nodup.map (f := fun property => (entry.1, property))
        (fun _ _ same => (Prod.mk.inj same).2) once
  · refine h.objects.imp ?_
    intro entry other less
    simp only [Function.onFun, List.disjoint_left, List.mem_map]
    rintro key ⟨_, ⟨_, -, rfl⟩, rfl⟩ ⟨_, ⟨_, -, rfl⟩, same⟩
    exact UInt32.ne_of_lt less (congrArg Prod.fst same).symm

theorem sorted_empty : Sorted ⟨[]⟩ :=
  ⟨List.Pairwise.nil, by simp⟩

theorem Sorted.set (h : request.Sorted) (object property : UInt32) (value : AtomicValue) :
    (request.set object property value).Sorted := by
  refine ⟨insertSorted_ascending h.objects _ _, ?_⟩
  intro entry held
  rcases mem_insertSorted held with rfl | old
  · refine insertSorted_ascending ?_ property value
    cases found : request.objects.lookup object with
    | none => exact List.Pairwise.nil
    | some properties =>
      exact h.properties _ ((lookup_eq_some_iff_mem h.objects.nodup).mp found)
  · exact h.properties entry old

/-- Setting a property changes what it is set to, and nothing else. -/
theorem stored_set (request : AtomicRequest) (object property : UInt32) (value : AtomicValue)
    (key : UInt32 × UInt32) :
    (request.set object property value).stored key.1 key.2 =
      if key = (object, property) then some value else request.stored key.1 key.2 := by
  obtain ⟨o, p⟩ := key
  unfold stored AtomicRequest.set
  simp only [lookup_insertSorted, Prod.mk.injEq]
  by_cases sameObject : o = object
  · subst sameObject
    by_cases sameProperty : p = property <;>
      cases request.objects.lookup o <;> simp [lookup_insertSorted, sameProperty]
  · simp [sameObject]

/-- A request with more entries, of which later ones replace earlier ones. -/
def putAll (request : AtomicRequest) (entries : List AtomicEntry) : AtomicRequest :=
  entries.foldl (fun request entry => request.set entry.1.1 entry.1.2 entry.2) request

theorem Sorted.putAll (h : request.Sorted) (entries : List AtomicEntry) :
    (request.putAll entries).Sorted := by
  induction entries generalizing request with
  | nil => exact h
  | cons entry rest ih => exact ih (h.set _ _ _)

/-- What counts of several values for one property is the last. -/
theorem stored_putAll (request : AtomicRequest) (entries : List AtomicEntry)
    (key : UInt32 × UInt32) : (request.putAll entries).stored key.1 key.2 =
      (entries.reverse.lookup key).or (request.stored key.1 key.2) := by
  induction entries generalizing request with
  | nil => rfl
  | cons entry rest ih =>
    obtain ⟨slot, value⟩ := entry
    change ((request.set slot.1 slot.2 value).putAll rest).stored key.1 key.2 = _
    rw [ih, List.reverse_cons, List.lookup_append, Option.or_assoc, stored_set, List.lookup_cons]
    by_cases same : key = slot
    · simp [same]
    · simp [beq_false_of_ne same, same]

/-- Putting the values in ascending order keeps the last of each. -/
theorem keepsLast_of_set {σ : Type} {kernel : Kernel σ}
    (sets : kernel.setProperty = AtomicRequest.set) : kernel.KeepsLast := by
  have built (added : List AtomicEntry) : kernel.built added = putAll ⟨[]⟩ added := by
    rw [Kernel.built, sets]
    rfl
  have sorted (added : List AtomicEntry) := sorted_empty.putAll added
  refine ⟨fun added => ?_, fun added key value => ?_⟩
  · rw [built]
    exact (sorted added).entries_nodup
  · rw [built, (sorted added).mem_entries, stored_putAll ⟨[]⟩ added key,
      show stored ⟨[]⟩ key.1 key.2 = none from rfl, Option.or_none]

end AtomicRequest

end Scanout
