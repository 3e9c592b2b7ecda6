import Scanout.Proofs.CrowdedCrtcs

namespace Scanout

/-- The bits of a word for the first `count` positions. -/
def CrtcMask.firstBits (mask : UInt32) (count : Nat) : CrtcMask :=
  ⟨UInt32.ofNat (mask.toNat % 2 ^ count)⟩

/-- That a list holds the CRTCs that stand at the positions of a word's bits, and no others. -/
def FilteredBy (crtcs : List CrtcId) (mask : UInt32) (allowed : List CrtcId) : Prop :=
  ∀ crtc, crtc ∈ allowed ↔ ∃ index, crtcs[index]? = some crtc ∧ mask.toNat.testBit index

section Masks

variable {crtcs allowed : List CrtcId} {mask : UInt32} {index count : Nat}

theorem CrtcMask.firstBits_toNat : (firstBits mask count).bits.toNat = mask.toNat % 2 ^ count := by
  have smaller : mask.toNat % 2 ^ count ≤ mask.toNat := Nat.mod_le _ _
  have fits : mask.toNat < 2 ^ 32 := mask.toNat_lt
  rw [firstBits, UInt32.toNat_ofNat', Nat.mod_eq_of_lt (by omega)]

theorem CrtcMask.firstBits_allows (inWord : count ≤ 32) :
    (firstBits mask count).allows index ↔ index < count ∧ mask.toNat.testBit index := by
  rw [allows, firstBits_toNat, Nat.testBit_mod_two_pow]
  simp only [Bool.and_eq_true, decide_eq_true_eq, and_iff_right_iff_imp, and_imp]
  omega

/-- That a mask of up to 32 CRTCs stands for those at the positions of its bits. -/
def Kernel.FiltersCrtcs {σ : Type} (kernel : Kernel σ) : Prop :=
  ∀ crtcs mask, crtcs.length ≤ 32 →
    ∃ allowed, kernel.filterCrtcs crtcs mask = some allowed ∧ FilteredBy crtcs mask allowed

theorem KernelModel.filtersCrtcs (model : KernelModel) : model.kernel.FiltersCrtcs := by
  intro crtcs mask fits
  refine ⟨_, (allowedChecked?_eq (by omega) crtcs).trans (if_neg (by omega)), fun crtc => ?_⟩
  simp only [List.mem_map, List.mem_filter, Prod.exists, exists_and_right, exists_eq_right]
  refine exists_congr fun index => and_congr_left fun _ => ?_
  exact List.mk_mem_zipIdx_iff_getElem?

theorem testBit_with_bit {word : UInt32} (inWord : count < 32) :
    (word ||| (1 <<< UInt32.ofNat count)).toNat.testBit index ↔
      word.toNat.testBit index ∨ count = index := by
  rw [UInt32.toNat_or, Nat.testBit_or, shifted_toNat_of_lt inWord, Nat.testBit_two_pow,
    Bool.or_eq_true, decide_eq_true_eq]

/-- Going through the list adds the bits of the positions where an allowed CRTC stands. -/
theorem testBit_added {word : UInt32} (fits : count + crtcs.length ≤ 32) :
    ((crtcs.zipIdx count).foldl (fun word (crtc, i) =>
      if crtc ∈ allowed then word ||| (1 <<< UInt32.ofNat i) else word) word).toNat.testBit index ↔
      word.toNat.testBit index ∨
        ∃ crtc ∈ allowed, count ≤ index ∧ crtcs[index - count]? = some crtc := by
  induction crtcs generalizing count word with
  | nil => simp
  | cons crtc rest ih =>
    have length : (crtc :: rest).length = rest.length + 1 := List.length_cons
    have before : count < 32 := by omega
    rw [List.zipIdx_cons, List.foldl_cons, ih (by omega)]
    have here : (if crtc ∈ allowed then word ||| (1 <<< UInt32.ofNat count)
        else word).toNat.testBit index ↔
        word.toNat.testBit index ∨ crtc ∈ allowed ∧ count = index := by
      by_cases held : crtc ∈ allowed
      · simp only [held, if_true, true_and]
        exact testBit_with_bit before
      · simp [held]
    -- Position `count` is the head's; the positions past it are those of the rest.
    have later : (∃ other ∈ allowed, count ≤ index ∧
        (crtc :: rest)[index - count]? = some other) ↔
        crtc ∈ allowed ∧ count = index ∨
          ∃ other ∈ allowed, count + 1 ≤ index ∧ rest[index - (count + 1)]? = some other := by
      rcases Nat.lt_trichotomy index count with less | same | more
      · have notHere : count ≠ index := by omega
        have notLater : ¬count + 1 ≤ index := by omega
        have notAt : ¬count ≤ index := by omega
        simp [notHere, notLater, notAt]
      · subst same
        simp
      · have step : index - count = index - (count + 1) + 1 := by omega
        have notHere : count ≠ index := by omega
        have past : count ≤ index := by omega
        have next : count + 1 ≤ index := more
        rw [step, List.getElem?_cons_succ]
        simp [notHere, past, next]
    rw [here, later, or_assoc]

/-- The mask that is made of the CRTCs that a word allows is the word again, as far as the list
goes. -/
theorem maskOf?_eq (fits : crtcs.length ≤ 32) (distinct : crtcs.Nodup)
    (filtered : FilteredBy crtcs mask allowed) :
    maskOf? crtcs allowed = some (.firstBits mask crtcs.length) := by
  rw [maskOf?_eq_checked, maskChecked?_eq (by omega), Option.map_some]
  refine congrArg (some ∘ CrtcMask.mk) (UInt32.toNat_inj.mp ?_)
  refine Eq.trans ?_ CrtcMask.firstBits_toNat.symm
  refine Nat.eq_of_testBit_eq fun index => ?_
  rw [Nat.testBit_mod_two_pow, Bool.eq_iff_iff, testBit_added (by omega)]
  simp only [UInt32.toNat_zero, Nat.zero_testBit, Bool.false_eq_true, false_or, Nat.zero_le,
    true_and, Nat.sub_zero, Bool.and_eq_true, decide_eq_true_eq]
  constructor
  · rintro ⟨crtc, held, found⟩
    obtain ⟨other, again, bit⟩ := (filtered crtc).mp held
    -- A CRTC that was listed twice would get the bits of both its positions for one of them.
    have inList : index < crtcs.length := (List.getElem?_eq_some_iff.mp found).1
    have alike : index = other :=
      (List.getElem?_inj inList distinct).mp (found.trans again.symm)
    exact ⟨inList, alike ▸ bit⟩
  · rintro ⟨inList, bit⟩
    have found : crtcs[index]? = some crtcs[index] := List.getElem?_eq_getElem inList
    exact ⟨crtcs[index], (filtered _).mpr ⟨index, found, bit⟩, found⟩

theorem Kernel.FiltersCrtcs.crtcMask?_eq {σ : Type} {kernel : Kernel σ}
    (filters : kernel.FiltersCrtcs) (fits : crtcs.length ≤ 32) (distinct : crtcs.Nodup)
    (mask : UInt32) : kernel.crtcMask? crtcs mask = some (.firstBits mask crtcs.length) := by
  obtain ⟨allowed, given, filtered⟩ := filters crtcs mask fits
  rw [Kernel.crtcMask?, given, Option.bind_some, maskOf?_eq fits distinct filtered]

end Masks

/-- The kernel's own mask, as far as there are CRTCs. The resources are read all the same. -/
def Kernel.confinedMask {σ : Type} (kernel : Kernel σ) (count : Nat) (mask : UInt32) :
    Act σ (Except CallError CrtcMask) := do
  match ← kernel.resources with
  | .error cause => return .error cause
  | .ok _ => return .ok (.firstBits mask count)

/-- A kernel's device that goes by the kernel's own masks of its first `count` CRTCs. -/
def Kernel.confined {σ : Type} [World σ] (kernel : Kernel σ) (count : Nat) : Device σ :=
  kernel.deviceBy (kernel.confinedMask count)

/-- That no other CRTCs than these were read. -/
def ReadsOnly (crtcs : List CrtcId) (calls : List KernelCall) : Prop :=
  ∀ resources, .resourcesRead (.ok resources) ∈ calls → resources.crtcs = crtcs

def KernelCall.readsOnly (crtcs : List CrtcId) : KernelCall → Bool
  | resourcesRead (.ok resources) => resources.crtcs = crtcs
  | _ => true

theorem readsOnly_iff {crtcs : List CrtcId} {calls : List KernelCall} :
    ReadsOnly crtcs calls ↔ ∀ call ∈ calls, call.readsOnly crtcs := by
  constructor
  · intro only call made
    cases call with
    | resourcesRead answer =>
      cases answer with
      | error cause => rfl
      | ok resources => exact decide_eq_true (only resources made)
    | _ => rfl
  · intro all resources read
    exact of_decide_eq_true (all _ read)

instance (crtcs : List CrtcId) (calls : List KernelCall) : Decidable (ReadsOnly crtcs calls) :=
  decidable_of_iff _ readsOnly_iff.symm

section Confines

variable {σ α β : Type} {crtcs : List CrtcId}

/-- That an act does what another one does as long as no other CRTCs are read, and that `P` holds
of its result in any case. -/
def Confines (crtcs : List CrtcId) (act other : Act (Traced σ) α) (P : α → Prop) : Prop :=
  ∀ t, t.calls <+: (act t).2.calls ∧ P (act t).1 ∧
    (ReadsOnly crtcs (act t).2.calls → act t = other t)

theorem confines_pure {a : α} {P : α → Prop} (h : P a) :
    Confines (σ := σ) crtcs (pure a) (pure a) P :=
  fun _ => ⟨List.prefix_rfl, h, fun _ => rfl⟩

theorem confines_bind {act other : Act (Traced σ) α} {next otherNext : α → Act (Traced σ) β}
    {P : α → Prop} {S : β → Prop} (h : Confines crtcs act other P)
    (hn : ∀ a, P a → Confines crtcs (next a) (otherNext a) S) :
    Confines crtcs (act >>= next) (other >>= otherNext) S := by
  intro t
  obtain ⟨grown, holds, same⟩ := h t
  obtain ⟨grownLater, holdsLater, sameLater⟩ := hn _ holds (act t).2
  refine ⟨grown.trans grownLater, holdsLater, fun only => ?_⟩
  have onlyBefore : ReadsOnly crtcs (act t).2.calls :=
    fun resources read => only resources (grownLater.subset read)
  change next (act t).1 (act t).2 = otherNext (other t).1 (other t).2
  rw [← same onlyBefore]
  exact sameLater only

theorem confines_watch (call : α → KernelCall) (act : Act σ α) :
    Confines crtcs (Traced.watch call act) (Traced.watch call act) fun _ => True :=
  fun _ => ⟨List.prefix_append _ _, trivial, fun _ => rfl⟩

theorem confinedMask_read {kernel : Kernel σ} {mask : UInt32} {world after : σ}
    {resources : Resources} (read : kernel.resources world = (.ok resources, after)) (count : Nat) :
    kernel.confinedMask count mask world = (.ok (.firstBits mask count), after) := by
  refine (bind_run read).trans ?_
  rfl

/-- The mask of an encoder or a plane is the kernel's own one where there are few CRTCs. -/
theorem crtcMask_read {kernel : Kernel σ} (filters : kernel.FiltersCrtcs) {mask : UInt32}
    {world after : σ} {resources : Resources} (fits : resources.crtcs.length ≤ 32)
    (distinct : resources.crtcs.Nodup) (read : kernel.resources world = (.ok resources, after)) :
    kernel.crtcMask mask world = (.ok (.firstBits mask resources.crtcs.length), after) := by
  refine (bind_run read).trans ?_
  dsimp only
  rw [filters.crtcMask?_eq fits distinct]
  rfl

theorem crtcMask_calls {kernel : Kernel σ} {t : Traced σ} {answer : Except CallError Resources}
    {after : σ} (read : kernel.resources t.world = (answer, after)) (mask : UInt32) :
    ∃ later, (kernel.traced.crtcMask mask t).2.calls =
      t.calls ++ .resourcesRead answer :: later := by
  have run : kernel.traced.crtcMask mask t = _ := bind_run (traced_read read)
  rw [run]
  cases answer with
  | error cause => exact ⟨[], rfl⟩
  | ok resources =>
    dsimp only
    cases kernel.traced.crtcMask? resources.crtcs mask with
    | some bits => exact ⟨[], rfl⟩
    | none => exact ⟨[.crashed .shiftOverflow], List.append_assoc _ _ _⟩

/-- Masks are read alike if no other CRTCs are. Else the masks may differ, but the calls show it. -/
theorem confines_crtcMask (fits : crtcs.length ≤ 32) (distinct : crtcs.Nodup)
    {kernel : Kernel σ} (filters : kernel.FiltersCrtcs) (mask : UInt32) :
    Confines crtcs (kernel.traced.crtcMask mask) (kernel.traced.confinedMask crtcs.length mask)
      fun _ => True := by
  intro t
  rcases read : kernel.resources t.world with ⟨answer, after⟩
  obtain ⟨later, calls⟩ := crtcMask_calls read mask
  refine ⟨?_, trivial, fun only => ?_⟩
  · rw [calls]
    exact List.prefix_append _ _
  cases answer with
  | error cause =>
    have unread : kernel.traced.crtcMask mask t = _ := bind_run (traced_read read)
    have otherUnread : kernel.traced.confinedMask crtcs.length mask t = _ :=
      bind_run (traced_read read)
    rw [unread, otherUnread]
  | ok resources =>
    have listed : resources.crtcs = crtcs :=
      only resources (by rw [calls]; exact List.mem_append_right _ List.mem_cons_self)
    subst listed
    have tracedFilters : kernel.traced.FiltersCrtcs := filters
    rw [crtcMask_read tracedFilters fits distinct (traced_read read),
      confinedMask_read (traced_read read)]

variable [World σ]

theorem confines_note (n : Note) :
    Confines (σ := σ) crtcs (note n) (note n) fun _ => True :=
  fun _ => ⟨List.prefix_rfl, trivial, fun _ => rfl⟩

/-- To do the same as long as no other CRTCs are read is a judgment step by step. -/
def confining (σ : Type) [World σ] (crtcs : List CrtcId) : Judgment (Traced σ) (Traced σ) where
  Holds := Confines crtcs
  pure := confines_pure
  bind := confines_bind
  note := confines_note

theorem confining_covers (fits : crtcs.length ≤ 32) (distinct : crtcs.Nodup)
    {kernel : Kernel σ} (filters : kernel.FiltersCrtcs) :
    (confining σ crtcs).Covers kernel.traced.device (kernel.traced.confined crtcs.length) := by
  rw [← kernel.traced.deviceBy_crtcMask]
  exact Judgment.covers_kernel
    (fun handle => confines_watch (.connectorRead handle) _)
    (fun handle => confines_watch (.encoderRead handle) _)
    (confines_watch .planesRead _)
    (fun handle => confines_watch (.planeRead handle) _)
    (fun object => confines_watch (.propertiesRead object) _)
    (fun handle => confines_watch (.nameRead handle) _)
    (confines_crtcMask fits distinct filters)

end Confines

theorem confines_selectOutput {σ : Type} [World σ] {kernel : Kernel σ}
    (filters : kernel.FiltersCrtcs) {crtcs : List CrtcId} (fits : crtcs.length ≤ 32)
    (distinct : crtcs.Nodup) (mode : Option String)
    (refresh : UInt32) :
    Confines crtcs (selectOutput kernel.traced.device mode refresh)
      (selectOutput (kernel.traced.confined crtcs.length) mode refresh)
      (SelectsTo fun topology => topology.crtcIndex < 32) := by
  rw [selectOutput_eq_selectAmong, selectOutput_eq_selectAmong]
  have read : Confines crtcs kernel.traced.device.resources
      (kernel.traced.confined crtcs.length).resources fun _ => True :=
    confines_watch .resourcesRead kernel.resources
  exact confines_bind read fun answer _ =>
    (confining_covers fits distinct filters).selectAmong mode refresh answer

/-- Of up to 32 distinct CRTCs the mask is the kernel's own word, as far as the list goes. So a bit
that choosing an output looks at, at the position of a CRTC, is the kernel's own bit for it, for
every encoder and every plane, and the choice is the one that the kernel's own masks lead to. -/
theorem masks_follow_kernel {σ : Type} [World σ] (kernel : Kernel σ)
    (filters : kernel.FiltersCrtcs) {crtcs : List CrtcId} (fits : crtcs.length ≤ 32)
    (distinct : crtcs.Nodup) :
    (∀ mask allowed, FilteredBy crtcs mask allowed →
      maskOf? crtcs allowed = some (.firstBits mask crtcs.length)) ∧
    (∀ mask, kernel.crtcMask? crtcs mask = some (.firstBits mask crtcs.length)) ∧
    (∀ mask index, (CrtcMask.firstBits mask crtcs.length).allows index ↔
      (∃ crtc, crtcs[index]? = some crtc) ∧ mask.toNat.testBit index) ∧
    (∀ handle info resources world told after, kernel.encoder handle world = (.ok info, told) →
      kernel.resources told = (.ok resources, after) → resources.crtcs = crtcs →
      kernel.device.encoder handle world =
        (.ok ⟨handle, info.crtc, .firstBits info.mask crtcs.length⟩, after)) ∧
    (∀ handle mask resources world told after, kernel.planeMask handle world = (.ok mask, told) →
      kernel.resources told = (.ok resources, after) → resources.crtcs = crtcs →
      kernel.device.plane handle world =
        (.ok ⟨handle, .firstBits mask crtcs.length⟩, after)) ∧
    ∀ mode refresh world,
      ReadsOnly crtcs (selectOutput kernel.traced.device mode refresh ⟨world, []⟩).2.calls →
      selectOutput kernel.traced.device mode refresh ⟨world, []⟩ =
        selectOutput (kernel.traced.confined crtcs.length) mode refresh ⟨world, []⟩ := by
  refine ⟨fun _ _ => maskOf?_eq fits distinct, filters.crtcMask?_eq fits distinct, ?_, ?_, ?_, ?_⟩
  · intro mask index
    rw [CrtcMask.firstBits_allows fits]
    refine and_congr_left fun _ => ?_
    constructor
    · intro inList
      exact ⟨_, List.getElem?_eq_getElem inList⟩
    · rintro ⟨crtc, found⟩
      exact (List.getElem?_eq_some_iff.mp found).1
  · rintro handle info resources world told after asked read rfl
    have masked : kernel.crtcMask info.mask told = _ := crtcMask_read filters fits distinct read
    exact (bind_run asked).trans (bind_run masked)
  · rintro handle mask resources world told after asked read rfl
    have masked : kernel.crtcMask mask told = _ := crtcMask_read filters fits distinct read
    exact (bind_run asked).trans (bind_run masked)
  · intro mode refresh world only
    exact (confines_selectOutput filters fits distinct mode refresh ⟨world, []⟩).2.2 only

open MemoryDisplay (encoderId) in
/-- With 32 CRTCs the whole word comes back, its top bit included. -/
theorem masks_follow_kernel_in_memory :
    let kernel := (KernelModel.singleOutput (manyCrtcs 30)).kernel
    kernel.FiltersCrtcs ∧ (manyCrtcs 30).length = 32 ∧ (manyCrtcs 30).Nodup ∧
    (∃ allowed, FilteredBy (manyCrtcs 30) 0x80000002 allowed ∧
      maskOf? (manyCrtcs 30) allowed = some ⟨0x80000002⟩) ∧
    kernel.crtcMask? (manyCrtcs 30) 0x80000002 = some ⟨0x80000002⟩ ∧
    (kernel.device.encoder encoderId .fresh).1 = .ok ⟨encoderId, none, ⟨2⟩⟩ ∧
    (kernel.device.plane ⟨40⟩ .fresh).1 = .ok ⟨⟨40⟩, ⟨1⟩⟩ ∧
    ReadsOnly (manyCrtcs 30) (selectOutput kernel.traced.device none 0 ⟨.fresh, []⟩).2.calls ∧
    selectOutput kernel.traced.device none 0 ⟨.fresh, []⟩ =
      selectOutput (kernel.traced.confined 32) none 0 ⟨.fresh, []⟩ := by
  intro kernel
  have filters := KernelModel.filtersCrtcs (.singleOutput (manyCrtcs 30))
  have length : (manyCrtcs 30).length = 32 := rfl
  have distinct : (manyCrtcs 30).Nodup := by decide +kernel
  have only : ReadsOnly (manyCrtcs 30)
      (selectOutput kernel.traced.device none 0 ⟨.fresh, []⟩).2.calls := by
    decide +kernel
  obtain ⟨made, masked, -, encoder, plane, selection⟩ :=
    masks_follow_kernel kernel filters length.le distinct
  obtain ⟨allowed, -, filtered⟩ := filters (manyCrtcs 30) 0x80000002 length.le
  refine ⟨filters, length, distinct, ⟨allowed, filtered, ?_⟩, ?_, ?_, ?_, only, ?_⟩
  · exact made _ allowed filtered
  · exact masked 0x80000002
  · have asked := encoder encoderId ⟨none, 2⟩ _ .fresh .fresh .fresh rfl rfl rfl
    exact congrArg Prod.fst asked
  · have asked := plane ⟨40⟩ 1 _ .fresh .fresh .fresh rfl rfl rfl
    exact congrArg Prod.fst asked
  · exact selection none 0 .fresh only

end Scanout
