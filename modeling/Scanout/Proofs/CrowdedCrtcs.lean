import Mathlib.Data.Nat.Bitwise
import Scanout.Proofs.KernelCalls
import Scanout.Proofs.ModePick
import Scanout.Proofs.SelectionWalk

namespace Scanout

section Checked

/-- A mask with the bits added of the positions where allowed CRTCs stand. -/
def maskChecked? (allowed : List CrtcId) (mask : UInt32) (index : Nat) :
    List CrtcId → Option UInt32
  | [] => some mask
  | crtc :: rest =>
    if crtc ∈ allowed then
      (bit? index).bind fun bit => maskChecked? allowed (mask ||| bit) (index + 1) rest
    else maskChecked? allowed mask (index + 1) rest

theorem maskChecked?_cons (allowed : List CrtcId) (mask : UInt32) (index : Nat) (crtc : CrtcId)
    (rest : List CrtcId) : maskChecked? allowed mask index (crtc :: rest) =
      if crtc ∈ allowed then
        (bit? index).bind fun bit => maskChecked? allowed (mask ||| bit) (index + 1) rest
      else maskChecked? allowed mask (index + 1) rest := rfl

theorem bit?_of_lt {index : Nat} (h : index < 32) :
    bit? index = some (1 <<< UInt32.ofNat index) := by
  simp [bit?, h]

theorem shifted_toNat_of_lt {index : Nat} (h : index < 32) :
    (1 <<< UInt32.ofNat index : UInt32).toNat = 2 ^ index := by
  have fits : 2 ^ index < 2 ^ 32 := Nat.pow_lt_pow_right (by decide) h
  rw [UInt32.toNat_shiftLeft, UInt32.toNat_ofNat', Nat.mod_eq_of_lt (by omega : index < 2 ^ 32),
    Nat.mod_eq_of_lt h, Nat.shiftLeft_eq, UInt32.toNat_one, Nat.one_mul, Nat.mod_eq_of_lt fits]

theorem masked_eq_zero_iff {index : Nat} (h : index < 32) (mask : UInt32) :
    (1 <<< UInt32.ofNat index) &&& mask = 0 ↔ mask.toNat.testBit index = false := by
  rw [← UInt32.toNat_inj, UInt32.toNat_and, shifted_toNat_of_lt h, Nat.and_comm,
    Nat.and_two_pow]
  cases mask.toNat.testBit index <;> simp

/-- A position past the mask is never looked up in it. -/
theorem CrtcMask.allows_eq_checked (mask : CrtcMask) (index : Nat) :
    mask.allows index = (bit? index).any fun bit => mask.bits &&& bit ≠ 0 := by
  unfold allows
  by_cases inWord : index < 32
  · have bit := masked_eq_zero_iff inWord mask.bits
    rw [UInt32.and_comm] at bit
    simp [bit?_of_lt inWord, inWord, bit]
  · simp [bit?, inWord]

theorem allowedChecked?_eq {mask : UInt32} {index : Nat} (inWord : index ≤ 32)
    (crtcs : List CrtcId) :
    allowedChecked? mask index crtcs =
      if 32 < index + crtcs.length then none
      else some (((crtcs.zipIdx index).filter fun (_, i) => mask.toNat.testBit i).map (·.1)) := by
  induction crtcs generalizing index with
  | nil => simp [allowedChecked?, inWord]
  | cons crtc rest ih =>
    unfold allowedChecked?
    by_cases last : index = 32
    · simp [last, bit?]
    · have before : index < 32 := by omega
      have length : index + (crtc :: rest).length = index + 1 + rest.length := by
        simp only [List.length_cons]
        omega
      rw [bit?_of_lt before, ih (by omega), length]
      split_ifs with crowded
      · rfl
      · have bit := masked_eq_zero_iff before mask
        cases allowed : mask.toNat.testBit index <;>
          simp_all [List.zipIdx_cons]

theorem maskChecked?_eq {allowed : List CrtcId} {mask : UInt32} {index : Nat}
    {crtcs : List CrtcId} (fits : index + crtcs.length ≤ 32) :
    maskChecked? allowed mask index crtcs =
      some ((crtcs.zipIdx index).foldl (fun mask (crtc, i) =>
        if crtc ∈ allowed then mask ||| (1 <<< UInt32.ofNat i) else mask) mask) := by
  induction crtcs generalizing mask index with
  | nil => rfl
  | cons crtc rest ih =>
    have before : index < 32 := by
      simp only [List.length_cons] at fits
      omega
    have later : index + 1 + rest.length ≤ 32 := by
      simp only [List.length_cons] at fits
      omega
    rw [maskChecked?_cons, List.zipIdx_cons, List.foldl_cons]
    by_cases held : crtc ∈ allowed
    · simp only [held, ↓reduceIte, bit?_of_lt before, Option.bind_some]
      exact ih later
    · simp only [held, ↓reduceIte]
      exact ih later

theorem foldlM_eq_maskChecked? (allowed : List CrtcId) (mask : UInt32) (index : Nat)
    (crtcs : List CrtcId) :
    ((crtcs.zipIdx index).filter (·.1 ∈ allowed)).foldlM
      (fun mask place => (bit? place.2).map (mask ||| ·)) mask =
        maskChecked? allowed mask index crtcs := by
  induction crtcs generalizing mask index with
  | nil => rfl
  | cons crtc rest ih =>
    rw [List.zipIdx_cons, maskChecked?_cons]
    by_cases held : crtc ∈ allowed
    · rw [List.filter_cons_of_pos (by simpa using held), List.foldlM_cons, if_pos held]
      cases bit? index with
      | none => rfl
      | some bit => exact ih (mask ||| bit) (index + 1)
    · rw [List.filter_cons_of_neg (by simpa using held), if_neg held]
      exact ih mask (index + 1)

/-- The mask of allowed CRTCs is the one that checked arithmetic gives, position by position. -/
theorem maskOf?_eq_checked (crtcs allowed : List CrtcId) :
    maskOf? crtcs allowed = (maskChecked? allowed 0 0 crtcs).map CrtcMask.mk :=
  congrArg (Option.map CrtcMask.mk) (foldlM_eq_maskChecked? allowed 0 0 crtcs)

/-- Where every position has a bit, no mask of allowed CRTCs is missing. -/
theorem maskOf?_isSome {crtcs : List CrtcId} (fits : crtcs.length ≤ 32) (allowed : List CrtcId) :
    ∃ mask, maskOf? crtcs allowed = some mask := by
  rw [maskOf?_eq_checked, maskChecked?_eq (by omega)]
  exact ⟨_, rfl⟩

/-- That looking for the CRTCs of a mask overflows just where a position has no bit: every position
is looked at. -/
def Kernel.ShiftsByPosition {σ : Type} (kernel : Kernel σ) : Prop :=
  ∀ crtcs mask, kernel.filterCrtcs crtcs mask = none ↔ 32 < crtcs.length

theorem KernelModel.shiftsByPosition (model : KernelModel) : model.kernel.ShiftsByPosition := by
  intro crtcs mask
  change allowedChecked? mask 0 crtcs = none ↔ _
  rw [allowedChecked?_eq (by omega), Nat.zero_add]
  split_ifs with crowded <;> simp [crowded]

/-- The mask of a list of CRTCs is missing just where the list is longer than a mask. -/
theorem Kernel.ShiftsByPosition.crtcMask?_eq_none_iff {σ : Type} {kernel : Kernel σ}
    (shifts : kernel.ShiftsByPosition) (crtcs : List CrtcId) (mask : UInt32) :
    kernel.crtcMask? crtcs mask = none ↔ 32 < crtcs.length := by
  rw [← shifts crtcs mask, Kernel.crtcMask?]
  cases filtered : kernel.filterCrtcs crtcs mask with
  | none => simp
  | some allowed =>
    have fits : ¬32 < crtcs.length := by
      rw [← shifts crtcs mask, filtered]
      exact Option.some_ne_none allowed
    obtain ⟨made, given⟩ := maskOf?_isSome (not_lt.mp fits) allowed
    simp [given]

end Checked

/-- A call that neither reads which CRTCs there are nor stops the program. -/
def KernelCall.isPlain : KernelCall → Bool
  | resourcesRead _ | crashed _ => false
  | _ => true

/-- That calls stop the program each time they read more CRTCs than a mask has bits, just then, and
else never. What follows the first stop is not reached. -/
inductive StopsCrowded : List KernelCall → Prop
  | done : StopsCrowded []
  | plain {call : KernelCall} {later : List KernelCall} : call.isPlain → StopsCrowded later →
      StopsCrowded (call :: later)
  | unread {cause : CallError} {later : List KernelCall} : StopsCrowded later →
      StopsCrowded (.resourcesRead (.error cause) :: later)
  | fitting {resources : Resources} {later : List KernelCall} : resources.crtcs.length ≤ 32 →
      StopsCrowded later → StopsCrowded (.resourcesRead (.ok resources) :: later)
  | crowded {resources : Resources} {later : List KernelCall} : 32 < resources.crtcs.length →
      StopsCrowded later →
      StopsCrowded (.resourcesRead (.ok resources) :: .crashed .shiftOverflow :: later)

namespace StopsCrowded

variable {calls later : List KernelCall}

theorem append (h : StopsCrowded calls) (hl : StopsCrowded later) :
    StopsCrowded (calls ++ later) := by
  induction h with
  | done => exact hl
  | plain quiet _ ih => exact .plain quiet ih
  | unread _ ih => exact .unread ih
  | fitting fits _ ih => exact .fitting fits ih
  | crowded many _ ih => exact .crowded many ih

theorem stops_iff (h : StopsCrowded calls) :
    (∃ crash, .crashed crash ∈ calls) ↔
      ∃ resources, .resourcesRead (.ok resources) ∈ calls ∧ 32 < resources.crtcs.length := by
  induction h with
  | done => simp
  | @plain call _ quiet _ ih =>
    cases call with
    | resourcesRead _ => cases quiet
    | crashed _ => cases quiet
    | _ => simpa using ih
  | unread _ ih => simpa using ih
  | @fitting resources _ fits _ ih =>
    have notMany : ¬32 < resources.crtcs.length := by omega
    simpa [or_and_right, exists_or, notMany] using ih
  | @crowded resources later many _ _ =>
    have crashes : .crashed .shiftOverflow ∈
        KernelCall.resourcesRead (.ok resources) :: .crashed .shiftOverflow :: later :=
      List.mem_cons_of_mem _ List.mem_cons_self
    exact ⟨fun _ => ⟨resources, List.mem_cons_self, many⟩, fun _ => ⟨_, crashes⟩⟩

theorem crash_eq (h : StopsCrowded calls) {crash : Crash} (stops : .crashed crash ∈ calls) :
    crash = .shiftOverflow := by
  induction h with
  | done => simp at stops
  | @plain call _ quiet _ ih =>
    rcases List.mem_cons.mp stops with rfl | later
    · cases quiet
    · exact ih later
  | unread _ ih => exact ih (by simpa using stops)
  | fitting _ _ ih => exact ih (by simpa using stops)
  | crowded _ _ ih =>
    simp only [List.mem_cons, reduceCtorEq, KernelCall.crashed.injEq, false_or] at stops
    exact stops.elim id ih

end StopsCrowded

section Traces

variable {σ α β : Type}

/-- That an act makes calls of the kernel that stop the program just where the CRTCs are too many,
and that `P` holds of its result. -/
def Traces (act : Act (Traced σ) α) (plain : Act σ α) (P : α → Prop) : Prop :=
  ∀ t, ∃ added, act t = ((plain t.world).1, ⟨(plain t.world).2, t.calls ++ added⟩) ∧
    StopsCrowded added ∧ P (plain t.world).1

theorem traces_pure {a : α} {P : α → Prop} (h : P a) :
    Traces (σ := σ) (pure a) (pure a) P := by
  intro t
  refine ⟨[], ?_, .done, h⟩
  rw [List.append_nil]
  rfl

theorem traces_bind {act : Act (Traced σ) α} {plain : Act σ α} {next : α → Act (Traced σ) β}
    {plainNext : α → Act σ β} {P : α → Prop} {S : β → Prop} (h : Traces act plain P)
    (hn : ∀ a, P a → Traces (next a) (plainNext a) S) :
    Traces (act >>= next) (plain >>= plainNext) S := by
  intro t
  obtain ⟨added, he, hstops, hp⟩ := h t
  obtain ⟨later, hl, hstopsLater, hs⟩ := hn _ hp ⟨(plain t.world).2, t.calls ++ added⟩
  refine ⟨added ++ later, ?_, hstops.append hstopsLater, hs⟩
  change next (act t).1 (act t).2 = _
  rw [he, hl, List.append_assoc]
  rfl

theorem traces_watch (call : α → KernelCall) (h : ∀ a, (call a).isPlain) (act : Act σ α) :
    Traces (Traced.watch call act) act fun _ => True :=
  fun _ => ⟨_, rfl, .plain (h _) .done, trivial⟩

theorem traced_read {kernel : Kernel σ} {t : Traced σ} {answer : Except CallError Resources}
    {after : σ} (read : kernel.resources t.world = (answer, after)) :
    kernel.traced.resources t = (answer, ⟨after, t.calls ++ [.resourcesRead answer]⟩) := by
  simp only [Kernel.traced, Traced.watch, read]

/-- The mask of an encoder or a plane is where the program stops. -/
theorem traces_crtcMask {kernel : Kernel σ} (shifts : kernel.ShiftsByPosition) (mask : UInt32) :
    Traces (kernel.traced.crtcMask mask) (kernel.crtcMask mask) fun _ => True := by
  intro t
  rcases read : kernel.resources t.world with ⟨answer, after⟩
  have traced : kernel.traced.crtcMask mask t = _ := bind_run (traced_read read)
  have plain : kernel.crtcMask mask t.world = _ := bind_run read
  rw [traced, plain]
  cases answer with
  | error cause => exact ⟨[.resourcesRead (.error cause)], rfl, .unread .done, trivial⟩
  | ok resources =>
    have same : kernel.traced.crtcMask? resources.crtcs mask =
        kernel.crtcMask? resources.crtcs mask := rfl
    dsimp only
    rw [same]
    cases masked : kernel.crtcMask? resources.crtcs mask with
    | none =>
      have crowded := (shifts.crtcMask?_eq_none_iff _ mask).mp masked
      refine ⟨[.resourcesRead (.ok resources)] ++ [.crashed .shiftOverflow], ?_,
        .crowded crowded .done, trivial⟩
      rw [← List.append_assoc]
      rfl
    | some bits =>
      have fits : ¬32 < resources.crtcs.length := by
        rw [← shifts.crtcMask?_eq_none_iff _ mask, masked]
        exact Option.some_ne_none bits
      exact ⟨[.resourcesRead (.ok resources)], rfl, .fitting (not_lt.mp fits) .done, trivial⟩

variable [World σ]

theorem traces_note (n : Note) : Traces (σ := σ) (note n) (note n) fun _ => True := by
  intro t
  refine ⟨[], ?_, .done, trivial⟩
  rw [List.append_nil]
  rfl

/-- To stop just where the CRTCs are too many is a judgment step by step. -/
def tracing : Judgment (Traced σ) σ where
  Holds := Traces
  pure := traces_pure
  bind := traces_bind
  note := traces_note

theorem tracing_covers {kernel : Kernel σ} (shifts : kernel.ShiftsByPosition) :
    tracing.Covers kernel.traced.device kernel.device := by
  rw [← kernel.deviceBy_crtcMask, ← kernel.traced.deviceBy_crtcMask]
  exact Judgment.covers_kernel
    (fun handle => traces_watch (.connectorRead handle) (fun _ => rfl) _)
    (fun handle => traces_watch (.encoderRead handle) (fun _ => rfl) _)
    (traces_watch .planesRead (fun _ => rfl) _)
    (fun handle => traces_watch (.planeRead handle) (fun _ => rfl) _)
    (fun object => traces_watch (.propertiesRead object) (fun _ => rfl) _)
    (fun handle => traces_watch (.nameRead handle) (fun _ => rfl) _)
    (traces_crtcMask shifts)

end Traces

/-- Choosing an output only overflows where a mask is made of more CRTCs than it has bits, which
always stops the program. What else is computed fits: a position past the mask is not looked up in
it, and an area has room in its word. So a CRTC without a bit is never chosen. -/
theorem selection_overflows_iff {σ : Type} [World σ] (kernel : Kernel σ)
    (shifts : kernel.ShiftsByPosition) (mode : Option String) (refresh : UInt32) (world : σ) :
    (∃ answer later,
      selectOutput kernel.traced.device mode refresh ⟨world, []⟩ =
        ((selectOutput kernel.device mode refresh world).1,
          ⟨(selectOutput kernel.device mode refresh world).2, .resourcesRead answer :: later⟩) ∧
      StopsCrowded later ∧ (∀ crash, .crashed crash ∈ later → crash = .shiftOverflow) ∧
      ((∃ crash, .crashed crash ∈ later) ↔
        ∃ resources, .resourcesRead (.ok resources) ∈ later ∧ 32 < resources.crtcs.length)) ∧
    (∀ topology, (selectOutput kernel.device mode refresh world).1 = .ok topology →
      topology.crtcIndex < 32) ∧
    (∀ crtcs mask, kernel.crtcMask? crtcs mask =
      (kernel.filterCrtcs crtcs mask).bind fun allowed =>
        (maskChecked? allowed 0 0 crtcs).map CrtcMask.mk) ∧
    (∀ crtcs mask, kernel.crtcMask? crtcs mask = none ↔ 32 < crtcs.length) ∧
    (∀ (mask : CrtcMask) index,
      mask.allows index = (bit? index).any fun bit => mask.bits &&& bit ≠ 0) ∧
    ∀ mode : Mode, mode.area.toNat = mode.width.toNat * mode.height.toNat := by
  rcases read : kernel.resources world with ⟨answer, after⟩
  have traces : Traces _ _ _ := (tracing_covers shifts).selectAmong mode refresh answer
  obtain ⟨later, run, stops, result⟩ := traces ⟨after, [.resourcesRead answer]⟩
  have plain : selectOutput kernel.device mode refresh world =
      selectAmong kernel.device mode refresh answer after := by
    rw [selectOutput_eq_selectAmong]
    exact bind_run read
  have traced : selectOutput kernel.traced.device mode refresh ⟨world, []⟩ =
      selectAmong kernel.traced.device mode refresh answer ⟨after, [.resourcesRead answer]⟩ := by
    rw [selectOutput_eq_selectAmong]
    refine bind_run ?_
    change Traced.watch .resourcesRead kernel.resources ⟨world, []⟩ = _
    simp [Traced.watch, read]
  rw [plain, traced, run]
  refine ⟨⟨answer, later, rfl, stops, fun _ => stops.crash_eq, stops.stops_iff⟩, ?_, ?_,
    shifts.crtcMask?_eq_none_iff, CrtcMask.allows_eq_checked, Mode.area_toNat⟩
  · intro topology chosen
    rw [chosen] at result
    exact result
  · intro crtcs mask
    exact congrArg (Option.bind _) (funext (maskOf?_eq_checked crtcs))

def KernelCall.isCrash : KernelCall → Bool
  | crashed _ => true
  | _ => false

theorem KernelCall.exists_crash {calls : List KernelCall} (h : calls.any isCrash = true) :
    ∃ crash, .crashed crash ∈ calls := by
  obtain ⟨call, made, crashes⟩ := List.any_eq_true.mp h
  cases call with
  | crashed crash => exact ⟨crash, made⟩
  | _ => cases crashes

/-- The CRTCs of the device in memory, before others that none of its encoders and planes fit. -/
def manyCrtcs (count : Nat) : List CrtcId :=
  [⟨30⟩, ⟨31⟩] ++ (List.range count).map fun i => ⟨UInt32.ofNat (100 + i)⟩

/-- One CRTC more than a mask has bits for stops the program, although it would not be chosen. -/
theorem selection_overflows_in_memory :
    (∃ topology, (selectOutput (KernelModel.singleOutput (manyCrtcs 30)).kernel.device none 0
      .fresh).1 = .ok topology ∧ topology.crtc = ⟨31⟩ ∧ topology.crtcIndex = 1) ∧
    ∃ crash, .crashed crash ∈
      (selectOutput (KernelModel.singleOutput (manyCrtcs 31)).kernel.traced.device none 0
        ⟨.fresh, []⟩).2.calls := by
  have chosen : ((selectOutput (KernelModel.singleOutput (manyCrtcs 30)).kernel.device none 0
      .fresh).1.toOption.any fun topology =>
        topology.crtc = ⟨31⟩ ∧ topology.crtcIndex = 1) = true := by
    decide +kernel
  have stopped : ((selectOutput (KernelModel.singleOutput (manyCrtcs 31)).kernel.traced.device
      none 0 ⟨.fresh, []⟩).2.calls.any KernelCall.isCrash) = true := by
    decide +kernel
  constructor
  · obtain ⟨topology, given, rest⟩ := (Option.any_eq_true _ _).mp chosen
    exact ⟨topology, ok_of_toOption given, of_decide_eq_true rest⟩
  · exact KernelCall.exists_crash stopped

/-- The crash in memory comes of a list of CRTCs that was read, and no mask is made of that list. -/
theorem selection_overflows_iff_in_memory :
    let kernel := (KernelModel.singleOutput (manyCrtcs 31)).kernel
    kernel.ShiftsByPosition ∧
    (∃ answer later, (selectOutput kernel.traced.device none 0 ⟨.fresh, []⟩).2.calls =
        .resourcesRead answer :: later ∧ StopsCrowded later ∧
      ∃ resources, .resourcesRead (.ok resources) ∈ later ∧ 32 < resources.crtcs.length) ∧
    kernel.crtcMask? (manyCrtcs 31) 2 = none := by
  intro kernel
  have shifts := KernelModel.shiftsByPosition (.singleOutput (manyCrtcs 31))
  have stopped : ((selectOutput kernel.traced.device none 0 ⟨.fresh, []⟩).2.calls.any
      KernelCall.isCrash) = true := by
    decide +kernel
  obtain ⟨⟨answer, later, run, stops, -, crashes_iff⟩, -, -, missing_iff, -⟩ :=
    selection_overflows_iff kernel shifts none 0 .fresh
  refine ⟨shifts, ⟨answer, later, by rw [run], stops, crashes_iff.mp ?_⟩,
    (missing_iff (manyCrtcs 31) 2).mpr (by decide)⟩
  rw [run, List.any_cons, show (KernelCall.resourcesRead answer).isCrash = false from rfl,
    Bool.false_or] at stopped
  exact KernelCall.exists_crash stopped

end Scanout
