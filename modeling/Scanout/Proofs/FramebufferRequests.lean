import Mathlib.Data.List.Basic
import Scanout.Kernel
import Scanout.Proofs.DrawRecord
import Scanout.Proofs.FirstWith

namespace Scanout

/-- One request for a framebuffer: the layout it is made of, whether the modifier counts, and what
the device answers. -/
structure FramebufferRequest where
  layout : Layout
  withModifiers : Bool
  answer : Except CallError FramebufferId

namespace FramebufferRequest

def call (request : FramebufferRequest) : Exchange :=
  .framebufferAdded request.layout request.withModifiers request.answer

def Succeeds (request : FramebufferRequest) : Prop :=
  ∃ framebuffer, request.answer = .ok framebuffer

theorem call_injective : Function.Injective call := by
  rintro ⟨layout, flag, answer⟩ ⟨other, otherFlag, otherAnswer⟩ same
  simpa [call] using same

end FramebufferRequest

namespace Layout

/-- That the modifier of a layout says something about it, which the linear one does not. -/
def Tells (layout : Layout) : Prop :=
  ∃ modifier, layout.modifier = some modifier ∧ modifier.raw ≠ 0

/-- That a layout is another's first plane alone, at offset zero and without a modifier. -/
structure FirstPlaneOf (single layout : Layout) : Prop where
  width : single.width = layout.width
  height : single.height = layout.height
  format : single.format = layout.format
  modifier : single.modifier = none
  planes : ∃ first others, layout.planes.toList = first :: others ∧
    single.planes.toList = ⟨first.handle, first.pitch, 0⟩ :: List.replicate 3 ⟨none, 0, 0⟩

variable {layout : Layout}

theorem tells_of_explicitModifier {modifier : Modifier}
    (h : layout.explicitModifier = some modifier) :
    layout.modifier = some modifier ∧ modifier.raw ≠ 0 := by
  unfold explicitModifier at h
  simpa using Option.filter_eq_some_iff.mp h

theorem not_tells_of_explicitModifier (h : layout.explicitModifier = none) : ¬layout.Tells := by
  rintro ⟨modifier, present, counts⟩
  simp [explicitModifier, present, counts] at h

theorem singlePlane_firstPlaneOf (layout : Layout) : layout.singlePlane.FirstPlaneOf layout where
  width := rfl
  height := rfl
  format := rfl
  modifier := rfl
  planes := by
    obtain ⟨_, _, _, _, ⟨⟨planes⟩, size⟩⟩ := layout
    cases planes with
    | nil => simp at size
    | cons first others => exact ⟨first, others, rfl, rfl⟩

end Layout

/-- How a framebuffer is made of a layout, by the requests for it. -/
structure FramebufferCourse (layout : Layout) (result : Except DisplayError FramebufferId)
    (requests : List FramebufferRequest) : Prop where
  /-- The modifier counts just if there is one, and then it is not the linear one. -/
  flagged : ∀ request ∈ requests,
    (request.withModifiers = true ↔ request.layout.modifier.isSome) ∧
      ∀ modifier, request.layout.modifier = some modifier → modifier.raw ≠ 0
  /-- The first request is for the whole layout, just if its modifier says something. -/
  explicit : (∃ answer, requests.head? = some ⟨layout, true, answer⟩) ↔ layout.Tells
  /-- No other request is made with a modifier, -/
  once : ∀ request ∈ requests, request.withModifiers = true →
    requests.head? = some request ∧ request.layout = layout
  /-- nor the same one again. -/
  explicitAtMostOnce : requests.countP (·.withModifiers) ≤ 1
  /-- The first plane alone is asked for once, just if no request with a modifier succeeded. -/
  legacy : requests.countP (!·.withModifiers) = 1 ↔
    ∀ request ∈ requests, request.withModifiers = true → ¬request.Succeeds
  atMostOnce : requests.countP (!·.withModifiers) ≤ 1
  firstPlane : ∀ request ∈ requests, request.withModifiers = false →
    request.layout.FirstPlaneOf layout
  made : ∀ framebuffer, result = .ok framebuffer ↔
    ∃ request, FirstWith FramebufferRequest.Succeeds requests request ∧
      request.answer = .ok framebuffer
  /-- It fails with what the device says of the first plane, just if every request failed. -/
  failed : ∀ e, result = .error e ↔ (∀ request ∈ requests, ¬request.Succeeds) ∧
    ∃ request ∈ requests, ∃ cause, request.withModifiers = false ∧
      request.answer = .error cause ∧ e = .framebufferCreateFailed cause

section Course

variable {layout : Layout} {result : Except DisplayError FramebufferId} {events : List Exchange}

/-- Where all but the last request failed, the last one decides. -/
theorem first_success_iff {earlier : List FramebufferRequest} {last : FramebufferRequest}
    (failed : ∀ request ∈ earlier, ¬request.Succeeds) (framebuffer : FramebufferId) :
    (∃ request, FirstWith FramebufferRequest.Succeeds (earlier ++ [last]) request ∧
      request.answer = .ok framebuffer) ↔ last.answer = .ok framebuffer := by
  constructor
  · rintro ⟨request, first, answered⟩
    rcases List.mem_append.mp first.mem with early | late
    · exact absurd first.holds (failed request early)
    · rwa [List.mem_singleton.mp late] at answered
  · intro answered
    exact ⟨last, ⟨earlier, [], rfl, ⟨framebuffer, answered⟩, failed⟩, answered⟩

theorem course_explicit (framebuffer : FramebufferId) (tells : layout.Tells) :
    FramebufferCourse layout (.ok framebuffer) [⟨layout, true, .ok framebuffer⟩] := by
  obtain ⟨modifier, present, counts⟩ := id tells
  exact {
    flagged := by simp [present, counts]
    explicit := by simpa using tells
    once := by simp
    explicitAtMostOnce := by simp
    legacy := by simp [FramebufferRequest.Succeeds]
    atMostOnce := by simp
    firstPlane := by simp
    made := fun other => by
      rw [show [_] = [] ++ [_] from rfl, first_success_iff (by simp)]
      simp
    failed := by simp [FramebufferRequest.Succeeds] }

/-- What the first plane alone comes to, after a request with the modifier was refused if there was
one. -/
theorem course_legacy (refused : List FramebufferRequest)
    (answer : Except CallError FramebufferId)
    (asked : layout.Tells ∧ (∃ cause, refused = [⟨layout, true, .error cause⟩]) ∨
      ¬layout.Tells ∧ refused = []) :
    FramebufferCourse layout (answer.mapError .framebufferCreateFailed)
      (refused ++ [⟨layout.singlePlane, false, answer⟩]) := by
  have single := layout.singlePlane_firstPlaneOf
  have failed : ∀ request ∈ refused, ¬request.Succeeds := by
    rcases asked with ⟨-, cause, rfl⟩ | ⟨-, rfl⟩ <;> simp [FramebufferRequest.Succeeds]
  exact {
    flagged := by
      rcases asked with ⟨⟨modifier, present, counts⟩, cause, rfl⟩ | ⟨-, rfl⟩
      · simp [single.modifier, present, counts]
      · simp [single.modifier]
    explicit := by rcases asked with ⟨tells, cause, rfl⟩ | ⟨silent, rfl⟩ <;> simp [*]
    once := by rcases asked with ⟨-, cause, rfl⟩ | ⟨-, rfl⟩ <;> simp
    explicitAtMostOnce := by rcases asked with ⟨-, cause, rfl⟩ | ⟨-, rfl⟩ <;> simp
    legacy := by
      rcases asked with ⟨-, cause, rfl⟩ | ⟨-, rfl⟩ <;> simp [FramebufferRequest.Succeeds]
    atMostOnce := by rcases asked with ⟨-, cause, rfl⟩ | ⟨-, rfl⟩ <;> simp
    firstPlane := by rcases asked with ⟨-, cause, rfl⟩ | ⟨-, rfl⟩ <;> simp [single]
    made := fun framebuffer => by
      rw [first_success_iff failed]
      cases answer <;> simp [Except.mapError]
    failed := fun e => by
      have legacy : (∃ request ∈ refused ++ [⟨layout.singlePlane, false, answer⟩], ∃ cause,
          request.withModifiers = false ∧ request.answer = .error cause ∧
            e = .framebufferCreateFailed cause) ↔
          ∃ cause, answer = .error cause ∧ e = .framebufferCreateFailed cause := by
        rcases asked with ⟨-, cause, rfl⟩ | ⟨-, rfl⟩ <;> simp
      rw [legacy, List.forall_mem_append, List.forall_mem_singleton, and_iff_right failed]
      cases answer with
      | ok framebuffer => simp [Except.mapError]
      | error cause => simpa [Except.mapError, FramebufferRequest.Succeeds] using eq_comm }

theorem FramebufferRecord.course (h : FramebufferRecord layout result events) :
    ∃ requests : List FramebufferRequest, requests.map FramebufferRequest.call = events ∧
      FramebufferCourse layout result requests := by
  cases h with
  | explicit framebuffer explicit =>
    have tells := Layout.tells_of_explicitModifier explicit
    exact ⟨[⟨layout, true, .ok framebuffer⟩], rfl, course_explicit framebuffer ⟨_, tells⟩⟩
  | legacy answer silent =>
    have mute := Layout.not_tells_of_explicitModifier silent
    exact ⟨_, rfl, course_legacy [] answer (.inr ⟨mute, rfl⟩)⟩
  | fellBack cause answer explicit =>
    have tells := Layout.tells_of_explicitModifier explicit
    exact ⟨_, rfl, course_legacy [⟨layout, true, .error cause⟩] answer
      (.inl ⟨⟨_, tells⟩, cause, rfl⟩)⟩

end Course

/-- Of a flag that says whether there is a modifier, the kernel's device stops the program only for
the modifier of an unknown layout. -/
theorem addLayout_fit {σ : Type} (kernel : Kernel σ) {layout : Layout} {withModifiers : Bool}
    (fit : withModifiers = true ↔ layout.modifier.isSome)
    (known : layout.modifier ≠ some .invalid) :
    kernel.addLayout layout withModifiers =
      kernel.addFramebuffer (.ofLayout layout withModifiers) := by
  have same : withModifiers = layout.modifier.isSome := Bool.eq_iff_iff.mpr fit
  unfold Kernel.addLayout
  simp [same, known]

section Requested

variable {σ : Type} [World σ] (device : Device σ)

/-- Making a framebuffer in a world in which every call to the device is written down. -/
def recordCreateFramebuffer (layout : Layout) (world : σ) :
    Except DisplayError FramebufferId × Recorded σ :=
  createFramebuffer device.recorded layout ⟨world, []⟩

theorem recordCreateFramebuffer_eq_createFramebuffer (layout : Layout) (world : σ) :
    ((recordCreateFramebuffer device layout world).1,
      (recordCreateFramebuffer device layout world).2.world) =
      createFramebuffer device layout world :=
  ((records_createFramebuffer device layout).fresh world).1

/-- Whatever a device answers, a framebuffer is made in the same course of requests, each of which
a device that talks to the kernel hands on, unless its modifier stands for an unknown layout. -/
theorem framebuffer_requested (layout : Layout) (world : σ) :
    ∃! requests : List FramebufferRequest,
      requests.map FramebufferRequest.call =
          (recordCreateFramebuffer device layout world).2.transcript ∧
        FramebufferCourse layout (createFramebuffer device layout world).1 requests ∧
        ∀ (τ : Type) [World τ] (kernel : Kernel τ), ∀ request ∈ requests,
          request.layout.modifier ≠ some .invalid →
            kernel.device.addFramebuffer request.layout request.withModifiers =
              kernel.addFramebuffer (.ofLayout request.layout request.withModifiers) := by
  rw [← recordCreateFramebuffer_eq_createFramebuffer]
  obtain ⟨requests, told, course⟩ :=
    ((records_createFramebuffer device layout).fresh world).2.course
  refine ⟨requests, ⟨told, course, ?_⟩, ?_⟩
  · intro τ _ kernel request made known
    exact addLayout_fit kernel (course.flagged request made).1 known
  · intro other same
    have calls := same.1.trans told.symm
    exact (List.map_inj_right fun _ _ same => FramebufferRequest.call_injective same).mp calls

end Requested

end Scanout
