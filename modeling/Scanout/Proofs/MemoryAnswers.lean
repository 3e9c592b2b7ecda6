import Scanout.Memory.Display
import Scanout.Memory.Drawing
import Scanout.Proofs.BufferLog
import Scanout.Proofs.KeptByCalls

namespace Scanout

open MemoryDisplay (inFenceProperty)

namespace Exchange

/-- The event that a call leaves in the log of the world in memory. -/
def memoryEvent? : Exchange → Option MemoryEvent
  | rendered _ frame (.ok _) => some (.render frame)
  | framebufferAdded layout withModifiers _ => some (.addFramebuffer layout withModifiers)
  | blobCreated _ (.ok blob) => some (.createBlob blob)
  | blobDestroyed blob _ => some (.destroyBlob blob)
  | submitted txn (.ok _) =>
    some (.commit (txn.flags.contains .allowModeset)
      (txn.assignments.any (·.property == inFenceProperty)) txn.outFence.isSome)
  | submitted txn (.error _) => some (.rejected (txn.flags.contains .allowModeset))
  | released buffer => some (.release buffer.id)
  | waited _ _ => some .wait
  | gpuWaited _ _ => some .gpuWait
  | _ => none

/-- How the device with one output answers, with a renderer that fails at a frame, while so many
submissions are still to be rejected. -/
def AnsweredInMemory (failing rejections : Nat) : Exchange → Prop
  | rendered _ frame (.ok _) => frame ≠ failing
  | rendered _ frame (.error _) => frame = failing
  | framebufferAdded _ _ answer | blobCreated _ answer => answer.isOk
  | submitted txn (.ok outFence) => rejections = 0 ∧ outFence.isSome = txn.outFence.isSome
  | submitted _ (.error cause) => 0 < rejections ∧ cause = .busy
  | waited _ answer => answer = .ok ()
  | polled stop => stop = false
  | _ => True

end Exchange

/-- How many submissions there were. -/
def submissions (events : List Exchange) : Nat :=
  events.countP (·.isSubmission)

/-- That some calls are answered in memory one after the other. -/
def AnsweredInMemory (failing : Nat) : Nat → List Exchange → Prop
  | _, [] => True
  | rejections, e :: later =>
    e.AnsweredInMemory failing rejections ∧
      AnsweredInMemory failing (rejections - submissions [e]) later

@[simp] theorem submissions_append (events later : List Exchange) :
    submissions (events ++ later) = submissions events + submissions later :=
  List.countP_append

theorem submissions_cons (e : Exchange) (later : List Exchange) :
    submissions (e :: later) = submissions [e] + submissions later :=
  submissions_append [e] later

theorem answeredInMemory_append {failing rejections : Nat} {events later : List Exchange} :
    AnsweredInMemory failing rejections (events ++ later) ↔
      AnsweredInMemory failing rejections events ∧
        AnsweredInMemory failing (rejections - submissions events) later := by
  induction events generalizing rejections with
  | nil => simp [AnsweredInMemory, submissions]
  | cons e rest ih =>
    rw [submissions_cons, ← Nat.sub_sub]
    simp [AnsweredInMemory, ih, and_assoc]

/-- What a call does to the world in memory: its event in the log, and the counts. -/
structure Exchange.StepsInMemory (failing : Nat) (e : Exchange) (m m' : Memory) : Prop where
  events : m'.events = m.events ++ e.memoryEvent?.toList
  added : m'.added = m.added + [e].countP (·.asksFramebuffer)
  rejections : m'.rejections = m.rejections - submissions [e]
  answered : e.AnsweredInMemory failing m.rejections

namespace Memory

/-- That a transcript accounts for what happened to the world in memory since some start. -/
structure Accounted (failing : Nat) (start : Memory) (r : Recorded Memory) : Prop where
  events : r.world.events = start.events ++ r.transcript.filterMap Exchange.memoryEvent?
  added : r.world.added = start.added + r.transcript.countP (·.asksFramebuffer)
  rejections : r.world.rejections = start.rejections - submissions r.transcript
  answered : AnsweredInMemory failing start.rejections r.transcript

variable {failing : Nat} {start : Memory} {α : Type}

theorem accounted_start (m : Memory) : Accounted failing m ⟨m, []⟩ :=
  ⟨by simp, by simp, by simp [submissions], trivial⟩

theorem Accounted.step {r : Recorded Memory} (h : Accounted failing start r) {e : Exchange}
    {m : Memory} (step : e.StepsInMemory failing r.world m) :
    Accounted failing start ⟨m, r.transcript ++ [e]⟩ where
  events := by
    rw [step.events, h.events, List.filterMap_append, List.append_assoc]
    cases he : e.memoryEvent? <;> simp [he]
  added := by rw [step.added, h.added, List.countP_append, Nat.add_assoc]
  rejections := by rw [step.rejections, h.rejections, submissions_append, Nat.sub_sub]
  answered := by
    refine answeredInMemory_append.mpr ⟨h.answered, ?_, trivial⟩
    rw [← h.rejections]
    exact step.answered

theorem accounted_watch {act : Act Memory α} {exchange : α → Exchange}
    (h : ∀ m, (exchange (act m).1).StepsInMemory failing m (act m).2) :
    Preserves (Accounted failing start) (Recorded.watch exchange act) :=
  fun r hr => hr.step (h r.world)

theorem accounted_standing : Standing (Accounted failing start) where
  logged _ _ h := ⟨h.events, h.added, h.rejections, h.answered⟩
  timed _ h := ⟨h.events, h.added, h.rejections, h.answered⟩
  closed fence r h :=
    h.step (e := .closed fence) (m := World.close fence r.world)
      ⟨(List.append_nil _).symm, rfl, rfl, trivial⟩

/-- The collaborators of a run in memory, whose renderer fails at a frame. -/
def collaborators (planes failing : Nat) : Collaborators Memory where
  device := MemoryDisplay.singleOutput.device
  allocator := (MemoryAllocator.plain.withPlanes planes).allocator
  renderer := (MemoryRenderer.plain.failingAt failing).renderer
  waiter := waiter

theorem commit_rejected {m : Memory} (left : 0 < m.rejections) (txn : Transaction) :
    MemoryDisplay.commit txn m = (.error .busy,
      { m with
        rejections := m.rejections - 1
        events := m.events ++ [.rejected (txn.flags.contains .allowModeset)] }) :=
  congrFun (if_pos left) m

theorem commit_accepted {m : Memory} (none : m.rejections = 0) (txn : Transaction) :
    ∃ outFence m', MemoryDisplay.commit txn m = (.ok outFence, m') ∧
      outFence.isSome = txn.outFence.isSome ∧ m'.rejections = 0 ∧ m'.added = m.added ∧
      m'.events = m.events ++ [.commit (txn.flags.contains .allowModeset)
        (txn.assignments.any (·.property == inFenceProperty)) txn.outFence.isSome] := by
  have unrefused : ¬ 0 < m.rejections := by omega
  obtain ⟨flags, assignments, _ | place⟩ := txn
  · exact ⟨.none, _, congrFun (if_neg unrefused) m, rfl, none, rfl, rfl⟩
  · exact ⟨some _, _, congrFun (if_neg unrefused) m, rfl, none, rfl, rfl⟩

theorem stepsInMemory_commit (txn : Transaction) (m : Memory) :
    (Exchange.submitted txn (MemoryDisplay.commit txn m).1).StepsInMemory failing m
      (MemoryDisplay.commit txn m).2 := by
  rcases Nat.eq_zero_or_pos m.rejections with none | left
  · obtain ⟨outFence, m', given, asked, left, added, events⟩ := commit_accepted none txn
    rw [given]
    exact ⟨events, added, by rw [left, none]; rfl, none, asked⟩
  · rw [commit_rejected left]
    exact ⟨rfl, rfl, rfl, left, rfl⟩

theorem stepsInMemory_render (target : RenderTarget) (frame : Nat) (m : Memory) :
    let drawn := (MemoryRenderer.plain.failingAt failing).renderer.render target frame m
    (Exchange.rendered target frame drawn.1).StepsInMemory failing m drawn.2 := by
  by_cases fails : frame = failing
  · have undrawn : (MemoryRenderer.plain.failingAt failing).renderer.render target frame m =
        (.error (.of "context lost"), m) :=
      congrFun (if_pos (congrArg some fails.symm)) m
    rw [undrawn]
    exact ⟨(List.append_nil _).symm, rfl, rfl, fails⟩
  · have others : some failing ≠ some frame := fun same => fails (Option.some.inj same).symm
    have drawn : ∃ fence m',
        (MemoryRenderer.plain.failingAt failing).renderer.render target frame m =
          (.ok fence, m') ∧ m'.events = m.events ++ [.render frame] ∧ m'.added = m.added ∧
          m'.rejections = m.rejections :=
      ⟨_, _, congrFun (if_neg others) m, rfl, rfl, rfl⟩
    obtain ⟨fence, m', given, events, added, rejections⟩ := drawn
    rw [given]
    exact ⟨events, added, rejections, fails⟩

theorem accounted_uphold (planes : Nat) (ring : Nat → Option Buffer) :
    (collaborators planes failing).recorded.Uphold (Accounted failing start) ring where
  toStanding := accounted_standing
  blobCreated mode := accounted_watch fun m => ⟨rfl, rfl, rfl, rfl⟩
  blobDestroyed blob := accounted_watch fun m => ⟨rfl, rfl, rfl, trivial⟩
  framebufferAdded layout withModifiers :=
    accounted_watch fun m => by cases withModifiers <;> exact ⟨rfl, rfl, rfl, rfl⟩
  committed txn := accounted_watch (stepsInMemory_commit txn)
  released buffer := accounted_watch fun m => ⟨rfl, rfl, rfl, trivial⟩
  gpuWaited fence := accounted_watch fun m => ⟨rfl, rfl, rfl, trivial⟩
  drawn slot buffer frame _ := accounted_watch (stepsInMemory_render (.slot slot buffer) frame)
  waited fence := accounted_watch fun m => ⟨rfl, rfl, rfl, rfl⟩

theorem accounted_polled :
    Preserves (Accounted failing start) (Recorded.watch .polled (stopAfter none)) :=
  accounted_watch fun _ => ⟨(List.append_nil _).symm, rfl, rfl, rfl⟩

/-- What a run in memory adds to the transcript accounts for what it does to the world. -/
theorem accounted_run (planes failing patience : Nat) (budget : Option Nat) {p : Pipeline}
    {ring : Nat → Option Buffer} (hr : p.pool.HasRing ring) (m : Memory) :
    Accounted failing m (p.run (collaborators planes failing).recorded
      (Recorded.watch .polled (stopAfter none)) patience budget ⟨m, []⟩).2 :=
  (accounted_uphold planes ring).run accounted_polled patience budget hr _ (accounted_start m)

end Memory

end Scanout
