import Scanout.Proofs.Custody

namespace Scanout

/-- A framebuffer that was made, of which buffer, and where that has its place: in a slot of the
ring, or by its number in a surface. -/
structure MadeFramebuffer where
  place : Nat
  buffer : Buffer
  framebuffer : FramebufferId
deriving DecidableEq, Repr

namespace Exchange

/-- The buffer that a frame gets to show, with its place: one of the ring once it is drawn into, or
one that is taken out of a surface. -/
def presents? : Exchange → Option (Nat × Buffer)
  | rendered (.slot slot buffer) _ (.ok _) => some (slot, buffer)
  | locked _ (.ok buffer) => some (buffer.id, buffer)
  | _ => none

def asksFramebuffer : Exchange → Bool
  | framebufferAdded _ _ _ => true
  | _ => false

/-- Whether an exchange has nothing to do with which buffer is shown, nor with framebuffers. -/
def isAside : Exchange → Bool
  | called _ | polled _ | rendered (.slot _ _) _ (.ok _) | locked _ (.ok _)
  | framebufferAdded _ _ _ | framebufferRemoved _ _ => false
  | _ => true

theorem of_aside {e : Exchange} (h : e.isAside = true) :
    e.isMark = false ∧ framebuffers.Idle e ∧ e.asksFramebuffer = false := by
  cases e <;> simp_all [isAside, isMark, Custody.Idle, framebuffers, asksFramebuffer]

theorem aside_unmarked {e : Exchange} (h : e.isAside = true) : e.isMark = false :=
  (of_aside h).1

theorem aside_idle {e : Exchange} (h : e.isAside = true) : framebuffers.Idle e :=
  (of_aside h).2.1

theorem unasked_of_aside {e : Exchange} (h : e.isAside = true) : e.asksFramebuffer = false :=
  (of_aside h).2.2

theorem unshown_of_aside {e : Exchange} (h : e.isAside = true) : e.presents? = none := by
  unfold isAside at h
  split at h <;> simp_all [presents?]

theorem aside_of_setUp {e : Exchange} (h : e.isSetUp = true) : e.isAside = true := by
  cases e <;> simp_all [isSetUp, isAside]

theorem of_presents {e : Exchange} {shown : Nat × Buffer} (h : e.presents? = some shown) :
    e.isMark = false ∧ framebuffers.Idle e ∧ e.isSetUp = false ∧ e.inFrame = true ∧
      e.asksFramebuffer = false := by
  cases e <;> simp_all [presents?, isMark, Custody.Idle, framebuffers, isSetUp, inFrame,
    asksFramebuffer]

theorem unmarked_of_presents {e : Exchange} {shown : Nat × Buffer}
    (h : e.presents? = some shown) : e.isMark = false :=
  (of_presents h).1

theorem idle_of_presents {e : Exchange} {shown : Nat × Buffer} (h : e.presents? = some shown) :
    framebuffers.Idle e :=
  (of_presents h).2.1

theorem unready_of_presents {e : Exchange} {shown : Nat × Buffer}
    (h : e.presents? = some shown) : e.isSetUp = false :=
  (of_presents h).2.2.1

theorem inFrame_of_presents {e : Exchange} {shown : Nat × Buffer}
    (h : e.presents? = some shown) : e.inFrame = true :=
  (of_presents h).2.2.2.1

theorem presents_of_asks {e : Exchange} (h : e.asksFramebuffer = true) : e.presents? = none := by
  cases presents : e.presents? with
  | none => rfl
  | some shown => simp [(of_presents presents).2.2.2.2] at h

end Exchange

/-- What a transcript says of buffers: the one that the frame has got to show, and the framebuffers
that were made. -/
structure BufferLog where
  inHand : Option (Nat × Buffer)
  made : List MadeFramebuffer
deriving DecidableEq, Repr

namespace BufferLog

/-- A new framebuffer is one of the buffer in hand. -/
def noting (log : BufferLog) (framebuffer : FramebufferId) : BufferLog :=
  { log with made := log.made ++
      (log.inHand.map fun (place, buffer) => ⟨place, buffer, framebuffer⟩).toList }

def see (log : BufferLog) (e : Exchange) : BufferLog :=
  match framebuffers.taken? e with
  | some framebuffer => log.noting framebuffer
  | none => if e.isMark then { log with inHand := none }
      else { log with inHand := e.presents? <|> log.inHand }

def seeing (log : BufferLog) (events : List Exchange) : BufferLog :=
  events.foldl see log

variable {log : BufferLog} {events : List Exchange}

@[simp] theorem seeing_nil : log.seeing [] = log := rfl

@[simp] theorem seeing_cons (e : Exchange) :
    log.seeing (e :: events) = (log.see e).seeing events := rfl

@[simp] theorem seeing_append (later : List Exchange) :
    log.seeing (events ++ later) = (log.seeing events).seeing later :=
  List.foldl_append

theorem seeing_aside (h : ∀ e ∈ events, e.isAside = true) : log.seeing events = log := by
  induction events with
  | nil => rfl
  | cons e rest ih =>
    have aside := h e List.mem_cons_self
    have same : log.see e = log := by
      simp [see, (Exchange.aside_idle aside).1, Exchange.aside_unmarked aside,
        Exchange.unshown_of_aside aside]
    rw [seeing_cons, same]
    exact ih fun x hx => h x (List.mem_cons_of_mem e hx)

theorem see_mark {e : Exchange} (h : e.isMark = true) :
    log.see e = { log with inHand := none } := by
  have untaken : framebuffers.taken? e = none := by
    cases e <;> simp_all [Exchange.isMark, framebuffers]
  simp [see, untaken, h]

theorem see_presenting {e : Exchange} {shown : Nat × Buffer} (h : e.presents? = some shown) :
    log.see e = { log with inHand := some shown } := by
  simp [see, (Exchange.idle_of_presents h).1, Exchange.unmarked_of_presents h, h]

end BufferLog

def bufferLog (events : List Exchange) : BufferLog :=
  BufferLog.seeing ⟨none, []⟩ events

@[simp] theorem bufferLog_append (events later : List Exchange) :
    bufferLog (events ++ later) = (bufferLog events).seeing later :=
  BufferLog.seeing_append later

namespace FramebufferRecord

variable {layout : Layout} {result : Except DisplayError FramebufferId} {log : BufferLog}
  {added sofar later : List Exchange}

/-- Where a framebuffer is asked for, it is one of the layout or of its first plane, and none was
made before. -/
theorem at_ask {e : Exchange} (h : FramebufferRecord layout result (sofar ++ e :: later)) :
    log.seeing sofar = log ∧ ∃ asked withModifiers answer,
      e = .framebufferAdded asked withModifiers answer ∧
        (asked = layout ∨ asked = layout.singlePlane) := by
  generalize ha : sofar ++ e :: later = added at h
  cases h with
  | explicit framebuffer _ =>
    obtain ⟨rfl, rfl, -⟩ := split_head ha.symm (by simp)
    exact ⟨rfl, _, _, _, rfl, .inl rfl⟩
  | legacy answer _ =>
    obtain ⟨rfl, rfl, -⟩ := split_head ha.symm (by simp)
    exact ⟨rfl, _, _, _, rfl, .inr rfl⟩
  | fellBack cause answer _ =>
    cases sofar with
    | nil =>
      obtain ⟨rfl, -⟩ := List.cons.inj ha
      exact ⟨rfl, _, _, _, rfl, .inl rfl⟩
    | cons first sofar =>
      obtain ⟨rfl, hr⟩ := List.cons.inj ha
      obtain ⟨rfl, rfl, -⟩ := split_head hr.symm (by simp)
      exact ⟨rfl, _, _, _, rfl, .inr rfl⟩

theorem asks (h : FramebufferRecord layout result added) :
    added ≠ [] ∧ ∀ e ∈ added, e.asksFramebuffer = true := by
  cases h <;> simp [Exchange.asksFramebuffer]

theorem last (h : FramebufferRecord layout result added) :
    ∃ refused asked withModifiers answer,
      added = refused ++ [.framebufferAdded asked withModifiers answer] ∧
        result = answer.mapError .framebufferCreateFailed := by
  cases h with
  | explicit framebuffer _ => exact ⟨[], _, _, .ok framebuffer, rfl, rfl⟩
  | legacy answer _ => exact ⟨[], _, _, answer, rfl, rfl⟩
  | fellBack cause answer _ => exact ⟨[_], _, _, answer, rfl, rfl⟩

theorem seeing_error {e : DisplayError} (h : FramebufferRecord layout (.error e) added) :
    log.seeing added = log := by
  obtain ⟨refused, asked, withModifiers, answer, rfl, hr⟩ := h.last
  cases answer with
  | ok _ => simp [Except.mapError] at hr
  | error cause =>
    rw [BufferLog.seeing_append, h.at_ask.1]
    rfl

theorem seeing_ok {framebuffer : FramebufferId}
    (h : FramebufferRecord layout (.ok framebuffer) added) :
    log.seeing added = log.noting framebuffer := by
  obtain ⟨refused, asked, withModifiers, answer, rfl, hr⟩ := h.last
  cases answer with
  | error _ => simp [Except.mapError] at hr
  | ok made =>
    obtain rfl : framebuffer = made := by simpa [Except.mapError] using hr
    rw [BufferLog.seeing_append, h.at_ask.1]
    rfl

theorem takenIn (h : FramebufferRecord layout result added) :
    framebuffers.takenIn added = result.toOption.toList ∧ framebuffers.givenIn added = [] := by
  cases h with
  | explicit => exact ⟨rfl, rfl⟩
  | legacy answer => cases answer <;> exact ⟨rfl, rfl⟩
  | fellBack cause answer => cases answer <;> exact ⟨rfl, rfl⟩

end FramebufferRecord

end Scanout
