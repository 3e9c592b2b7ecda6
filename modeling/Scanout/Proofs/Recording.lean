import Scanout.Proofs.Transcript

namespace Scanout

variable {σ α β : Type}

/-- That `act` does in a recorded world what `plain` does in the world itself, and that `R` holds
of its result and of what it adds to the transcript. -/
def Records (act : Act (Recorded σ) α) (plain : Act σ α) (R : α → List Exchange → Prop) : Prop :=
  ∀ r, ∃ added, act r = ((plain r.world).1, ⟨(plain r.world).2, r.transcript ++ added⟩) ∧
    R (plain r.world).1 added

theorem Records.mono {act : Act (Recorded σ) α} {plain : Act σ α} {R S : α → List Exchange → Prop}
    (h : Records act plain R) (hs : ∀ a added, R a added → S a added) : Records act plain S := by
  intro r
  obtain ⟨added, he, hr⟩ := h r
  exact ⟨added, he, hs _ _ hr⟩

/-- What is known of an act, where it was called and has given its result. -/
theorem Records.ended {act : Act (Recorded σ) α} {plain : Act σ α} {R : α → List Exchange → Prop}
    (h : Records act plain R) {r s : Recorded σ} {a : α} (he : act r = (a, s)) :
    ∃ added, s.transcript = r.transcript ++ added ∧ R a added := by
  obtain ⟨added, given, hr⟩ := h r
  rw [he] at given
  obtain ⟨rfl, rfl⟩ := Prod.mk.inj given
  exact ⟨added, rfl, hr⟩

/-- What is known of an act before which nothing was written down. -/
theorem Records.fresh {act : Act (Recorded σ) α} {plain : Act σ α} {R : α → List Exchange → Prop}
    (h : Records act plain R) (world : σ) :
    ((act ⟨world, []⟩).1, (act ⟨world, []⟩).2.world) = plain world ∧
      R (act ⟨world, []⟩).1 (act ⟨world, []⟩).2.transcript := by
  obtain ⟨added, given, hr⟩ := h ⟨world, []⟩
  rw [given]
  exact ⟨rfl, hr⟩

theorem records_pure {a : α} {R : α → List Exchange → Prop} (h : R a []) :
    Records (σ := σ) (pure a) (pure a) R := by
  intro r
  refine ⟨[], ?_, h⟩
  rw [List.append_nil]
  rfl

theorem records_bind {act : Act (Recorded σ) α} {plain : Act σ α}
    {next : α → Act (Recorded σ) β} {plainNext : α → Act σ β}
    {R : α → List Exchange → Prop} {S : β → List Exchange → Prop} (h : Records act plain R)
    (hn : ∀ a added, R a added →
      Records (next a) (plainNext a) (fun b later => S b (added ++ later))) :
    Records (act >>= next) (plain >>= plainNext) S := by
  intro r
  obtain ⟨added, he, hr⟩ := h r
  obtain ⟨later, hl, hs⟩ := hn _ _ hr ⟨(plain r.world).2, r.transcript ++ added⟩
  refine ⟨added ++ later, ?_, hs⟩
  change next (act r).1 (act r).2 = _
  rw [he, hl, List.append_assoc]
  rfl

/-- An act whose additions are known comes first in what is added. -/
theorem records_then {act : Act (Recorded σ) α} {plain : Act σ α}
    {next : α → Act (Recorded σ) β} {plainNext : α → Act σ β} {added : α → List Exchange}
    {S : β → List Exchange → Prop} (h : Records act plain (fun a now => now = added a))
    (hn : ∀ a, Records (next a) (plainNext a) (fun b later => S b (added a ++ later))) :
    Records (act >>= next) (plain >>= plainNext) S := by
  refine records_bind h ?_
  intro a now hnow
  subst hnow
  exact hn a

theorem records_watch (exchange : α → Exchange) (act : Act σ α) :
    Records (Recorded.watch exchange act) act (fun a added => added = [exchange a]) :=
  fun _ => ⟨_, rfl, rfl⟩

variable [World σ]

theorem records_note (n : Note) :
    Records (σ := σ) (note n) (note n) (fun _ added => added = []) := by
  intro r
  refine ⟨[], ?_, rfl⟩
  rw [List.append_nil]
  rfl

theorem records_noteIf {b : Bool} {n : Note} {next : Unit → Act (Recorded σ) β}
    {plainNext : Unit → Act σ β} {S : β → List Exchange → Prop}
    (h : Records (next ()) (plainNext ()) S) :
    Records (if b then note n >>= next else next ())
      (if b then note n >>= plainNext else plainNext ()) S := by
  cases b with
  | false => exact h
  | true =>
    refine records_then (records_note n) fun _ => ?_
    exact h

theorem records_notes (ns : List Note) :
    Records (σ := σ) (notes ns) (notes ns) (fun _ added => added = []) := by
  induction ns with
  | nil => exact records_pure rfl
  | cons n rest ih =>
    refine records_then (records_note n) fun _ => ?_
    exact ih

theorem records_now : Records (σ := σ) now now (fun _ added => added = []) := by
  intro r
  refine ⟨[], ?_, rfl⟩
  rw [List.append_nil]
  rfl

theorem records_closeFence (fence : Fence) :
    Records (σ := σ) (closeFence fence) (closeFence fence)
      (fun _ added => added = [.closed fence]) := by
  intro r
  exact ⟨_, rfl, rfl⟩

theorem records_closeFence? (fence : Option Fence) :
    Records (σ := σ) (closeFence? fence) (closeFence? fence)
      (fun _ added => added = fence.toList.map .closed) := by
  cases fence with
  | none => exact records_pure rfl
  | some fence => exact records_closeFence fence

end Scanout
