import Scanout.Throughput

namespace Scanout

namespace Throughput

def Reported (reports : List (Option ThroughputReport)) (k : Nat) : Prop :=
  ∃ report, reports[k]? = some (some report)

/-- That of the calls before call `k` the last one with a report was at `last`. The very first call
stands in where there was none. -/
def LastReported (times : List Nat) (reports : List (Option ThroughputReport))
    (k last : Nat) : Prop :=
  ∃ i < k, times[i]? = some last ∧ (i = 0 ∨ Reported reports i) ∧
    ∀ j < k, i < j → ¬Reported reports j

/-- What the fields say about the first `k` calls. -/
structure Tracks (times : List Nat) (reports : List (Option ThroughputReport)) (k : Nat)
    (t : Throughput) : Prop where
  frames : t.frames = k
  start : times[0]? = some t.start
  last : LastReported times reports k t.lastReport
  begun : t.start ≤ t.lastReport
  spent : (reports.take k).countP Option.isSome * interval ≤ t.lastReport - t.start

variable {times : List Nat} {reports : List (Option ThroughputReport)} {t : Throughput}
  {k now first : Nat}

theorem frame_cases (t : Throughput) (now : Nat) (later : 0 < t.frames) :
    now < t.lastReport + interval ∧
      t.frame now = ({ t with frames := t.frames + 1 }, none) ∨
    t.lastReport + interval ≤ now ∧
      t.frame now = ({ t with lastReport := now, frames := t.frames + 1 },
        some ⟨t.frames, now - t.start⟩) := by
  have positive : 0 < interval := by decide
  have notFirst : t.frames ≠ 0 := by omega
  unfold frame
  by_cases early : now - t.lastReport < interval
  · left
    simp only [notFirst, early, if_true, if_false, and_true]
    omega
  · right
    simp only [notFirst, early, if_false, and_true]
    omega

theorem tracks_first (at0 : times[0]? = some first) (given : reports[0]? = some none) :
    Tracks times reports 1 ⟨first, first, 1⟩ where
  frames := rfl
  start := at0
  last := ⟨0, by omega, at0, .inl rfl, by omega⟩
  begun := Nat.le_refl _
  spent := by
    have silent : reports.take 1 = [none] := by
      rw [List.take_add_one, given]
      rfl
    simp [silent]

/-- One call: either nothing is due and only the count moves on, or the reference does as well. -/
theorem Tracks.step (h : Tracks times reports k t) (later : 0 < k) (called : times[k]? = some now)
    (given : reports[k]? = some (t.frame now).2) :
    Tracks times reports (k + 1) (t.frame now).1 := by
  have counted : (reports.take (k + 1)).countP Option.isSome =
      (reports.take k).countP Option.isSome + [(t.frame now).2].countP Option.isSome := by
    rw [List.take_add_one, given, List.countP_append]
    rfl
  have begun := h.begun
  have spent := h.spent
  have frames := h.frames
  -- The times need not be in order here: a report moves the reference on by an interval or more.
  rcases frame_cases t now (by omega) with ⟨-, run⟩ | ⟨due, run⟩
  · obtain ⟨i, before, atLast, reported, none⟩ := h.last
    have silent : ¬Reported reports k := by
      rintro ⟨report, again⟩
      rw [given, run] at again
      cases again
    rw [run] at counted ⊢
    refine ⟨by simp only; omega, h.start, ⟨i, by omega, atLast, reported, ?_⟩, begun, ?_⟩
    · intro j within after
      by_cases newest : j = k
      · exact newest ▸ silent
      · exact none j (by omega) after
    · rw [counted]
      simpa using spent
  · have reported : Reported reports k := ⟨_, by rw [given, run]⟩
    rw [run] at counted ⊢
    refine ⟨by simp only; omega, h.start, ⟨k, by omega, called, .inr reported, ?_⟩, ?_, ?_⟩
    · intro j within after
      omega
    · simp only
      omega
    · rw [counted, List.countP_singleton]
      simp only [Option.isSome_some, if_true, Nat.add_mul, Nat.one_mul]
      omega

/-- What a call gives depends on the calls before it through the state that they leave. -/
theorem frameAll_at (t : Throughput) (called : times[k]? = some now) :
    (t.frameAll times).2[k]? = some ((t.frameAll (times.take k)).1.frame now).2 ∧
      (t.frameAll (times.take (k + 1))).1 = ((t.frameAll (times.take k)).1.frame now).1 := by
  induction times generalizing t k with
  | nil => simp at called
  | cons head rest ih =>
    cases k with
    | zero =>
      obtain rfl : head = now := by simpa using called
      simp [frameAll]
    | succ k => exact ih (t.frame head).1 (by simpa using called)

theorem frameAll_length (t : Throughput) (times : List Nat) :
    (t.frameAll times).2.length = times.length := by
  induction times generalizing t with
  | nil => rfl
  | cons now rest ih => simp [frameAll, ih]

/-- The reports of a counter made at `created`, call by call. -/
def reportsOf (created : Nat) (times : List Nat) : List (Option ThroughputReport) :=
  ((begin created).frameAll times).2

/-- The state that the calls before call `k` leave. -/
def before (created : Nat) (times : List Nat) (k : Nat) : Throughput :=
  ((begin created).frameAll (times.take k)).1

section History

variable {created : Nat}

theorem reportsOf_at (called : times[k]? = some now) :
    (reportsOf created times)[k]? = some ((before created times k).frame now).2 :=
  (frameAll_at (begin created) called).1

theorem before_succ (called : times[k]? = some now) :
    before created times (k + 1) = ((before created times k).frame now).1 :=
  (frameAll_at (begin created) called).2

theorem tracks_before (later : 0 < k) (within : k ≤ times.length) :
    Tracks times (reportsOf created times) k (before created times k) := by
  induction k with
  | zero => omega
  | succ k ih =>
    have called : times[k]? = some times[k] := List.getElem?_eq_getElem (by omega)
    have given : (reportsOf created times)[k]? = _ := reportsOf_at called
    rw [before_succ called]
    by_cases first : k = 0
    · -- The first call sets every field from its own time, so the time of creation is forgotten.
      subst first
      exact tracks_first called given
    · exact (ih (by omega) (by omega)).step (by omega) called given

theorem called_of_given {answer : Option ThroughputReport}
    (given : (reportsOf created times)[k]? = some answer) : ∃ now, times[k]? = some now := by
  have answered : k < (reportsOf created times).length := (List.getElem?_eq_some_iff.mp given).1
  rw [reportsOf, frameAll_length] at answered
  exact ⟨_, List.getElem?_eq_getElem answered⟩

theorem not_reported_first : ¬Reported (reportsOf created times) 0 := by
  rintro ⟨report, given⟩
  obtain ⟨first, called⟩ := called_of_given given
  have silent : (reportsOf created times)[0]? = some none := reportsOf_at called
  rw [given] at silent
  cases silent

/-- A later call, with the reference and the begin that the calls before it left. -/
theorem call_cases (created : Nat) (later : 0 < k) (called : times[k]? = some now) :
    ∃ first last, times[0]? = some first ∧ LastReported times (reportsOf created times) k last ∧
      first ≤ last ∧
      (now < last + interval ∧ (reportsOf created times)[k]? = some none ∨
        last + interval ≤ now ∧
          (reportsOf created times)[k]? = some (some ⟨k, now - first⟩)) := by
  have within : k < times.length := (List.getElem?_eq_some_iff.mp called).1
  have tracks : Tracks times (reportsOf created times) k _ := tracks_before later (by omega)
  have frames := tracks.frames
  refine ⟨_, _, tracks.start, tracks.last, tracks.begun, ?_⟩
  rw [reportsOf_at called]
  rcases frame_cases (before created times k) now (by omega) with ⟨early, run⟩ | ⟨due, run⟩
  · exact .inl ⟨early, by rw [run]⟩
  · exact .inr ⟨due, by rw [run, frames]⟩

theorem reported_due (later : 0 < k) (called : times[k]? = some now) :
    ∃ last, LastReported times (reportsOf created times) k last ∧
      (Reported (reportsOf created times) k ↔ last + interval ≤ now) := by
  obtain ⟨first, last, -, atLast, -, ⟨early, given⟩ | ⟨due, given⟩⟩ :=
    call_cases created later called
  · refine ⟨last, atLast, ?_⟩
    constructor
    · rintro ⟨report, again⟩
      rw [given] at again
      cases again
    · intro due
      omega
  · exact ⟨last, atLast, fun _ => due, fun _ => ⟨_, given⟩⟩

theorem report_contents {report : ThroughputReport}
    (given : (reportsOf created times)[k]? = some (some report)) :
    ∃ first last now, times[0]? = some first ∧ times[k]? = some now ∧
      LastReported times (reportsOf created times) k last ∧ first ≤ last ∧
      last + interval ≤ now ∧ report = ⟨k, now - first⟩ := by
  have later : k ≠ 0 := by
    rintro rfl
    exact not_reported_first ⟨report, given⟩
  obtain ⟨now, called⟩ := called_of_given given
  obtain ⟨first, last, at0, atLast, begun, ⟨-, none⟩ | ⟨due, same⟩⟩ :=
    call_cases created (by omega : 0 < k) called
  · rw [given] at none
    cases none
  · rw [given] at same
    have same := Option.some.inj (Option.some.inj same)
    exact ⟨first, last, now, at0, called, atLast, begun, due, same⟩

theorem ordered_le (ordered : times.Pairwise (· ≤ ·)) {i j earlier later : Nat} (le : i ≤ j)
    (ati : times[i]? = some earlier) (atj : times[j]? = some later) : earlier ≤ later := by
  obtain ⟨hi, rfl⟩ := List.getElem?_eq_some_iff.mp ati
  obtain ⟨hj, rfl⟩ := List.getElem?_eq_some_iff.mp atj
  by_cases same : i = j
  · subst same
    exact Nat.le_refl _
  · exact List.pairwise_iff_getElem.mp ordered i j hi hj (by omega)

/-- Two reports are an interval apart: the reference of the later one is not before the earlier. -/
theorem reports_apart (ordered : times.Pairwise (· ≤ ·)) {i j earlier later : Nat} (less : i < j)
    (early : Reported (reportsOf created times) i) (late : Reported (reportsOf created times) j)
    (ati : times[i]? = some earlier) (atj : times[j]? = some later) :
    earlier + interval ≤ later := by
  obtain ⟨report, given⟩ := late
  obtain ⟨-, last, now, -, called, ⟨m, beforej, atm, -, none⟩, -, due, -⟩ :=
    report_contents given
  have notAfter : ¬m < i := fun after => none i less after early
  have reference : earlier ≤ last := ordered_le ordered (by omega) ati atm
  have same : now = later := Option.some.inj (called.symm.trans atj)
  omega

theorem reports_few (ordered : times.Pairwise (· ≤ ·)) {first now : Nat}
    (at0 : times[0]? = some first) (called : times[k]? = some now) :
    ((reportsOf created times).take (k + 1)).countP Option.isSome ≤ (now - first) / interval := by
  have within : k < times.length := (List.getElem?_eq_some_iff.mp called).1
  have tracks : Tracks times (reportsOf created times) (k + 1) _ :=
    tracks_before (by omega) (by omega)
  have start := Option.some.inj (tracks.start.symm.trans at0)
  obtain ⟨m, upto, atm, -, -⟩ := tracks.last
  have reference := ordered_le ordered (by omega : m ≤ k) atm called
  have spent := tracks.spent
  rw [Nat.le_div_iff_mul_le (by decide)]
  omega

theorem reports_rising (ordered : times.Pairwise (· ≤ ·)) {i j : Nat}
    {earlier later : ThroughputReport} (less : i < j)
    (ati : (reportsOf created times)[i]? = some (some earlier))
    (atj : (reportsOf created times)[j]? = some (some later)) :
    earlier.frames < later.frames ∧ earlier.elapsed < later.elapsed := by
  obtain ⟨first, last, now, at0, called, -, begun, due, rfl⟩ := report_contents ati
  obtain ⟨again, -, after, at0', calledAfter, -, -, -, rfl⟩ := report_contents atj
  have same := Option.some.inj (at0.symm.trans at0')
  have apart := reports_apart ordered less ⟨_, ati⟩ ⟨_, atj⟩ called calledAfter
  have positive : 0 < interval := by decide
  constructor
  · exact less
  · simp only
    omega

end History

/-- How reports come, for frames shown at some times. Call `k` is the one after `k` others. -/
structure Spaced (times : List Nat) (reports : List (Option ThroughputReport)) : Prop where
  answered : reports.length = times.length
  first : ¬Reported reports 0
  due : ∀ k now, 0 < k → times[k]? = some now → ∃ last, LastReported times reports k last ∧
    (Reported reports k ↔ last + 2 * second ≤ now)
  contents : ∀ (k : Nat) (report : ThroughputReport), reports[k]? = some (some report) →
    ∃ first now, times[0]? = some first ∧ times[k]? = some now ∧ report = ⟨k, now - first⟩
  apart : ∀ i j earlier later, i < j → Reported reports i → Reported reports j →
    times[i]? = some earlier → times[j]? = some later → earlier + 2 * second ≤ later
  few : ∀ k first now, times[0]? = some first → times[k]? = some now →
    (reports.take (k + 1)).countP Option.isSome ≤ (now - first) / (2 * second)
  rising : ∀ (i j : Nat) (earlier later : ThroughputReport), i < j →
    reports[i]? = some (some earlier) → reports[j]? = some (some later) →
    earlier.frames < later.frames ∧ earlier.elapsed < later.elapsed

/-- Frames shown one after the other are reported on at least two seconds apart, from the second
one on, whenever the counter was made. -/
theorem reports_spaced {times : List Nat} (ordered : times.Pairwise (· ≤ ·)) :
    ∃ reports, Spaced times reports ∧
      ∀ created, ((begin created).frameAll times).2 = reports := by
  refine ⟨reportsOf 0 times, ?_, ?_⟩
  · exact
      { answered := frameAll_length _ _
        first := not_reported_first
        due := fun _ _ later called => reported_due later called
        contents := fun k report given => by
          obtain ⟨first, -, now, at0, called, -, -, -, same⟩ := report_contents given
          exact ⟨first, now, at0, called, same⟩
        apart := fun _ _ _ _ less early late ati atj =>
          reports_apart ordered less early late ati atj
        few := fun _ _ _ at0 called => reports_few ordered at0 called
        rising := fun _ _ _ _ less ati atj => reports_rising ordered less ati atj }
  · intro created
    cases times with
    | nil => rfl
    | cons first rest => rfl

/-- A gap of several intervals gives one report, and the next one is counted from there. -/
theorem reports_spaced_irregular :
    [second, second, 3 * second, 4 * second, 9 * second, 10 * second].Pairwise (· ≤ ·) ∧
    Spaced [second, second, 3 * second, 4 * second, 9 * second, 10 * second]
      [none, none, some ⟨2, 2 * second⟩, none, some ⟨4, 8 * second⟩, none] := by
  have ordered : [second, second, 3 * second, 4 * second, 9 * second, 10 * second].Pairwise
      (· ≤ ·) := by decide
  obtain ⟨reports, spaced, same⟩ := reports_spaced ordered
  have given : ((begin 0).frameAll
      [second, second, 3 * second, 4 * second, 9 * second, 10 * second]).2 =
      [none, none, some ⟨2, 2 * second⟩, none, some ⟨4, 8 * second⟩, none] := by decide
  rw [← given, same 0]
  exact ⟨ordered, spaced⟩

end Throughput

end Scanout
