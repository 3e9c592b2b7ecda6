import Scanout.CommandLine
import Scanout.Proofs.ModifierText
import Scanout.Proofs.TransactionShape

namespace Scanout.CommandLine

open Transaction (bind_ok)

/-- That arguments give a text for the modifier: after the option, or attached to it. -/
def GivesModifier (arguments : List String) (text : String) : Prop :=
  (∃ before after, arguments = before ++ "--modifier" :: text :: after) ∨
    ∃ before after, arguments = before ++ ("--modifier=" ++ text) :: after

theorem GivesModifier.append {arguments : List String} {text : String}
    (h : GivesModifier arguments text) (later : List String) :
    GivesModifier (arguments ++ later) text := by
  rcases h with ⟨before, after, rfl⟩ | ⟨before, after, rfl⟩
  · exact .inl ⟨before, after ++ later, by simp⟩
  · exact .inr ⟨before, after ++ later, by simp⟩

section Store

variable {line line' : CommandLine} {flag : Flag} {value : String}

theorem store_modifier (h : line.store .modifier value = .ok line') :
    line'.modifier = ModifierSpec.parse? value ∧ (ModifierSpec.parse? value).isSome := by
  unfold store at h
  cases read : ModifierSpec.parse? value with
  | none => simp [read] at h
  | some spec =>
    simp only [read] at h
    cases Except.ok.inj h
    exact ⟨rfl, rfl⟩

/-- Every other option leaves the modifier alone. -/
theorem store_other (h : line.store flag value = .ok line') (other : flag ≠ .modifier) :
    line'.modifier = line.modifier := by
  have mapped {α : Type} (put : α → CommandLine) (kept : ∀ a, (put a).modifier = line.modifier)
      {read : Except UsageError α} (h : read.map put = .ok line') :
      line'.modifier = line.modifier := by
    cases read with
    | error e => cases h
    | ok a =>
      cases Except.ok.inj h
      exact kept a
  cases flag with
  | modifier => exact absurd rfl other
  | config =>
    unfold store at h
    dsimp only at h
    split_ifs at h
    cases Except.ok.inj h
    rfl
  | device =>
    unfold store at h
    dsimp only at h
    split_ifs at h
    cases Except.ok.inj h
    rfl
  | refresh => exact mapped (fun n => { line with refresh := some n }) (fun _ => rfl) h
  | frames => exact mapped (fun n => { line with frames := some (UInt64.ofNat n) }) (fun _ => rfl) h
  | _ =>
    cases Except.ok.inj h
    rfl

end Store

namespace Progress

variable {p q p' : Progress} {flag : Flag} {value argument text : String}

theorem accept_ok (h : p.accept flag value = .ok q) : flag ∉ p.given ∧
    ∃ line, p.line.store flag value = .ok line ∧
      q = { p with line, given := p.given ++ [flag] } := by
  unfold accept at h
  split_ifs at h with given
  cases stored : p.line.store flag value with
  | error e => simp [stored, Except.map] at h
  | ok line =>
    rw [stored] at h
    exact ⟨by simpa using given, line, rfl, (Except.ok.inj h).symm⟩

theorem settle_ok (h : p.settle = .ok q) : p.pending = none ∧ q = p ∨
    ∃ flag value, p.pending = some (flag, some value) ∧
      { p with pending := none }.accept flag value = .ok q := by
  unfold settle at h
  split at h
  next bare => exact .inl ⟨bare, (Except.ok.inj h).symm⟩
  next => cases h
  next flag value waiting => exact .inr ⟨flag, value, waiting, h⟩

/-- How an argument is read, as far as it may be about the modifier: an option whose value is still
to come, one that is taken in at once, or the value of the one before. -/
inductive ArgumentRead (p : Progress) (argument : String) : Progress → Prop
  | awaits {q : Progress} {flag : Flag} : p.settle = .ok q →
      (flag = .modifier → argument = "--modifier") →
      ArgumentRead p argument { q with pending := some (flag, none) }
  | takes {q p' : Progress} {flag : Flag} {value : String} : p.settle = .ok q →
      q.accept flag value = .ok p' → (flag = .modifier → argument = "--modifier=" ++ value) →
      ArgumentRead p argument p'
  | completes {flag : Flag} : p.pending = some (flag, none) →
      ArgumentRead p argument { p with pending := some (flag, some argument) }

theorem mapError_ok {ε ε' α : Type} {f : ε → ε'} {x : Except ε α} {a : α}
    (h : x.mapError f = .ok a) : x = .ok a := by
  cases x with
  | error e => cases h
  | ok b => exact congrArg Except.ok (Except.ok.inj h)

theorem meet_ok {attached : Option String} (h : p.meet flag attached = .ok p')
    (bare : flag = .modifier → attached = none → argument = "--modifier")
    (joined : flag = .modifier → ∀ value, attached = some value →
      argument = "--modifier=" ++ value) : ArgumentRead p argument p' := by
  unfold meet at h
  dsimp only at h
  split at h
  next => cases h
  next =>
    obtain ⟨q, settled, rest⟩ := bind_ok h
    cases Except.ok.inj rest
    exact .awaits (mapError_ok settled) fun same => bare same rfl
  next value _ =>
    obtain ⟨q, settled, rest⟩ := bind_ok h
    exact .takes (mapError_ok settled) (mapError_ok rest) fun same => joined same value rfl
  next lacking =>
    obtain ⟨q, settled, rest⟩ := bind_ok h
    split at rest
    next => cases rest
    next => cases rest
    next =>
      refine .takes (mapError_ok settled) (mapError_ok rest) ?_
      rintro rfl
      cases lacking

/-- A long option is its name, and then nothing more, or an equals sign and a value. -/
theorem split_long (body : List Char) :
    match body.drop (body.takeWhile (· != '=')).length with
    | [] => body = body.takeWhile (· != '=')
    | _ :: value => body = body.takeWhile (· != '=') ++ '=' :: value := by
  have whole : body.takeWhile (· != '=') ++ body.dropWhile (· != '=') = body :=
    List.takeWhile_append_dropWhile
  have later : body.drop (body.takeWhile (· != '=')).length = body.dropWhile (· != '=') :=
    (congrArg (List.drop _) whole).symm.trans List.drop_left
  have mark := List.head?_dropWhile_not (· != '=') body
  rw [later]
  split
  next ended => simpa [ended] using whole.symm
  next c value ended =>
    obtain rfl : c = '=' := by simpa [ended] using mark
    rw [← ended, whole]

theorem modifier_of_long {name : List Char} (h : Flag.ofLong? name = some .modifier) :
    name = "modifier".toList := by
  have written := List.find?_some (p := fun flag : Flag => flag.long.toList == name) h
  exact (eq_of_beq written).symm

/-- Reading an argument, whatever it is: the only option written so is the modifier. -/
theorem readArgument_ok (h : p.readArgument argument = .ok p') : ArgumentRead p argument p' := by
  unfold readArgument at h
  split at h
  next body written =>
    dsimp only at h
    split at h
    next flag long =>
      have split := split_long body
      have named (same : flag = .modifier) : body.takeWhile (· != '=') = "modifier".toList :=
        modifier_of_long (same ▸ long)
      refine meet_ok h (fun same bare => ?_) (fun same value attached => ?_)
      · rw [← String.toList_inj, written]
        split at bare
        next => cases bare
        next ended =>
          rw [ended] at split
          rw [split, named same]
          rfl
      · rw [← String.toList_inj, written]
        split at attached
        next c chars follows =>
          cases Option.some.inj attached
          rw [follows] at split
          rw [split, named same]
          simp
        next => cases attached
    next => cases h
  next letter rest written =>
    split at h
    next => cases h
    next flag short =>
      have other : flag ≠ .modifier := by
        rintro rfl
        exact absurd (List.find?_some short) (by simp [Flag.short?])
      have met {attached : Option String} (h : p.meet flag attached = .ok p') :
          ArgumentRead p argument p' :=
        meet_ok h (fun same => absurd same other) (fun same => absurd same other)
      split_ifs at h
      · exact met h
      · split at h
        next => exact met h
        next => exact met h
        next => exact met h
  next =>
    split at h
    next flag waiting =>
      cases Except.ok.inj h
      exact .completes waiting
    next => cases h

theorem readArguments_ok {rest : List String}
    (h : p.readArguments (argument :: rest) = .ok q) :
    argument = "--" ∧ rest = [] ∧ p.settle = .ok q ∨
      ∃ p', p.readArgument argument = .ok p' ∧ p'.readArguments rest = .ok q := by
  unfold readArguments at h
  split at h
  next => contradiction
  next same =>
    cases same
    exact .inl ⟨rfl, rfl, mapError_ok h⟩
  next => cases h
  next same =>
    cases same
    exact .inr (bind_ok h)

/-- That a text for the modifier was taken in. -/
structure Taken (p : Progress) (text : String) : Prop where
  given : .modifier ∈ p.given
  stored : p.line.modifier = ModifierSpec.parse? text
  isSome : (ModifierSpec.parse? text).isSome

theorem taken_of_accept (h : p.accept .modifier text = .ok q) : Taken q text := by
  obtain ⟨-, line, stored, rfl⟩ := accept_ok h
  obtain ⟨same, isSome⟩ := store_modifier stored
  exact ⟨List.mem_append_right _ List.mem_cons_self, same, isSome⟩

theorem Taken.waiting (h : Taken p text) (pending : Option (Flag × Option String)) :
    Taken { p with pending } text :=
  ⟨h.given, h.stored, h.isSome⟩

/-- The modifier is given once, so that no option changes it later. -/
theorem Taken.accept (h : Taken p text) (accepted : p.accept flag value = .ok q) :
    Taken q text := by
  obtain ⟨fresh, line, stored, rfl⟩ := accept_ok accepted
  have other : flag ≠ .modifier := by
    rintro rfl
    exact fresh h.given
  exact ⟨List.mem_append_left _ h.given, (store_other stored other).trans h.stored, h.isSome⟩

/-- That a text for the modifier was met: it is taken in, or will be with the next option. -/
def Met (p : Progress) (text : String) : Prop :=
  p.pending = some (.modifier, some text) ∨ Taken p text

theorem Met.settle (h : Met p text) (settled : p.settle = .ok q) : Taken q text := by
  rcases settle_ok settled with ⟨bare, rfl⟩ | ⟨flag, value, waiting, accepted⟩
  · rcases h with held | taken
    · simp [bare] at held
    · exact taken
  · rcases h with held | taken
    · cases held.symm.trans waiting
      exact taken_of_accept accepted
    · exact (taken.waiting none).accept accepted

theorem Met.read (h : Met p text) (read : ArgumentRead p argument p') : Met p' text := by
  cases read with
  | awaits settled => exact .inr ((h.settle settled).waiting _)
  | takes settled accepted => exact .inr ((h.settle settled).accept accepted)
  | completes waiting =>
    rcases h with held | taken
    · cases held.symm.trans waiting
    · exact .inr (taken.waiting _)

theorem Met.readArguments {rest : List String} (h : Met p text)
    (read : p.readArguments rest = .ok q) : Taken q text := by
  induction rest generalizing p with
  | nil => exact h.settle (mapError_ok read)
  | cons argument rest ih =>
    rcases readArguments_ok read with ⟨-, -, settled⟩ | ⟨p', first, later⟩
    · exact h.settle settled
    · exact ih (h.read (readArgument_ok first)) later

/-- That a modifier in the line comes from what was read. -/
def FromText (seen : List String) (p : Progress) : Prop :=
  ∀ spec, p.line.modifier = some spec →
    ∃ text, GivesModifier seen text ∧ ModifierSpec.parse? text = some spec

theorem FromText.append {seen : List String} (h : FromText seen p) (later : List String) :
    FromText (seen ++ later) p :=
  fun spec same => (h spec same).imp fun _ found => ⟨found.1.append later, found.2⟩

theorem FromText.accept {seen : List String} (h : FromText seen p)
    (gives : flag = .modifier → GivesModifier seen value)
    (accepted : p.accept flag value = .ok q) : FromText seen q ∧ q.pending = p.pending := by
  obtain ⟨-, line, stored, rfl⟩ := accept_ok accepted
  refine ⟨fun spec same => ?_, rfl⟩
  by_cases modifier : flag = .modifier
  · subst modifier
    exact ⟨value, gives rfl, (store_modifier stored).1.symm.trans same⟩
  · exact h spec ((store_other stored modifier).symm.trans same)

/-- Where a modifier comes from, in the line and while it waits. -/
structure Origin (seen : List String) (p : Progress) : Prop where
  line : FromText seen p
  held : ∀ text, p.pending = some (.modifier, some text) → GivesModifier seen text
  awaited : p.pending = some (.modifier, none) → ∃ before, seen = before ++ ["--modifier"]

variable {seen : List String}

theorem Origin.settle (h : Origin seen p) (settled : p.settle = .ok q) :
    FromText seen q ∧ q.pending = none := by
  rcases settle_ok settled with ⟨bare, rfl⟩ | ⟨flag, value, waiting, accepted⟩
  · exact ⟨h.line, bare⟩
  · have bare : FromText seen { p with pending := none } := h.line
    exact bare.accept (fun same => h.held value (same ▸ waiting)) accepted

theorem Origin.read (h : Origin seen p) (next : ArgumentRead p argument p') :
    Origin (seen ++ [argument]) p' := by
  cases next with
  | awaits settled written =>
    refine ⟨(h.settle settled).1.append _, fun text held => ?_, fun awaited => ?_⟩
    · cases held
    · cases awaited
      exact ⟨seen, by rw [written rfl]⟩
  | @takes _ _ flag value settled accepted written =>
    obtain ⟨line, bare⟩ := h.settle settled
    have gives (same : flag = .modifier) : GivesModifier (seen ++ [argument]) value :=
      .inr ⟨seen, [], by rw [written same]⟩
    obtain ⟨line, kept⟩ := (line.append [argument]).accept gives accepted
    exact ⟨line, by simp [kept, bare], by simp [kept, bare]⟩
  | completes waiting =>
    refine ⟨h.line.append _, fun text held => ?_, fun awaited => ?_⟩
    · cases held
      obtain ⟨before, rfl⟩ := h.awaited waiting
      exact .inl ⟨before, [], by simp⟩
    · cases awaited

theorem Origin.readArguments {rest : List String} (h : Origin seen p)
    (done : p.readArguments rest = .ok q) : FromText (seen ++ rest) q := by
  induction rest generalizing p seen with
  | nil => simpa using (h.settle (mapError_ok done)).1
  | cons argument rest ih =>
    rcases readArguments_ok done with ⟨-, rfl, settled⟩ | ⟨p', first, next⟩
    · exact (h.settle settled).1.append _
    · simpa using ih (h.read (readArgument_ok first)) next

end Progress

end Scanout.CommandLine
