import TrueForce.Fftest.Rows
import Mathlib.Data.List.Sigma

/-!
# What a run leaves on the device

Every stretch of a run is tidy: it stops and erases what it uploads, touches no other
effect, and asks last for full gain and for no autocenter.  Tidy stretches make a tidy
run.  The device is trusted to give out ids that are not in use.
-/

namespace TrueForce.Fftest

open Conversation

def uploaded : Entry Question Answer → Option Int16
  | ⟨.upload _, .ok id⟩ => some id
  | _ => none

/-- The effects on the device after one more call. -/
def liveAfter (ids : List Int16) : Entry Question Answer → List Int16
  | ⟨.upload _, .ok id⟩ => id :: ids
  | ⟨.erase id, _⟩ => ids.erase id
  | _ => ids

def live (ids : List Int16) (log : Log) : List Int16 := log.foldl liveAfter ids

/-- Every id that the device gives out is one that is not live. -/
def AssignsFresh : List Int16 → Log → Prop
  | _, [] => True
  | ids, entry :: log =>
      (∀ id ∈ uploaded entry, id ∉ ids) ∧ AssignsFresh (liveAfter ids entry) log

instance decidableAssignsFresh : ∀ ids log, Decidable (AssignsFresh ids log)
  | _, [] => isTrue trivial
  | ids, entry :: log =>
      have : Decidable (∀ id ∈ uploaded entry, id ∉ ids) := Option.decidableForallMem _
      have := decidableAssignsFresh (liveAfter ids entry) log
      inferInstanceAs (Decidable (_ ∧ _))

def Question.Concerns (id : Int16) : Question → Prop
  | .play other _ => other = id
  | .erase other => other = id
  | _ => False

def Question.IsReport : Question → Prop
  | .report _ => True
  | _ => False

/-- Nothing is done with an id before it is given out. -/
def Untouched (id : Int16) (log : Log) : Prop :=
  ∀ earlier entry later, log = earlier ++ entry :: later → entry.1.Concerns id →
    ∃ upload ∈ earlier, uploaded upload = some id

/-- What follows an upload: after its last start the effect is stopped and then erased,
before anything is reported and so within its row, and only the next upload that gets
the same id touches it again. -/
def Settled (id : Int16) (log : Log) : Prop :=
  ∃ before stopped between after,
    log = before ++ ⟨.play id 0, stopped⟩ :: between ++ ⟨.erase id, ()⟩ :: after ∧
    (∀ entry ∈ before ++ between,
      uploaded entry ≠ some id ∧ entry.1 ≠ .erase id ∧ ¬ entry.1.IsReport) ∧
    (∀ entry ∈ between, ¬ entry.1.Concerns id) ∧ Untouched id after

def gains (log : Log) : List Int32 :=
  log.filterMap fun entry => match entry.1 with
    | .setGain value => some value
    | _ => none

def autocenters (log : Log) : List Int32 :=
  log.filterMap fun entry => match entry.1 with
    | .setAutocenter value => some value
    | _ => none

/-- The last of the values, when there is one. -/
def EndsOn (value : Int32) (values : List Int32) : Prop :=
  ∀ last ∈ values.getLast?, last = value

def Settles (log : Log) : Prop :=
  ∀ earlier entry later, log = earlier ++ entry :: later →
    ∀ id ∈ uploaded entry, Settled id later

def AtMostTwo (ids : List Int16) (log : Log) : Prop :=
  ∀ earlier later, log = earlier ++ later → (live ids earlier).length ≤ 2

structure Tidy (log : Log) : Prop where
  settles : Settles log
  untouched : ∀ id, Untouched id log
  few : AtMostTwo [] log
  erased : live [] log = []
  gain : EndsOn simGainFull (gains log)
  autocenter : EndsOn 0 (autocenters log)

theorem live_append (ids : List Int16) (before after : Log) :
    live ids (before ++ after) = live (live ids before) after :=
  List.foldl_append

theorem assignsFresh_append {ids : List Int16} {before after : Log} :
    AssignsFresh ids (before ++ after) ↔
      AssignsFresh ids before ∧ AssignsFresh (live ids before) after := by
  induction before generalizing ids with
  | nil => simp only [List.nil_append, AssignsFresh, live, List.foldl_nil, true_and]
  | cons entry before ih =>
      simp only [List.cons_append, AssignsFresh, ih, and_assoc, live, List.foldl_cons]

theorem Untouched.append {id : Int16} {before after : Log} (first : Untouched id before)
    (second : Untouched id after) : Untouched id (before ++ after) := by
  intro earlier entry later same concerns
  obtain ⟨middle, rfl, rest⟩ | ⟨middle, rfl, rest⟩ := List.append_eq_append_iff.mp same
  · obtain ⟨upload, known, given⟩ := second middle entry later rest concerns
    exact ⟨upload, List.mem_append_right _ known, given⟩
  · cases middle with
    | nil =>
        obtain ⟨upload, known, -⟩ := second [] entry later rest.symm concerns
        cases known
    | cons head middle =>
        obtain ⟨rfl, -⟩ := List.cons.inj rest
        exact first earlier _ middle rfl concerns

theorem Settled.append {id : Int16} {before after : Log} (settled : Settled id before)
    (untouched : Untouched id after) : Settled id (before ++ after) := by
  obtain ⟨first, stopped, between, last, rfl, kept, quiet, rest⟩ := settled
  refine ⟨first, stopped, between, last ++ after, ?_, kept, quiet, rest.append untouched⟩
  simp only [List.append_assoc, List.cons_append]

theorem EndsOn.append {value : Int32} {before after : List Int32}
    (first : EndsOn value before) (second : EndsOn value after) :
    EndsOn value (before ++ after) := by
  intro last ends
  rw [List.getLast?_append, Option.mem_def, Option.or_eq_some_iff] at ends
  obtain ends | ⟨-, ends⟩ := ends
  · exact second last ends
  · exact first last ends

theorem Tidy.append {before after : Log} (first : Tidy before) (second : Tidy after) :
    Tidy (before ++ after) where
  settles earlier entry later same id given := by
    obtain ⟨middle, rfl, rest⟩ | ⟨middle, rfl, rest⟩ := List.append_eq_append_iff.mp same
    · exact second.settles middle entry later rest id given
    · cases middle with
      | nil => exact second.settles [] entry later rest.symm id given
      | cons head middle =>
          obtain ⟨rfl, rfl⟩ := List.cons.inj rest
          exact (first.settles earlier _ middle rfl id given).append (second.untouched id)
  untouched id := (first.untouched id).append (second.untouched id)
  few earlier later same := by
    obtain ⟨middle, rfl, rest⟩ | ⟨middle, rfl, rest⟩ := List.append_eq_append_iff.mp same
    · rw [live_append, first.erased]
      exact second.few middle later rest
    · exact first.few earlier middle rfl
  erased := by rw [live_append, first.erased, second.erased]
  gain := by
    rw [gains, List.filterMap_append]
    exact first.gain.append second.gain
  autocenter := by
    rw [autocenters, List.filterMap_append]
    exact first.autocenter.append second.autocenter

theorem untouched_nil (id : Int16) : Untouched id [] :=
  fun _ _ _ same => absurd same (by simp)

theorem untouched_cons {id : Int16} {entry : Entry Question Answer} {log : Log} :
    Untouched id (entry :: log) ↔
      ¬ entry.1.Concerns id ∧ (uploaded entry = some id ∨ Untouched id log) := by
  constructor
  · intro untouched
    refine ⟨fun concerns => ?_, ?_⟩
    · obtain ⟨_, known, -⟩ := untouched [] entry log rfl concerns
      cases known
    · rw [Classical.or_iff_not_imp_left]
      intro other earlier late later same concerns
      obtain ⟨upload, known, given⟩ :=
        untouched (entry :: earlier) late later (by rw [same, List.cons_append]) concerns
      obtain rfl | known := List.mem_cons.mp known
      · exact absurd given other
      · exact ⟨upload, known, given⟩
  · rintro ⟨quiet, rest⟩ earlier late later same concerns
    cases earlier with
    | nil =>
        obtain ⟨rfl, -⟩ := List.cons.inj same
        exact absurd concerns quiet
    | cons head earlier =>
        have inside := (List.cons.inj same).2
        obtain rfl := (List.cons.inj same).1
        obtain given | rest := rest
        · exact ⟨_, List.mem_cons_self, given⟩
        · obtain ⟨upload, known, given⟩ := rest earlier late later inside concerns
          exact ⟨upload, List.mem_cons_of_mem _ known, given⟩

theorem settles_nil : Settles [] := fun _ _ _ same => absurd same (by simp)

theorem settles_cons {entry : Entry Question Answer} {log : Log} :
    Settles (entry :: log) ↔ (∀ id ∈ uploaded entry, Settled id log) ∧ Settles log := by
  constructor
  · intro settles
    refine ⟨settles [] entry log rfl, fun earlier late later same => ?_⟩
    exact settles (entry :: earlier) late later (by rw [same, List.cons_append])
  · rintro ⟨head, rest⟩ earlier late later same
    cases earlier with
    | nil =>
        obtain ⟨rfl, rfl⟩ := List.cons.inj same
        exact head
    | cons first earlier => exact rest earlier late later (List.cons.inj same).2

theorem atMostTwo_nil {ids : List Int16} : AtMostTwo ids [] ↔ ids.length ≤ 2 := by
  constructor
  · intro few
    exact few [] [] rfl
  · intro two earlier later same
    obtain ⟨rfl, rfl⟩ := List.nil_eq_append_iff.mp same
    exact two

theorem atMostTwo_cons {ids : List Int16} {entry : Entry Question Answer} {log : Log} :
    AtMostTwo ids (entry :: log) ↔
      ids.length ≤ 2 ∧ AtMostTwo (liveAfter ids entry) log := by
  constructor
  · intro few
    refine ⟨few [] _ rfl, fun earlier later same => ?_⟩
    exact few (entry :: earlier) later (by rw [same, List.cons_append])
  · rintro ⟨two, rest⟩ earlier later same
    cases earlier with
    | nil => exact two
    | cons first earlier =>
        obtain rfl := (List.cons.inj same).1
        exact rest earlier later (List.cons.inj same).2

theorem untouched_of_traced {log : Log} (traced : Traced log) (id : Int16) :
    Untouched id log := by
  cases traced <;>
    simp only [untouched_cons, uploaded, Question.Concerns, untouched_nil] <;> grind

theorem settles_of_single {effect : FfEffect} {id : Int16} {calls : Log}
    (settled : Settled id calls) (none : ∀ entry ∈ calls, uploaded entry = none) :
    Settles (⟨.upload effect, .ok id⟩ :: calls) := by
  refine settles_cons.mpr ⟨?_, ?_⟩
  · rintro given ⟨⟩
    exact settled
  · intro earlier entry later same other given
    rw [none entry (by rw [same]; exact List.mem_append_right _ List.mem_cons_self)] at given
    cases given

theorem settles_of_pair {first second : FfEffect} {idA idB : Int16} {calls : Log}
    (settledA : Settled idA (⟨.upload second, .ok idB⟩ :: calls)) (settledB : Settled idB calls)
    (none : ∀ entry ∈ calls, uploaded entry = none) :
    Settles (⟨.upload first, .ok idA⟩ :: ⟨.upload second, .ok idB⟩ :: calls) := by
  refine settles_cons.mpr ⟨?_, settles_of_single settledB none⟩
  rintro given ⟨⟩
  exact settledA

theorem settles_of_traced {log : Log} (traced : Traced log) (fresh : AssignsFresh [] log) :
    Settles log := by
  cases traced with
  | refused effect error => simp [settles_cons, settles_nil, uploaded]
  | single effect id played stopped =>
      refine settles_of_single ⟨[_], stopped, [], [], rfl, ?_, ?_, untouched_nil id⟩ ?_
      · simp [uploaded, Question.IsReport]
      · simp
      · simp [uploaded]
  | secondRefused first second id error stopped =>
      refine settles_of_single ⟨[_], stopped, [], [], rfl, ?_, ?_, untouched_nil id⟩ ?_
      · simp [uploaded, Question.IsReport]
      · simp
      · simp [uploaded]
  | firstSilent first second idA idB error stoppedA stoppedB =>
      have other : idB ≠ idA := by simpa [AssignsFresh, uploaded, liveAfter] using fresh
      refine settles_of_pair ⟨[_, _], stoppedA, [_], [_], rfl, ?_, ?_, ?_⟩
        ⟨[_, _], stoppedB, [_], [], rfl, ?_, ?_, untouched_nil idB⟩ ?_
      · simp [uploaded, Question.IsReport, other]
      · simp [Question.Concerns, other]
      · simp [untouched_cons, untouched_nil, Question.Concerns, other]
      · simp [uploaded, Question.IsReport, other.symm]
      · simp [Question.Concerns, other.symm]
      · simp [uploaded]
  | mixed first second idA idB playedB stoppedA stoppedB =>
      have other : idB ≠ idA := by simpa [AssignsFresh, uploaded, liveAfter] using fresh
      refine settles_of_pair ⟨[_, _, _], stoppedA, [_], [_], rfl, ?_, ?_, ?_⟩
        ⟨[_, _, _], stoppedB, [_], [], rfl, ?_, ?_, untouched_nil idB⟩ ?_
      · simp [uploaded, Question.IsReport, other]
      · simp [Question.Concerns, other]
      · simp [untouched_cons, untouched_nil, Question.Concerns, other]
      · simp [uploaded, Question.IsReport, other.symm]
      · simp [Question.Concerns, other.symm]
      · simp [uploaded]
  | fullGain effect id played stopped restored =>
      refine settles_of_single ⟨[_], stopped, [], [_], rfl, ?_, ?_, ?_⟩ ?_
      · simp [uploaded, Question.IsReport]
      · simp
      · simp [untouched_cons, untouched_nil, Question.Concerns]
      · simp [uploaded]
  | gainDemo effect id gain reduced stopped restored =>
      refine settles_of_single ⟨[_, _], stopped, [], [_], rfl, ?_, ?_, ?_⟩ ?_
      · simp [uploaded, Question.IsReport]
      · simp
      · simp [untouched_cons, untouched_nil, Question.Concerns]
      · simp [uploaded]
  | autocenter level set reset => simp [settles_cons, settles_nil, uploaded]

theorem tidy_of_traced {log : Log} (traced : Traced log) (fresh : AssignsFresh [] log) :
    Tidy log where
  settles := settles_of_traced traced fresh
  untouched := untouched_of_traced traced
  few := by
    cases traced <;>
      simp only [atMostTwo_cons, liveAfter, atMostTwo_nil, List.erase_cons, List.erase_nil] <;>
      grind
  erased := by
    cases traced <;> simp only [AssignsFresh, uploaded, liveAfter] at fresh <;>
      simp only [live, List.foldl_cons, List.foldl_nil, liveAfter, List.erase_cons,
        List.erase_nil] <;> grind
  gain := by cases traced <;> simp [gains, EndsOn]
  autocenter := by cases traced <;> simp [autocenters, EndsOn]

theorem tidy_of_silent {entry : Entry Question Answer} (none : uploaded entry = none)
    (quiet : ∀ id, ¬ entry.1.Concerns id) (kept : ∀ ids, liveAfter ids entry = ids)
    (gain : EndsOn simGainFull (gains [entry])) (autocenter : EndsOn 0 (autocenters [entry])) :
    Tidy [entry] where
  settles := by simp [settles_cons, settles_nil, none]
  untouched id := untouched_cons.mpr ⟨quiet id, .inr (untouched_nil id)⟩
  few := by simp [atMostTwo_cons, atMostTwo_nil, kept]
  erased := kept []
  gain := gain
  autocenter := autocenter

theorem tidy_nil : Tidy [] where
  settles := settles_nil
  untouched := untouched_nil
  few := atMostTwo_nil.mpr (Nat.zero_le 2)
  erased := rfl
  gain _ last := by cases last
  autocenter _ last := by cases last

theorem tidy_reports (events : List SequenceEvent) : Tidy (reports events) := by
  induction events with
  | nil => exact tidy_nil
  | cons event events ih =>
      have head : Tidy [⟨.report event, ()⟩] :=
        tidy_of_silent rfl (fun _ => id) (fun _ => rfl) (by simp [gains, EndsOn])
          (by simp [autocenters, EndsOn])
      exact head.append ih

theorem tidy_gain (answer : Except DeviceError Unit) :
    Tidy [⟨.setGain simGainFull, answer⟩] :=
  tidy_of_silent rfl (fun _ => id) (fun _ => rfl) (by simp [gains, EndsOn])
    (by simp [autocenters, EndsOn])

theorem tidy_bits (bits : ByteBuffer.Bytes) : Tidy [⟨.ffBits, bits⟩] :=
  tidy_of_silent rfl (fun _ => id) (fun _ => rfl) (by simp [gains, EndsOn])
    (by simp [autocenters, EndsOn])

/-- What follows a tidy stretch finds the device as it was at first. -/
theorem AssignsFresh.split {before after : Log} (fresh : AssignsFresh [] (before ++ after))
    (tidy : AssignsFresh [] before → Tidy before) :
    Tidy before ∧ AssignsFresh [] after := by
  obtain ⟨first, second⟩ := assignsFresh_append.mp fresh
  have tidy := tidy first
  rw [tidy.erased] at second
  exact ⟨tidy, second⟩

theorem tidy_of_played {total : ℕ} {skipped : List RustText.Text}
    {rows : List (SimStep × Bool)} {row ran : ℕ} {plays : List Play} {log : Log}
    {outcome : SequenceOutcome} (played : Played total skipped rows row ran plays log outcome)
    (fresh : AssignsFresh [] log) : Tidy log := by
  induction played with
  | finished row ran => exact tidy_nil
  | skip rest ih => exact ih fresh
  | waiting step rows row ran => exact tidy_nil
  | counting rows row ran begun => exact tidy_reports _
  | failed step rows row ran traced error =>
      obtain ⟨told, fresh⟩ := fresh.split fun _ => tidy_reports _
      exact told.append (tidy_of_traced traced fresh)
  | stopped step rows row ran traced =>
      rw [List.append_assoc] at fresh ⊢
      obtain ⟨told, fresh⟩ := fresh.split fun _ => tidy_reports _
      obtain ⟨tidy, -⟩ := fresh.split (tidy_of_traced traced)
      exact told.append (tidy.append (tidy_reports _))
  | next step traced rest ih =>
      rw [List.append_assoc, List.append_assoc] at fresh ⊢
      obtain ⟨told, fresh⟩ := fresh.split fun _ => tidy_reports _
      obtain ⟨tidy, fresh⟩ := fresh.split (tidy_of_traced traced)
      obtain ⟨done, fresh⟩ := fresh.split fun _ => tidy_reports _
      exact told.append (tidy.append (done.append (ih fresh)))

theorem tidy_of_sequenced {bits : ByteBuffer.Bytes} {steps : List SimStep} {plays : List Play}
    {log : Log} {outcome : SequenceOutcome} (sequenced : Sequenced bits steps plays log outcome)
    (fresh : AssignsFresh [] log) : Tidy log := by
  cases sequenced with
  | nothing all => exact tidy_nil
  | refused error => exact tidy_gain _
  | started played => exact (tidy_gain _).append (tidy_of_played played fresh.2)

/-- Every run is tidy. -/
theorem tidy_runSequence {steps : List SimStep} {model : Gui.WheelModel} {log : Log}
    {outcome : SequenceOutcome} (ends : (runSequence steps model).Ends log outcome)
    (fresh : AssignsFresh [] (transcript log)) : Tidy (transcript log) := by
  obtain ⟨bits, plays, rest, sequenced, same⟩ := sequenced_runSequence ends
  rw [same, ← List.singleton_append, List.append_assoc] at fresh
  rw [same, ← List.singleton_append, List.append_assoc]
  obtain ⟨query, fresh⟩ := fresh.split fun _ => tidy_bits bits
  obtain ⟨told, fresh⟩ := fresh.split fun _ => tidy_reports _
  exact query.append (told.append (tidy_of_sequenced sequenced fresh))

end TrueForce.Fftest
