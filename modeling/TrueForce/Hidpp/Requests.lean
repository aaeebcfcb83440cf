import TrueForce.Foundation.Dialogue
import TrueForce.Foundation.RustText
import Mathlib.Data.Nat.Notation

/-!
# HID++ requests

Each function is the program of reports it writes and reads.  What it returns is
read off reports that it takes for the answers to its own questions; the lemmas
say which questions these are.
-/

namespace TrueForce.Hidpp

open TrueForce.Dialogue

abbrev Bytes := List UInt8

def reportIdShort : UInt8 := 0x10

def reportIdLong : UInt8 := 0x11

def reportIdVeryLong : UInt8 := 0x12

def deviceIndexBase : UInt8 := 0xff

def swId : UInt8 := 0x0a

def rootFeatureIndex : UInt8 := 0x00

def fnGetInfo : UInt8 := 0x00

def fnGet : UInt8 := 0x10

/-- `FeatureSet` -/
def featureSet : UInt16 := 0x0001

def revSwId : UInt8 := 0x0d

/-- The first `size` bytes, padded with zeros. -/
def padded (params : Bytes) (size : ℕ) : Bytes :=
  params.take size ++ List.replicate (size - params.length) 0

def shortReport (deviceIndex featureIndex function : UInt8) (params : Bytes) : Bytes :=
  [reportIdShort, deviceIndex, featureIndex, function ||| swId] ++ padded params 3

def longRequest (deviceIndex featureIndex function : UInt8) (params : Bytes) : Bytes :=
  [reportIdLong, deviceIndex, featureIndex, function ||| swId] ++ padded params 16

/-- What `request` writes, by `long_requests_only`. -/
def requestReport (longOnly : Bool) (deviceIndex featureIndex function : UInt8) (params : Bytes) :
    Bytes :=
  if longOnly then longRequest deviceIndex featureIndex function params
  else shortReport deviceIndex featureIndex function params

abbrev Conversation := Program Bytes

def request (longOnly : Bool) (deviceIndex featureIndex function : UInt8) (params : Bytes) :
    Conversation (Option Bytes) := do
  if !(← Program.writeReport (requestReport longOnly deviceIndex featureIndex function params)) then
    return none
  match ← Program.readReport with
  | none => return none
  | some resp =>
      if resp.length < 4 ∨ resp[1]? ≠ some deviceIndex ∨ resp[2]? ≠ some featureIndex ∨
          resp[3]? ≠ some (function ||| swId) then
        return none
      return some (resp.drop 4)

def getFeatureParams (featureId : UInt16) : Bytes := [(featureId >>> 8).toUInt8, featureId.toUInt8]

def resolveFeatureIndex (longOnly : Bool) (featureId : UInt16) : Conversation (Option UInt8) := do
  match ← request longOnly deviceIndexBase rootFeatureIndex fnGetInfo
      (getFeatureParams featureId) with
  | none => return none
  | some resp =>
      match resp.head? with
      | some 0 | none => return none
      | some idx => return some idx

def entityCount (longOnly : Bool) (featureIndex : UInt8) : Conversation (Option UInt8) := do
  match ← request longOnly deviceIndexBase featureIndex fnGetInfo [] with
  | none => return none
  | some resp => return resp.head?

structure FwEntity where
  fwType : UInt8
  namePrefix : String
  major : UInt8
  minor : UInt8
  build : UInt16
deriving DecidableEq

def beWord (high low : UInt8) : UInt16 := high.toUInt16 <<< 8 ||| low.toUInt16

def FwEntity.parse : Bytes → Option FwEntity
  | fwType :: first :: second :: third :: major :: minor :: high :: low :: _ =>
      let printable := [first, second, third].filter fun b => 0x20 ≤ b ∧ b < 0x7f
      let chars := printable.map fun b => Char.ofNat b.toNat
      some { fwType, namePrefix := String.ofList (RustText.trim chars), major, minor,
             build := beWord high low }
  | _ => none

def fwEntity (longOnly : Bool) (featureIndex entity : UInt8) : Conversation (Option FwEntity) := do
  match ← request longOnly deviceIndexBase featureIndex fnGet [entity] with
  | none => return none
  | some resp => return FwEntity.parse resp

/-- The loop of `enumerate_features` over the indexes that are left. -/
def enumerateFrom (longOnly : Bool) (setIndex : UInt8) :
    List UInt8 → List (UInt8 × UInt16) → Conversation (List (UInt8 × UInt16))
  | [], out => return out
  | i :: indexes, out => do
      match ← request longOnly deviceIndexBase setIndex fnGet [i] with
      | some (high :: low :: _) =>
          if beWord high low ≠ 0 then
            enumerateFrom longOnly setIndex indexes (out ++ [(i, beWord high low)])
          else enumerateFrom longOnly setIndex indexes out
      | _ => enumerateFrom longOnly setIndex indexes out

/-- `1..=count` -/
def indexesUpTo (count : UInt8) : List UInt8 :=
  (List.range count.toNat).map fun i => UInt8.ofNat (i + 1)

def enumerateFeatures (longOnly : Bool) : Conversation (Option (List (UInt8 × UInt16))) := do
  match ← resolveFeatureIndex longOnly featureSet with
  | none => return none
  | some setIndex =>
      match ← request longOnly deviceIndexBase setIndex fnGetInfo [] with
      | none => return none
      | some resp =>
          match resp.head? with
          | none => return none
          | some count =>
              let out ← enumerateFrom longOnly setIndex (indexesUpTo count) []
              return some out

def revLong (deviceIndex featureIndex function : UInt8) (params : Bytes) : Bytes :=
  [reportIdLong, deviceIndex, featureIndex, (function <<< 4) ||| revSwId] ++ padded params 16

/-- What `rev_send` writes, by `long_requests_only`. -/
def revReport (longOnly : Bool) (idx function p0 : UInt8) : Bytes :=
  if longOnly then revLong 0xff idx function [p0]
  else [reportIdShort, 0xff, idx, (function <<< 4) ||| revSwId, p0, 0, 0]

def revSend (longOnly : Bool) (idx function p0 : UInt8) : Conversation Bool :=
  Program.writeReport (revReport longOnly idx function p0)

/-- What `rev_state` makes of a report: nothing, the end of the search, or the state. -/
def takesState (idx : UInt8) (resp : Bytes) : Bool :=
  5 ≤ resp.length ∧ (resp[0]? = some reportIdShort ∨ resp[0]? = some reportIdLong ∨
    resp[0]? = some reportIdVeryLong) ∧ resp[2]? ≠ some 0xff ∧ resp[2]? = some idx ∧
    (resp[3]?).map (· >>> (4 : UInt8)) = some 2

/-- The loop of `rev_state`, whose deadline passes once `reads` reports are read. -/
def revStateLoop (idx : UInt8) : ℕ → Conversation (Option UInt8)
  | 0 => return none
  | reads + 1 => do
      match ← Program.readReport with
      | none => return none
      | some resp =>
          if resp.length < 5 ∨ (resp[0]? ≠ some reportIdShort ∧ resp[0]? ≠ some reportIdLong ∧
              resp[0]? ≠ some reportIdVeryLong) then
            revStateLoop idx reads
          else if resp[2]? = some 0xff then
            return none
          else if resp[2]? = some idx ∧ (resp[3]?).map (· >>> (4 : UInt8)) = some 2 then
            return resp[4]?
          else revStateLoop idx reads

def revState (longOnly : Bool) (idx : UInt8) (reads : ℕ) : Conversation (Option UInt8) := do
  if !(← Program.writeReport (revReport longOnly idx 2 0)) then
    return none
  revStateLoop idx reads

/-- The check of `request`: the report echoes the question's device, feature, function and
software id. -/
def echoes (question resp : Bytes) : Bool :=
  4 ≤ resp.length ∧ resp[1]? = question[1]? ∧ resp[2]? = question[2]? ∧ resp[3]? = question[3]?

section Specs

variable {longOnly : Bool} {record : Record Bytes}

theorem requestReport_header (longOnly : Bool) (deviceIndex featureIndex function : UInt8)
    (params : Bytes) :
    (requestReport longOnly deviceIndex featureIndex function params)[1]? = some deviceIndex ∧
      (requestReport longOnly deviceIndex featureIndex function params)[2]? = some featureIndex ∧
      (requestReport longOnly deviceIndex featureIndex function params)[3]? =
        some (function ||| swId) := by
  cases longOnly <;> exact ⟨rfl, rfl, rfl⟩

theorem request_ensures (deviceIndex featureIndex function : UInt8) (params : Bytes) :
    Program.Ensures echoes (fun after result => record.answered ⊆ after.answered ∧
      ∀ resp, result = some resp → ∃ report, resp = report.drop 4 ∧
        after.has (requestReport longOnly deviceIndex featureIndex function params) report)
      record (request longOnly deviceIndex featureIndex function params) := by
  rcases requestReport_header longOnly deviceIndex featureIndex function params with
    ⟨device, feature, called⟩
  apply Program.Ensures.bind
  rw [Program.ensures_writeReport]
  refine ⟨⟨List.Subset.refl _, by simp⟩, ?_⟩
  apply Program.Ensures.bind
  rw [Program.ensures_readReport]
  refine ⟨⟨List.Subset.refl _, by simp⟩, ?_⟩
  intro report
  have kept := (record.ask (requestReport longOnly deviceIndex featureIndex function
    params)).subset_enter echoes report
  dsimp only
  split
  · exact ⟨kept, by simp⟩
  · rename_i echoed
    simp only [not_or, not_lt, ne_eq, not_not] at echoed
    have taken : echoes (requestReport longOnly deviceIndex featureIndex function params) report =
        true := by
      simp [echoes, device, feature, called, echoed]
    refine ⟨kept, ?_⟩
    rintro resp ⟨⟩
    refine ⟨report, rfl, ?_⟩
    simp [Record.has, Record.enter, Record.ask, taken]

theorem resolveFeatureIndex_ensures (featureId : UInt16) :
    Program.Ensures echoes (fun after result => record.answered ⊆ after.answered ∧
      ∀ idx, result = some idx → ∃ report, (report.drop 4).head? = some idx ∧
        after.has (requestReport longOnly deviceIndexBase rootFeatureIndex fnGetInfo
          (getFeatureParams featureId)) report)
      record (resolveFeatureIndex longOnly featureId) := by
  apply Program.Ensures.bind
  apply (request_ensures _ _ _ _).mono
  rintro after (_ | resp) ⟨kept, told⟩
  · exact ⟨kept, by simp⟩
  · rcases told resp rfl with ⟨report, rfl, entered⟩
    dsimp only
    split
    · exact ⟨kept, by simp⟩
    · exact ⟨kept, by simp⟩
    · rename_i idx first
      refine ⟨kept, ?_⟩
      rintro _ ⟨⟩
      exact ⟨report, first, entered⟩

theorem entityCount_ensures (featureIndex : UInt8) :
    Program.Ensures echoes (fun after result => ∀ count, result = some count →
      ∃ report, (report.drop 4).head? = some count ∧
        after.has (requestReport longOnly deviceIndexBase featureIndex fnGetInfo []) report)
      record (entityCount longOnly featureIndex) := by
  apply Program.Ensures.bind
  apply (request_ensures _ _ _ _).mono
  rintro after (_ | resp) ⟨-, told⟩
  · exact fun _ none => nomatch none
  · rcases told resp rfl with ⟨report, rfl, entered⟩
    exact fun _ first => ⟨report, first, entered⟩

theorem fwEntity_ensures (featureIndex entity : UInt8) :
    Program.Ensures echoes (fun after result => ∀ fw, result = some fw →
      ∃ report, FwEntity.parse (report.drop 4) = some fw ∧
        after.has (requestReport longOnly deviceIndexBase featureIndex fnGet [entity]) report)
      record (fwEntity longOnly featureIndex entity) := by
  apply Program.Ensures.bind
  apply (request_ensures _ _ _ _).mono
  rintro after (_ | resp) ⟨-, told⟩
  · exact fun _ none => nomatch none
  · rcases told resp rfl with ⟨report, rfl, entered⟩
    exact fun _ parsed => ⟨report, parsed, entered⟩

/-- The answers have a feature at an index. -/
def FeatureTold (longOnly : Bool) (setIndex : UInt8) (answered : Bytes → Bytes → Prop)
    (entry : UInt8 × UInt16) : Prop :=
  ∃ report high low rest, report.drop 4 = high :: low :: rest ∧ entry.2 = beWord high low ∧
    answered (requestReport longOnly deviceIndexBase setIndex fnGet [entry.1]) report

theorem FeatureTold.mono {setIndex : UInt8} {answered more : Bytes → Bytes → Prop}
    {entry : UInt8 × UInt16} (told : FeatureTold longOnly setIndex answered entry)
    (grows : ∀ question report, answered question report → more question report) :
    FeatureTold longOnly setIndex more entry := by
  rcases told with ⟨report, high, low, rest, shape, word, entered⟩
  exact ⟨report, high, low, rest, shape, word, grows _ _ entered⟩

theorem enumerateFrom_ensures (setIndex : UInt8) (indexes : List UInt8)
    (out : List (UInt8 × UInt16))
    (told : ∀ entry ∈ out, FeatureTold longOnly setIndex record.has entry) :
    Program.Ensures echoes (fun after result => record.answered ⊆ after.answered ∧
      ∀ entry ∈ result, FeatureTold longOnly setIndex after.has entry)
      record (enumerateFrom longOnly setIndex indexes out) := by
  induction indexes generalizing record out with
  | nil => exact ⟨List.Subset.refl _, told⟩
  | cons i indexes ih =>
      apply Program.Ensures.bind
      apply (request_ensures _ _ _ _).mono
      rintro after resp ⟨kept, answer⟩
      have still : ∀ entry ∈ out, FeatureTold longOnly setIndex after.has entry :=
        fun entry listed => (told entry listed).mono fun _ _ entered => kept entered
      have onwards : ∀ more, (∀ entry ∈ more, FeatureTold longOnly setIndex after.has entry) →
          Program.Ensures echoes (fun last result => record.answered ⊆ last.answered ∧
            ∀ entry ∈ result, FeatureTold longOnly setIndex last.has entry)
            after (enumerateFrom longOnly setIndex indexes more) :=
        fun more listed => (ih more listed).mono fun _ _ both => ⟨List.Subset.trans kept both.1, both.2⟩
      split
      · rename_i high low rest
        rcases answer _ rfl with ⟨report, shape, entered⟩
        split
        · apply onwards
          intro entry listed
          rcases List.mem_append.mp listed with old | new
          · exact still entry old
          · rw [List.mem_singleton] at new
            subst new
            exact ⟨report, high, low, rest, shape.symm, rfl, entered⟩
        · exact onwards out still
      · exact onwards out still

theorem enumerateFeatures_ensures :
    Program.Ensures echoes (fun after result => ∀ entries, result = some entries →
      ∃ setIndex,
        (∃ report, (report.drop 4).head? = some setIndex ∧
          after.has (requestReport longOnly deviceIndexBase rootFeatureIndex fnGetInfo
            (getFeatureParams featureSet)) report) ∧
        ∀ entry ∈ entries, FeatureTold longOnly setIndex after.has entry)
      record (enumerateFeatures longOnly) := by
  apply Program.Ensures.bind
  apply (resolveFeatureIndex_ensures _).mono
  rintro after (_ | setIndex) ⟨-, resolved⟩
  · exact fun _ none => nomatch none
  · rcases resolved setIndex rfl with ⟨report, first, entered⟩
    apply Program.Ensures.bind
    apply (request_ensures _ _ _ _).mono
    rintro counted (_ | resp) ⟨kept, -⟩
    · exact fun _ none => nomatch none
    · dsimp only
      split
      · exact fun _ none => nomatch none
      · apply Program.Ensures.bind
        apply (enumerateFrom_ensures setIndex _ [] (by simp)).mono
        rintro last result ⟨grown, told⟩ _ ⟨⟩
        exact ⟨setIndex, ⟨report, first, grown (kept entered)⟩, told⟩

theorem revStateLoop_ensures (question : Bytes) (idx : UInt8) (reads : ℕ)
    (asked : record.asked = some question) :
    Program.Ensures (fun _ => takesState idx) (fun after result => ∀ state, result = some state →
      ∃ report, report[4]? = some state ∧ after.has question report)
      record (revStateLoop idx reads) := by
  induction reads generalizing record with
  | zero => exact fun _ none => nomatch none
  | succ reads ih =>
      apply Program.Ensures.bind
      rw [Program.ensures_readReport]
      refine ⟨by simp, ?_⟩
      intro report
      have waiting : (record.enter (fun _ => takesState idx) report).asked = some question := by
        simp only [Record.enter, asked]
        split
        · rfl
        · exact asked
      dsimp only
      split
      · exact ih waiting
      · rename_i proper
        split
        · exact fun _ none => nomatch none
        · rename_i normal
          split
          · rename_i matched
            intro state first
            refine ⟨report, first, ?_⟩
            have taken : takesState idx report = true := by
              simp only [not_or, not_lt, not_and, ne_eq, not_not] at proper
              simp only [takesState, decide_eq_true_eq]
              refine ⟨proper.1, ?_, normal, matched⟩
              tauto
            simp [Record.has, Record.enter, asked, taken]
          · exact ih waiting

theorem revState_ensures (idx : UInt8) (reads : ℕ) :
    Program.Ensures (fun _ => takesState idx) (fun after result => ∀ state, result = some state →
      ∃ report, report[4]? = some state ∧ after.has (revReport longOnly idx 2 0) report)
      record (revState longOnly idx reads) := by
  apply Program.Ensures.bind
  rw [Program.ensures_writeReport]
  exact ⟨by simp, revStateLoop_ensures _ idx reads rfl⟩

end Specs

end TrueForce.Hidpp
