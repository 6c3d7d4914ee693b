import AtomicSwaps.Format.Json
import AtomicSwaps.Store.OrderedSend

namespace AtomicSwaps.Store.MakerLock

open AtomicSwaps.Core (Bytes32)
open AtomicSwaps.Store.PublicEffect (Bytes)
open AtomicSwaps.Zec (bigEndian)
open Fallible ExactPublicEffectPlanV1

section Transcript

theorem length_bigEndian (count value : Nat) : (bigEndian count value).length = count := by
  induction count with
  | zero => rfl
  | succ count ih => simp [bigEndian, ih]

theorem bigEndian_mod {count first second : Nat} (same : bigEndian count first = bigEndian count second) :
    first % 256 ^ count = second % 256 ^ count := by
  induction count with
  | zero => simp [Nat.mod_one]
  | succ count ih =>
    simp only [bigEndian, List.cons.injEq] at same
    have digits : first / 256 ^ count % 256 = second / 256 ^ count % 256 := by
      simpa using congrArg UInt8.toNat same.1
    rw [Nat.mod_pow_succ, Nat.mod_pow_succ, ih same.2, digits]

theorem bigEndian_append {count first second : Nat} {rest other : Bytes} (firstFits : first < 256 ^ count)
    (secondFits : second < 256 ^ count) (same : bigEndian count first ++ rest = bigEndian count second ++ other) :
    first = second ∧ rest = other := by
  obtain ⟨numbers, rests⟩ := List.append_inj same (by rw [length_bigEndian, length_bigEndian])
  have residues := bigEndian_mod numbers
  rw [Nat.mod_eq_of_lt firstFits, Nat.mod_eq_of_lt secondFits] at residues
  exact ⟨residues, rests⟩

theorem lenPrefixed_append {first second rest other : Bytes} (firstFits : first.length < 256 ^ 8)
    (secondFits : second.length < 256 ^ 8) (same : lenPrefixed first ++ rest = lenPrefixed second ++ other) :
    first = second ∧ rest = other := by
  simp only [lenPrefixed, List.append_assoc] at same
  obtain ⟨lengths, bodies⟩ := bigEndian_append firstFits secondFits same
  exact List.append_inj bodies lengths

variable {first second : PublicEffectStepV1} {rest other : Bytes}

theorem PublicEffectStepV1.fits (step : PublicEffectStepV1) : step.step.bytes.length < 256 ^ 8 ∧
    step.expectedPublicId.bytes.length < 256 ^ 8 ∧ step.exactBytes.bytes.length < 256 ^ 8 := by
  have id := step.step.valid.2.1
  have publicId := step.expectedPublicId.valid.2.1
  have bytes := step.exactBytes.valid.2
  unfold maxStepIdBytes at id
  unfold maxExpectedIdBytes at publicId
  unfold maxExactEffectBytes at bytes
  omega

theorem encoded_append (same : first.encoded ++ rest = second.encoded ++ other) : first = second ∧ rest = other := by
  obtain ⟨firstId, firstPublicId, firstBytes⟩ := first.fits
  obtain ⟨secondId, secondPublicId, secondBytes⟩ := second.fits
  simp only [PublicEffectStepV1.encoded, List.append_assoc] at same
  obtain ⟨ids, same⟩ := lenPrefixed_append firstId secondId same
  obtain ⟨publicIds, same⟩ := lenPrefixed_append firstPublicId secondPublicId same
  obtain ⟨bytes, rests⟩ := lenPrefixed_append firstBytes secondBytes same
  obtain ⟨⟨_, _⟩, ⟨_, _⟩, _, _⟩ := first
  obtain ⟨⟨_, _⟩, ⟨_, _⟩, _, _⟩ := second
  cases ids
  cases publicIds
  cases bytes
  exact ⟨rfl, rests⟩

/-- The count says how many steps follow, so the induction runs over two lists of one length. -/
theorem steps_encoded {first second : List PublicEffectStepV1} (lengths : first.length = second.length)
    (same : first.flatMap PublicEffectStepV1.encoded = second.flatMap PublicEffectStepV1.encoded) :
    first = second := by
  induction first generalizing second with
  | nil => exact (List.length_eq_zero_iff.mp lengths.symm).symm
  | cons step steps ih =>
    cases second with
    | nil => cases lengths
    | cons other others =>
      simp only [List.flatMap_cons] at same
      obtain ⟨rfl, rests⟩ := encoded_append same
      rw [ih (Nat.succ.inj lengths) rests]

theorem checkSteps_total {steps : List PublicEffectStepV1} {seen : List PublicEffectStepId} {totalBytes : Nat}
    (start : totalBytes ≤ maxPlanExactBytes) (checked : checkSteps seen totalBytes steps = .ok ()) :
    totalBytes + (steps.map (·.exactBytes.bytes.length)).sum ≤ maxPlanExactBytes := by
  induction steps generalizing seen totalBytes with
  | nil => exact start
  | cons step rest ih =>
    simp only [checkSteps, checked_ok] at checked
    obtain ⟨_, within, checked⟩ := checked
    have later := ih within checked
    rw [List.map_cons, List.sum_cons, ← Nat.add_assoc]
    exact later

variable {steps : List PublicEffectStepV1} {plan : ExactPublicEffectPlanV1}

theorem plan_bytes (made : new steps = .ok plan) :
    plan.steps = steps ∧ (steps.map (·.exactBytes.bytes.length)).sum ≤ maxPlanExactBytes := by
  simp only [new, checked_ok, pure_ok] at made
  obtain ⟨_, _, checked, rfl⟩ := made
  have within := checkSteps_total (Nat.zero_le _) checked
  rw [Nat.zero_add] at within
  exact ⟨rfl, within⟩

theorem transcript_injective {otherSteps : List PublicEffectStepV1} {otherPlan : ExactPublicEffectPlanV1}
    (made : new steps = .ok plan)
    (otherMade : new otherSteps = .ok otherPlan)
    (same : plan.transcript = otherPlan.transcript) : plan = otherPlan := by
  obtain ⟨_, bounded, _, version⟩ := plan_made made
  obtain ⟨_, otherBounded, _, otherVersion⟩ := plan_made otherMade
  obtain ⟨rfl, _⟩ := plan_bytes made
  obtain ⟨rfl, _⟩ := plan_bytes otherMade
  simp only [transcript, version, otherVersion, List.append_assoc,
    List.append_cancel_left_eq] at same
  obtain ⟨lengths, same⟩ := bigEndian_append (by omega) (by omega) same
  obtain ⟨_, _⟩ := plan
  obtain ⟨_, _⟩ := otherPlan
  cases version
  cases otherVersion
  cases steps_encoded lengths same
  rfl

end Transcript

structure StepRecord where
  (step expectedPublicId exactBytes : Bytes)
deriving DecidableEq

structure PlanRecord where
  schemaVersion : Nat
  steps : List StepRecord
deriving DecidableEq

/-- The format a plan is written in, up to the fields of its record. -/
structure SerdeFormat (Wire : Type) where
  write : PlanRecord → Wire
  read : Wire → Option PlanRecord

inductive DecodeError
  | format
  | plan (error : PublicEffectPlanError)
  | unsupportedSchemaVersion

def PublicEffectStepV1.serialize (step : PublicEffectStepV1) : StepRecord :=
  ⟨step.step.bytes, step.expectedPublicId.bytes, step.exactBytes.bytes⟩

def PublicEffectStepV1.deserialize (record : StepRecord) : Except PublicEffectPlanError PublicEffectStepV1 := do
  let step ← PublicEffectStepId.new record.step
  let expectedPublicId ← ExpectedPublicEffectId.new record.expectedPublicId
  let exactBytes ← ExactPublicEffectBytes.new record.exactBytes
  return ⟨step, expectedPublicId, exactBytes⟩

section Serde

variable {Wire : Type} (format : SerdeFormat Wire)

def ExactPublicEffectPlanV1.record (plan : ExactPublicEffectPlanV1) : PlanRecord :=
  ⟨plan.schemaVersion, plan.steps.map PublicEffectStepV1.serialize⟩

def ExactPublicEffectPlanV1.serialize (plan : ExactPublicEffectPlanV1) : Wire := format.write plan.record

/-- The steps are decoded with the record, before its version is looked at. -/
def ExactPublicEffectPlanV1.deserialize (wire : Wire) : Except DecodeError ExactPublicEffectPlanV1 := do
  let record ← required (format.read wire) .format
  let steps ← (record.steps.mapM PublicEffectStepV1.deserialize).mapError .plan
  ensure (record.schemaVersion = exactPublicEffectPlanSchemaV1) .unsupportedSchemaVersion
  (new steps).mapError .plan

theorem step_reads_back (step : PublicEffectStepV1) : PublicEffectStepV1.deserialize step.serialize = .ok step := by
  have id : PublicEffectStepId.new step.step.bytes = .ok step.step := dif_pos step.step.valid
  have publicId : ExpectedPublicEffectId.new step.expectedPublicId.bytes = .ok step.expectedPublicId :=
    dif_pos step.expectedPublicId.valid
  have bytes : ExactPublicEffectBytes.new step.exactBytes.bytes = .ok step.exactBytes :=
    dif_pos step.exactBytes.valid
  simp only [PublicEffectStepV1.deserialize, PublicEffectStepV1.serialize, id, publicId, bytes, ok_bind]
  rfl

theorem steps_read_back (steps : List PublicEffectStepV1) :
    (steps.map PublicEffectStepV1.serialize).mapM PublicEffectStepV1.deserialize = .ok steps := by
  induction steps with
  | nil => rfl
  | cons step steps ih =>
    rw [List.map_cons, List.mapM_cons, step_reads_back, ok_bind, ih, ok_bind]
    rfl

theorem plan_commitment_binds_plan :
    (∀ sha256 (plan : ExactPublicEffectPlanV1), plan.commitment sha256 = sha256 plan.transcript) ∧
    (∀ {firstSteps secondSteps first second}, new firstSteps = .ok first →
      new secondSteps = .ok second → first.transcript = second.transcript →
      first = second) ∧
    (∀ {steps plan}, new steps = .ok plan → format.read (format.write plan.record) = some plan.record →
      deserialize format (plan.serialize format) = .ok plan) ∧
    ∀ {wire plan}, deserialize format wire = .ok plan →
      plan.schemaVersion = exactPublicEffectPlanSchemaV1 ∧ plan.steps ≠ [] ∧ plan.steps.length ≤ maxPlanSteps ∧
      (plan.steps.map (·.step)).Nodup ∧ (plan.steps.map (·.exactBytes.bytes.length)).sum ≤ maxPlanExactBytes ∧
      new plan.steps = .ok plan := by
  refine ⟨fun _ _ => rfl, transcript_injective, ?_, ?_⟩
  · intro steps plan made roundTrip
    obtain ⟨rfl, _⟩ := plan_bytes made
    have version := (plan_made made).2.2.2
    simp only [deserialize, serialize, roundTrip, required, ok_bind]
    simp only [record, steps_read_back, version, exactPublicEffectPlanSchemaV1, ensure_ok, made, ok_bind, mapError_ok]
  · intro wire plan read
    simp only [deserialize, checked_ok, required_ok_iff, mapError_ok_iff] at read
    obtain ⟨record, _, steps, _, _, made⟩ := read
    obtain ⟨rfl, total⟩ := plan_bytes made
    obtain ⟨nonempty, bounded, nodup, version⟩ := plan_made made
    exact ⟨version, nonempty, bounded, nodup, total, made⟩

end Serde

section Sample

open Json (Text ascii)

variable {Item : Type}

/-- A reader gives what it read and the text behind it. -/
abbrev Reader (Item : Type) : Type := Text → Option (Item × Text)

def expected (literal : String) (text : Text) : Option Text :=
  if text.take (ascii literal).length = ascii literal then some (text.drop (ascii literal).length) else none

def readString : Reader Bytes
  | [] => none
  | 34 :: rest => some ([], rest)
  | 92 :: byte :: rest | byte :: rest => (readString rest).map fun read => (byte :: read.1, read.2)

def readNumber : Reader Nat := fun text =>
  let digits := text.takeWhile isAsciiDigit
  if digits = [] then none
  else some (digits.foldl (fun value digit => 10 * value + (digit.toNat - 48)) 0, text.drop digits.length)

def readArray (item : Reader Item) : Nat → Reader (List Item)
  | 0, _ => none
  | fuel + 1, text => do
    let (first, text) ← item text
    match text with
    | 93 :: text => return ([first], text)
    | 44 :: text =>
      let (rest, text) ← readArray item fuel text
      return (first :: rest, text)
    | _ => none

def readStep : Reader StepRecord := fun text => do
  let text ← expected "\x7b\"step\":\"" text
  let (step, text) ← readString text
  let text ← expected ",\"expected_public_id\":\"" text
  let (expectedPublicId, text) ← readString text
  let text ← expected ",\"exact_bytes\":[" text
  let (exactBytes, text) ← readArray readNumber text.length text
  let text ← expected "\x7d" text
  return (⟨step, expectedPublicId, exactBytes.map UInt8.ofNat⟩, text)

/-- Compact JSON, read in the one layout it is written in. -/
def sampleJson : SerdeFormat Text where
  write record := Json.object [("schema_version", Json.number record.schemaVersion),
    ("steps", Json.array (record.steps.map fun step => Json.object [("step", Json.quoted step.step),
      ("expected_public_id", Json.quoted step.expectedPublicId), ("exact_bytes", Json.bytes step.exactBytes)]))]
  read text := do
    let text ← expected "\x7b\"schema_version\":" text
    let (schemaVersion, text) ← readNumber text
    let text ← expected ",\"steps\":[" text
    let (steps, text) ← readArray readStep text.length text
    if text = ascii "\x7d" then some ⟨schemaVersion, steps⟩ else none

theorem plan_commitment_binds_plan_sample :
    ∃ plan reversed, new [sampleFirst, sampleSecond] = .ok plan ∧
      new [sampleSecond, sampleFirst] = .ok reversed ∧
      plan.transcript ≠ reversed.transcript ∧
      deserialize sampleJson (plan.serialize sampleJson) = .ok plan := by
  obtain ⟨_, injective, reads, _⟩ := plan_commitment_binds_plan sampleJson
  have made : new [sampleFirst, sampleSecond] = .ok ⟨1, [sampleFirst, sampleSecond]⟩ := rfl
  have madeReversed : new [sampleSecond, sampleFirst] =
      .ok ⟨1, [sampleSecond, sampleFirst]⟩ := rfl
  refine ⟨_, _, made, madeReversed, fun same => ?_, reads made (by decide +kernel)⟩
  cases injective made madeReversed same

end Sample

end AtomicSwaps.Store.MakerLock
