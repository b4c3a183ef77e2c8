import KernelProbe.Codec.Encode
import KernelProbe.Json.Parser

/-!
# Records from JSON

Reading back what `toJson` writes, and a little more: fields in any order and unknown ones among
them, a missing optional field for an absent value, a structure as an array of its fields, a plain
name as an object with that name and `null`. A known field that comes twice is refused.

An outcome is read in two passes, since its verdict may stand anywhere; on the first pass its whole
value is taken up, so every text in it must be readable, every number finite, and nothing nested
deeper than `maxNesting`.
-/

namespace KernelProbe

namespace Json

/-- The greatest number of arrays and objects around a value that is taken up. -/
def maxNesting : Nat := 127

/-- The values of the named fields of a structure, in that order: from an object that has each at
most once, or from an array of exactly those fields. -/
def structure? (names : List String) : Json → Option (List (Option Json))
  | object fields =>
    if names.any fun n => 1 < (fields.map (·.1)).count n then none
    else some (names.map fun n => fields.lookup n)
  | array items => if items.length = names.length then some (items.map some) else none
  | _ => none

/-- The value of a field that must be there. -/
def required {α : Type} (read : Json → Option α) (field : Option Json) : Option α :=
  field.bind read

/-- The value of a field that may be missing or `null`. -/
def optional {α : Type} (read : Json → Option α) : Option Json → Option (Option α)
  | none => some none
  | some .null => some none
  | some j => (read j).map some

/-- An integer between two bounds, both included. -/
def intBetween? (lo hi : Int) (j : Json) : Option Int :=
  match j.int? with
  | some i => if lo ≤ i ∧ i ≤ hi then some i else none
  | none => none

/-- A signed word of 64 bits. -/
def int64? (j : Json) : Option Int64 :=
  (j.intBetween? (-0x8000000000000000) 0x7fffffffffffffff).map Int64.ofInt

/-- A signed word of 32 bits. -/
def int32? (j : Json) : Option Int32 := (j.intBetween? (-0x80000000) 0x7fffffff).map Int32.ofInt

/-- An unsigned word of 64 bits. -/
def uint64? (j : Json) : Option UInt64 :=
  (j.intBetween? 0 0xffffffffffffffff).map UInt64.ofInt

/-- An unsigned word of 32 bits. -/
def uint32? (j : Json) : Option UInt32 := (j.intBetween? 0 0xffffffff).map UInt32.ofInt

/-- An array of values of one kind. -/
def list? {α : Type} (read : Json → Option α) (j : Json) : Option (List α) :=
  j.items?.bind (·.mapM read)

/-- A pair of texts. -/
def pair? : Json → Option (String × String)
  | array [.string a, .string b] => some (a, b)
  | _ => none

/-- A name out of a fixed set: a text, or an object with that one name. Its value is `null`; where
the object was `takenUp` before, an empty object counts as no value too. -/
def name? {α : Type} (takenUp : Bool) (ofName : String → Option α) : Json → Option α
  | string s => ofName s
  | object [(s, null)] => ofName s
  | object [(s, object [])] => if takenUp then ofName s else none
  | _ => none

/-- How many binary digits a floating point number of 64 bits has. -/
def floatPrecision : Nat := 53

/-- The floating point number next to a natural number, of two the one whose last digit is even. -/
def roundToFloat (n : Nat) : Nat :=
  let unit := Nat.pow 2 (n.log2 + 1 - floatPrecision)
  let below := n / unit
  let excess := n % unit
  if unit < 2 * excess ∨ (2 * excess = unit ∧ below % 2 = 1) then (below + 1) * unit
  else below * unit

/-- The greatest power of ten that is a finite floating point number. -/
def maxPower : Nat := 308

/-- The least product that is rounded to infinity. -/
def leastInfinite : Nat := Nat.pow 2 1024 - Nat.pow 2 970

/-- Whether a number is infinite, if it is computed as the product of its digits and the power of
ten, each of them rounded before. -/
def isInfinite : JsonNumber → Bool
  | .integer _ => false
  | .real _ significand exponent =>
    significand != 0 && (decide ((maxPower : Int) < exponent) || (decide (0 ≤ exponent) &&
      decide (leastInfinite ≤ roundToFloat significand * roundToFloat (Nat.pow 10 exponent.toNat))))

mutual

/-- Whether a value inside `depth` arrays and objects can be taken up. -/
def canTakeUp (depth : Nat) : Json → Bool
  | null | bool _ | string _ => true
  | number n => !isInfinite n
  | unreadable => false
  | array items => decide (depth < maxNesting) && canTakeUpItems (depth + 1) items
  | object fields => decide (depth < maxNesting) && canTakeUpFields (depth + 1) fields

/-- Whether all items can be taken up. -/
def canTakeUpItems (depth : Nat) : List Json → Bool
  | [] => true
  | item :: rest => canTakeUp depth item && canTakeUpItems depth rest

/-- Whether all values of fields can be taken up. -/
def canTakeUpFields (depth : Nat) : List (String × Json) → Bool
  | [] => true
  | (_, value) :: rest => canTakeUp depth value && canTakeUpFields depth rest

end

end Json

open Json

/-- Read a system call. -/
def Syscall.ofJson? : Json → Option Syscall := name? false Syscall.ofName?

/-- Read an exec model. -/
def ExecModel.ofJson? : Json → Option ExecModel := name? false ExecModel.ofName?

/-- Read a thread id model. -/
def ThreadIdModel.ofJson? : Json → Option ThreadIdModel := name? false ThreadIdModel.ofName?

/-- Read a kind of failure. -/
def FailureKind.ofJson? (takenUp : Bool := false) : Json → Option FailureKind :=
  name? takenUp FailureKind.ofName?

/-- Read a diagnosis. -/
def Diagnosis.ofJson? (j : Json) (takenUp : Bool := false) : Option Diagnosis :=
  match j.structure? ["kind", "message", "raw_return", "errno", "errno_name"] with
  | some [kind, message, ret, errno, errnoName] => do
    return {
      kind := ← required (FailureKind.ofJson? takenUp) kind
      message := ← required text? message
      rawReturn := ← optional int64? ret
      errno := ← optional int32? errno
      errnoName := ← optional text? errnoName }
  | _ => none

/-- The outcome of a verdict; a pass looks at nothing but that it has no further items. -/
def Outcome.ofVerdict? (rest : Json) : String → Option Outcome
  | "PASS" => match rest with
    | .array (_ :: _) => none
    | _ => some .pass
  | "FAIL" => (Diagnosis.ofJson? rest true).map .fail
  | "SKIPPED" => (Diagnosis.ofJson? rest true).map .skipped
  | _ => none

/-- Read an outcome inside `depth` arrays and objects. -/
def Outcome.ofJson? (depth : Nat) (j : Json) : Option Outcome :=
  if !j.canTakeUp depth then none
  else match j with
    | .object fields =>
      match fields.filter (·.1 == "verdict") with
      | [(_, .string verdict)] =>
        Outcome.ofVerdict? (.object (fields.filter (·.1 != "verdict"))) verdict
      | _ => none
    | .array (.string verdict :: rest) => Outcome.ofVerdict? (.array rest) verdict
    | _ => none

/-- Read evidence. -/
def Evidence.ofJson? (j : Json) : Option Evidence := (j.list? pair?).map Evidence.mk

/-- Read a record inside `depth` arrays and objects. -/
def ProbeRecord.ofJson? (depth : Nat) (j : Json) : Option ProbeRecord :=
  match j.structure? ["group", "probe", "syscalls", "outcome", "evidence", "elapsed_us"] with
  | some [group, probe, syscalls, outcome, evidence, elapsed] => do
    return {
      group := ← required text? group
      probe := ← required text? probe
      syscalls := ← required (list? Syscall.ofJson?) syscalls
      outcome := ← required (Outcome.ofJson? (depth + 1)) outcome
      evidence := ← required Evidence.ofJson? evidence
      elapsedMicros := ← required uint64? elapsed }
  | _ => none

/-- Read a summary. -/
def RunSummary.ofJson? (j : Json) : Option RunSummary :=
  match j.structure?
    ["run_id", "started_at", "records", "passed", "failed", "skipped", "complete"] with
  | some [runId, startedAt, records, passed, failed, skipped, complete] => do
    return {
      runId := ← required text? runId
      startedAt := ← required int64? startedAt
      records := ← required (list? (ProbeRecord.ofJson? 2)) records
      passed := (← required uint64? passed).toNat
      failed := (← required uint64? failed).toNat
      skipped := (← required uint64? skipped).toNat
      complete := ← required bool? complete }
  | _ => none

/-- Read an identification. -/
def UtsName.ofJson? (j : Json) : Option UtsName :=
  match j.structure? ["sysname", "nodename", "release", "version", "machine", "domainname"] with
  | some [sysname, nodename, release, version, machine, domainname] => do
    return {
      sysname := ← required text? sysname
      nodename := ← required text? nodename
      release := ← required text? release
      version := ← required text? version
      machine := ← required text? machine
      domainname := ← required text? domainname }
  | _ => none

end KernelProbe
