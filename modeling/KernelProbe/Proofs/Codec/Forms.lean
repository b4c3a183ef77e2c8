import KernelProbe.Proofs.Codec.Record

/-!
# Reading back a text

What a run leaves behind is kept as JSON texts: names of calls, models and kinds of failure,
diagnoses, outcomes, evidence, records, summaries and identifications. `Form` lists these kinds of
values with how each is written and read.

`Form.read_undoes_write` says of all of them that a value is read back from its text, and that a
text which is read, however it was laid out, is written in a form that does not change any more.
-/

namespace KernelProbe

open Json

/-! ### Words and names -/

/-- A number that fits a word is read as it is written. -/
theorem Json.reread_nat {n : Nat} (h : n < UInt64.size) : (Json.nat n).reread = Json.nat n := by
  rw [UInt64.size] at h
  exact reread_int (by omega) (by omega)

theorem Json.reread_int64 (w : Int64) : (Json.int w.toInt).reread = Json.int w.toInt :=
  reread_int (by have := w.le_toInt; omega) (by have := w.toInt_lt; omega)

@[simp] theorem Json.reread_bool (b : Bool) : (Json.bool b).reread = .bool b := by simp [reread]

/-- A number that fits a word is read back. -/
theorem Json.uint64?_of_lt {n : Nat} (h : n < UInt64.size) :
    Json.uint64? (.nat n) = some (UInt64.ofNat n) := by
  have hword : (UInt64.ofNat n).toNat = n := UInt64.toNat_ofNat_of_lt' h
  have hread := Json.uint64?_nat (UInt64.ofNat n)
  rwa [hword] at hread

@[simp] theorem ExecModel.ofName?_name (m : ExecModel) : ExecModel.ofName? m.name = some m := by
  cases m <;> decide

@[simp] theorem ThreadIdModel.ofName?_name (m : ThreadIdModel) :
    ThreadIdModel.ofName? m.name = some m := by
  cases m <;> decide

/-! ### Summaries and identifications -/

/-- The numbers of verdicts are words, as the counters of a run are. -/
structure RunSummary.CountsFit (s : RunSummary) : Prop where
  passed : s.passed < UInt64.size
  failed : s.failed < UInt64.size
  skipped : s.skipped < UInt64.size

theorem ProbeRecord.reread_toJson (r : ProbeRecord) : r.toJson.reread = r.toJson := by
  rw [ProbeRecord.toJson, reread_object, r.reread_fields]

theorem RunSummary.reread_toJson {s : RunSummary} (h : s.CountsFit) :
    s.toJson.reread = s.toJson := by
  have hrecords : (s.records.map ProbeRecord.toJson).map Json.reread
      = s.records.map ProbeRecord.toJson := by
    rw [List.map_map]
    exact List.map_congr_left fun r _ => r.reread_toJson
  simp only [RunSummary.toJson, reread_object, List.map_cons, List.map_nil, reread_string,
    reread_int64, reread_array, hrecords, reread_nat h.passed, reread_nat h.failed,
    reread_nat h.skipped, reread_bool]

/-- A summary is read back. -/
theorem RunSummary.ofJson?_toJson {s : RunSummary} (h : s.CountsFit) :
    RunSummary.ofJson? s.toJson = some s := by
  have hrecords := Json.list?_array_map (f := ProbeRecord.toJson) (g := ProbeRecord.ofJson? 2)
    (fun r => r.ofJson?_toJson (by decide)) s.records
  have hword {n : Nat} (hn : n < UInt64.size) : (UInt64.ofNat n).toNat = n :=
    UInt64.toNat_ofNat_of_lt' hn
  simp [RunSummary.ofJson?, RunSummary.toJson, structure?, List.lookup_cons, required, text?,
    bool?, hrecords, uint64?_of_lt h.passed, uint64?_of_lt h.failed, uint64?_of_lt h.skipped,
    hword h.passed, hword h.failed, hword h.skipped]

/-- The counts of a summary that was read are words. -/
theorem RunSummary.countsFit_of_ofJson? {j : Json} {s : RunSummary}
    (h : RunSummary.ofJson? j = some s) : s.CountsFit := by
  unfold RunSummary.ofJson? at h
  split at h
  next =>
    simp only [Option.bind_eq_bind, Option.bind_eq_some_iff, Option.pure_def,
      Option.some.injEq] at h
    obtain ⟨_, -, _, -, _, -, passed, -, failed, -, skipped, -, _, -, rfl⟩ := h
    exact ⟨passed.toNat_lt, failed.toNat_lt, skipped.toNat_lt⟩
  next => cases h

theorem UtsName.reread_toJson (u : UtsName) : u.toJson.reread = u.toJson := by
  simp [UtsName.toJson, UtsName.fields]

/-- An identification is read back. -/
theorem UtsName.ofJson?_toJson (u : UtsName) : UtsName.ofJson? u.toJson = some u := by
  simp [UtsName.ofJson?, UtsName.toJson, UtsName.fields, structure?, List.lookup_cons, required,
    text?]

/-! ### Forms -/

/-- The kinds of values that are kept as texts. -/
inductive Form where
  /-- A system call, by its name. -/
  | syscall
  /-- An exec model, by its name. -/
  | execModel
  /-- A thread id model, by its name. -/
  | threadIdModel
  /-- A kind of failure, by its name. -/
  | failureKind
  /-- A diagnosis. -/
  | diagnosis
  /-- An outcome, headed by its verdict. -/
  | outcome
  /-- Evidence. -/
  | evidence
  /-- A record. -/
  | record
  /-- A summary. -/
  | summary
  /-- An identification of a kernel. -/
  | identification

namespace Form

/-- The values of a kind. -/
abbrev Value : Form → Type
  | syscall => Syscall
  | execModel => ExecModel
  | threadIdModel => ThreadIdModel
  | failureKind => FailureKind
  | diagnosis => Diagnosis
  | outcome => Outcome
  | evidence => Evidence
  | record => ProbeRecord
  | summary => RunSummary
  | identification => UtsName

/-- A value as JSON. -/
def toJson : (f : Form) → f.Value → Json
  | syscall => Syscall.toJson
  | execModel => ExecModel.toJson
  | threadIdModel => ThreadIdModel.toJson
  | failureKind => FailureKind.toJson
  | diagnosis => Diagnosis.toJson
  | outcome => Outcome.toJson
  | evidence => Evidence.toJson
  | record => ProbeRecord.toJson
  | summary => RunSummary.toJson
  | identification => UtsName.toJson

/-- The value that JSON stands for. -/
def ofJson? : (f : Form) → Json → Option f.Value
  | syscall => Syscall.ofJson?
  | execModel => ExecModel.ofJson?
  | threadIdModel => ThreadIdModel.ofJson?
  | failureKind => FailureKind.ofJson? false
  | diagnosis => (Diagnosis.ofJson? · false)
  | outcome => Outcome.ofJson? 0
  | evidence => Evidence.ofJson?
  | record => ProbeRecord.ofJson? 0
  | summary => RunSummary.ofJson?
  | identification => UtsName.ofJson?

/-- The text of a value. -/
def write (f : Form) (a : f.Value) : String := (f.toJson a).render

/-- The value that a text stands for. -/
def read? (f : Form) (text : String) : Option f.Value := (Json.parse? text).bind f.ofJson?

/-- The numbers of a value are words; of all numbers, only the counts of a summary are not so by
their type. -/
def Fits : (f : Form) → f.Value → Prop
  | summary, s => s.CountsFit
  | _, _ => True

/-- A value's JSON is read as it is written. -/
theorem reread_toJson (f : Form) {a : f.Value} (h : f.Fits a) :
    (f.toJson a).reread = f.toJson a := by
  cases f with
  | syscall | execModel | threadIdModel | failureKind => exact reread_string _
  | diagnosis =>
    rw [toJson, Diagnosis.toJson, reread_object, Diagnosis.reread_fields]
  | outcome => exact Outcome.reread_toJson a
  | evidence => simp [toJson, Evidence.toJson]
  | record => exact ProbeRecord.reread_toJson a
  | summary => exact RunSummary.reread_toJson h
  | identification => exact UtsName.reread_toJson a

/-- A value is read back from its JSON. -/
theorem ofJson?_toJson (f : Form) {a : f.Value} (h : f.Fits a) :
    f.ofJson? (f.toJson a) = some a := by
  cases f with
  | syscall => exact Syscall.ofName?_name a
  | execModel => exact ExecModel.ofName?_name a
  | threadIdModel => exact ThreadIdModel.ofName?_name a
  | failureKind => exact FailureKind.ofName?_name a
  | diagnosis => exact Diagnosis.ofJson?_toJson a false
  | outcome => exact Outcome.ofJson?_toJson a (by decide)
  | evidence => exact Evidence.ofJson?_toJson a
  | record => exact ProbeRecord.ofJson?_toJson a (by decide)
  | summary => exact RunSummary.ofJson?_toJson h
  | identification => exact UtsName.ofJson?_toJson a

/-- What is read has words for numbers. -/
theorem fits_of_ofJson? (f : Form) {j : Json} {a : f.Value} (h : f.ofJson? j = some a) :
    f.Fits a := by
  cases f with
  | summary => exact RunSummary.countsFit_of_ofJson? h
  | _ => trivial

theorem read?_of_fits (f : Form) {a : f.Value} (h : f.Fits a) : f.read? (f.write a) = some a := by
  rw [read?, write, parse?_render, f.reread_toJson h, Option.bind_some, f.ofJson?_toJson h]

/-- Reading undoes writing, for every kind of value that is kept as a text: a value is read back
from its text, and so is the value of any text that is read; writing that value settles its text,
which reading and writing again does not change. -/
theorem read_undoes_write (f : Form) :
    (∀ a : f.Value, f.Fits a → f.read? (f.write a) = some a) ∧
      ∀ (text : String) (a : f.Value), f.read? text = some a →
        f.read? (f.write a) = some a ∧ (f.read? (f.write a)).map f.write = some (f.write a) := by
  refine ⟨fun a => f.read?_of_fits, fun text a h => ?_⟩
  obtain ⟨j, -, hj⟩ := Option.bind_eq_some_iff.mp h
  have hread : f.read? (f.write a) = some a := f.read?_of_fits (f.fits_of_ofJson? hj)
  exact ⟨hread, by rw [hread, Option.map_some]⟩

/-- A summary of one probe that is turned off is read back. -/
theorem read_undoes_write_disabled :
    let s : RunSummary :=
      { runId := "r", startedAt := -1, skipped := 1,
        records := [⟨"output", "😀\n", [.write], .skipped (.of .disabled "\"" none), .empty, 7⟩] }
    summary.Fits s ∧ summary.read? (summary.write s) = some s := by
  intro s
  have hfits : summary.Fits s := ⟨by decide, by decide, by decide⟩
  exact ⟨hfits, (read_undoes_write summary).1 s hfits⟩

-- an outcome laid out as an array, with an escape for each unit of a character, becomes an object
example :
    (outcome.read? "[\"SKIPPED\", \"DISABLED\", \"\\u0000\\ud83d\\ude00\", -1, null, null]").map
        outcome.write =
      some ("\x7b\"verdict\":\"SKIPPED\",\"kind\":\"DISABLED\",\"message\":\"\\u0000😀\","
        ++ "\"raw_return\":-1,\"errno\":null,\"errno_name\":null\x7d") := by
  decide +kernel

end Form

end KernelProbe
