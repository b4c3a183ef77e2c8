import KernelProbe.Codec.Decode
import KernelProbe.Proofs.Json.RoundTrip

/-!
# Reading back a record

The text of a record holds nothing but texts and words, so it is read back as it was written
(`ProbeRecord.reread_fields`), and what is read there is the record (`ProbeRecord.ofJson?_fields`),
whatever unknown field stands in front of it.
-/

namespace KernelProbe

open Json

/-! ### The text -/

theorem Json.reread_ofOption {α : Type} {f : α → Json} (h : ∀ a, (f a).reread = f a)
    (o : Option α) : (Json.ofOption f o).reread = Json.ofOption f o := by
  cases o with
  | none => exact reread_null
  | some a => exact h a

/-- The fields of a diagnosis are read as they are written. -/
theorem Diagnosis.reread_fields (d : Diagnosis) :
    d.fields.map (fun field => (field.1, field.2.reread)) = d.fields := by
  have hreturn (r : Int64) : (Json.int r.toInt).reread = Json.int r.toInt := 
    reread_int (by have := r.le_toInt; omega) (by have := r.toInt_lt; omega)
  have herrno (e : Int32) : (Json.int e.toInt).reread = Json.int e.toInt :=
    reread_int (by have := e.le_toInt; omega) (by have := e.toInt_lt; omega)
  simp [Diagnosis.fields, FailureKind.toJson, reread_ofOption hreturn, reread_ofOption herrno,
    reread_ofOption reread_string]

theorem Outcome.reread_toJson (o : Outcome) : o.toJson.reread = o.toJson := by
  cases o <;> simp [Outcome.toJson, Outcome.diagnosis?, Diagnosis.reread_fields]

/-- The fields of a record are read as they are written. -/
theorem ProbeRecord.reread_fields (r : ProbeRecord) :
    r.fields.map (fun field => (field.1, field.2.reread)) = r.fields := by
  have helapsed : (Json.nat r.elapsedMicros.toNat).reread = Json.nat r.elapsedMicros.toNat :=
    reread_int (by omega) (by have := r.elapsedMicros.toNat_lt; omega)
  simp [ProbeRecord.fields, Outcome.reread_toJson, Evidence.toJson, Syscall.toJson, helapsed]

/-! ### The record -/

@[simp] theorem Json.int64?_int (w : Int64) : Json.int64? (.int w.toInt) = some w := by
  have hlo := w.le_toInt
  have hhi := w.toInt_lt
  simp [Json.int64?, Json.intBetween?, Json.int, Json.int?]
  omega

@[simp] theorem Json.int32?_int (w : Int32) : Json.int32? (.int w.toInt) = some w := by
  have hlo := w.le_toInt
  have hhi := w.toInt_lt
  simp [Json.int32?, Json.intBetween?, Json.int, Json.int?]
  omega

@[simp] theorem Json.uint64?_nat (w : UInt64) : Json.uint64? (.nat w.toNat) = some w := by
  have hhi := w.toNat_lt
  have hword : UInt64.ofInt w.toNat = w := by
    have hmod : ((w.toNat : Int) % 18446744073709551616).toNat = w.toNat := by omega
    simp [UInt64.ofInt, hmod]
  simp [Json.uint64?, Json.intBetween?, Json.int, Json.nat, Json.int?, hword]
  omega

theorem Json.optional_ofOption {α : Type} {f : α → Json} {g : Json → Option α}
    (hread : ∀ a, g (f a) = some a) (hnull : ∀ a, f a ≠ .null) (o : Option α) :
    Json.optional g (some (Json.ofOption f o)) = some o := by
  cases o with
  | none => rfl
  | some a =>
    have hsome : Json.optional g (some (f a)) = (g (f a)).map some := by
      unfold Json.optional
      split
      next h => cases h
      next h => exact absurd (Option.some.inj h) (hnull a)
      next h => rw [Option.some.inj h]
    rw [Json.ofOption, hsome, hread a, Option.map_some]

@[simp] theorem Json.list?_array_map {α : Type} {f : α → Json} {g : Json → Option α}
    (hread : ∀ a, g (f a) = some a) (as : List α) :
    Json.list? g (.array (as.map f)) = some as := by
  have hmap : ∀ as : List α, (as.map f).mapM g = some as := by
    intro as
    induction as with
    | nil => rfl
    | cons a as ih => simp [List.mapM_cons, hread, ih]
  exact hmap as

/-- A diagnosis is read back. -/
theorem Diagnosis.ofJson?_toJson (d : Diagnosis) (takenUp : Bool) :
    Diagnosis.ofJson? d.toJson takenUp = some d := by
  have hkind : FailureKind.ofJson? takenUp d.kind.toJson = some d.kind := by
    simp [FailureKind.ofJson?, FailureKind.toJson, name?]
  have hreturn := optional_ofOption Json.int64?_int (by simp [Json.int]) d.rawReturn
  have herrno := optional_ofOption Json.int32?_int (by simp [Json.int]) d.errno
  have hname := optional_ofOption (f := .string) (g := text?) (fun _ => rfl) (by simp) d.errnoName
  simp [Diagnosis.ofJson?, Diagnosis.toJson, Diagnosis.fields, structure?, List.lookup_cons,
    required, text?, hkind, hreturn, herrno, hname]

/-- A diagnosis can be taken up on the first pass. -/
theorem Diagnosis.canTakeUpFields_fields (d : Diagnosis) (depth : Nat) :
    canTakeUpFields depth d.fields = true := by
  have hreturn : canTakeUp depth (ofOption (fun r : Int64 => .int r.toInt) d.rawReturn) := by
    cases d.rawReturn <;> rfl
  have herrno : canTakeUp depth (ofOption (fun e : Int32 => .int e.toInt) d.errno) := by
    cases d.errno <;> rfl
  have hname : canTakeUp depth (ofOption .string d.errnoName) := by cases d.errnoName <;> rfl
  simp [Diagnosis.fields, canTakeUpFields, canTakeUp, FailureKind.toJson, hreturn, herrno, hname]

/-- The verdict is the one field of an outcome that no diagnosis has. -/
theorem Diagnosis.filter_fields (d : Diagnosis) :
    d.fields.filter (·.1 == "verdict") = [] ∧ d.fields.filter (·.1 != "verdict") = d.fields := by
  constructor <;> simp [Diagnosis.fields]

/-- An outcome is read back. -/
theorem Outcome.ofJson?_toJson (o : Outcome) {depth : Nat} (h : depth < maxNesting) :
    Outcome.ofJson? depth o.toJson = some o := by
  cases o with
  | pass => simp [Outcome.ofJson?, Outcome.toJson, Outcome.diagnosis?, Outcome.verdict, canTakeUp,
      canTakeUpFields, h, Outcome.ofVerdict?]
  | fail d | skipped d =>
    have hread := d.ofJson?_toJson true
    rw [Diagnosis.toJson] at hread
    simp [Outcome.ofJson?, Outcome.toJson, Outcome.diagnosis?, Outcome.verdict, canTakeUp,
      canTakeUpFields, h, d.canTakeUpFields_fields, d.filter_fields, Outcome.ofVerdict?, hread]

/-- Evidence is read back. -/
theorem Evidence.ofJson?_toJson (e : Evidence) : Evidence.ofJson? e.toJson = some e := by
  have hpairs := Json.list?_array_map (g := pair?)
    (f := fun (entry : String × String) => .array [.string entry.1, .string entry.2])
    (fun _ => rfl) e.entries
  rw [Evidence.ofJson?, Evidence.toJson, hpairs, Option.map_some]

/-- A record is read back. -/
theorem ProbeRecord.ofJson?_toJson (r : ProbeRecord) {depth : Nat} (h : depth + 1 < maxNesting) :
    ProbeRecord.ofJson? depth r.toJson = some r := by
  have hsyscalls := Json.list?_array_map (f := Syscall.toJson) (g := Syscall.ofJson?)
    (fun s => by simp [Syscall.ofJson?, Syscall.toJson, name?]) r.syscalls
  simp [ProbeRecord.ofJson?, ProbeRecord.toJson, ProbeRecord.fields, structure?, List.lookup_cons,
    required, hsyscalls, r.outcome.ofJson?_toJson h, r.evidence.ofJson?_toJson, text?]

/-- A field that a structure does not have is passed over. -/
theorem Json.structure?_cons {names : List String} {name : String} (h : name ∉ names)
    (value : Json) (fields : List (String × Json)) :
    structure? names (.object ((name, value) :: fields)) = structure? names (.object fields) := by
  have hne : ∀ n ∈ names, name ≠ n := fun n hn heq => h (heq ▸ hn)
  have hcount : (names.any fun n => 1 < (((name, value) :: fields).map (·.1)).count n) =
      names.any fun n => 1 < (fields.map (·.1)).count n := by
    rw [Bool.eq_iff_iff, List.any_eq_true, List.any_eq_true]
    refine exists_congr fun n => and_congr_right fun hn => ?_
    rw [List.map_cons, List.count_cons_of_ne (hne n hn)]
  have hlookup : (names.map fun n => ((name, value) :: fields).lookup n) =
      names.map fun n => fields.lookup n :=
    List.map_congr_left fun n hn => by
      rw [List.lookup_cons, beq_false_of_ne (hne n hn).symm]
  simp only [structure?, hcount, hlookup]

/-- A record is read back behind a field that it does not have. -/
theorem ProbeRecord.ofJson?_cons (r : ProbeRecord) {name : String} (h : name ∉ r.fields.map (·.1))
    (value : Json) : ProbeRecord.ofJson? 0 (.object ((name, value) :: r.fields)) = some r := by
  have hread : ProbeRecord.ofJson? 0 r.toJson = some r := r.ofJson?_toJson (by decide)
  unfold ProbeRecord.ofJson? at hread ⊢
  rwa [structure?_cons (by simpa [ProbeRecord.fields] using h)]

end KernelProbe
