import Mathlib.Tactic.Simproc.ExistsAndEq
import KernelProbe.Program.Step
import KernelProbe.Proofs.Program.Plays

/-!
# What a step can go through

Steps of a probe and parts of a session are programs over a state that may stop early.
`Staged.Plays s c j r c'` says that such a program can go through the journal `j` from the state `c`
to the result `r` and the state `c'`; a result is a value or the reason for the stop. `plays_bind`
splits a sequence at the stop, if there is one.

Each step of the library has an equation that says everything it can do. `Step.guarded` never halts,
and its journal is that of the step up to a log entry.
-/

namespace KernelProbe

/-! ## Programs that may stop early -/

namespace Staged

variable {ε σ α β : Type}

/-- The program can go through the journal from one state to a result and another state. -/
def Plays (s : ExceptT ε (StateT σ Program) α) (c : σ) (j : Journal) (r : Except ε α) (c' : σ) :
    Prop :=
  (s.run.run c).Plays j (r, c')

variable {c c' : σ} {j : Journal}

@[simp] theorem plays_pure {a : α} {r : Except ε α} :
    Plays (pure a) c j r c' ↔ j = [] ∧ r = .ok a ∧ c' = c := by
  show Program.Plays (Pure.pure (Except.ok a, c)) j (r, c') ↔ _
  simp

@[simp] theorem plays_throw {e : ε} {r : Except ε α} :
    Plays (throw e) c j r c' ↔ j = [] ∧ r = .error e ∧ c' = c := by
  show Program.Plays (Pure.pure (Except.error e, c)) j (r, c') ↔ _
  simp

@[simp] theorem plays_modify {f : σ → σ} {r : Except ε PUnit} :
    Plays (modify f) c j r c' ↔ j = [] ∧ r = .ok () ∧ c' = f c := by
  show Program.Plays (Pure.pure (Except.ok (), f c)) j (r, c') ↔ _
  simp

/-- A program that knows nothing of the state goes through its own courses. -/
theorem plays_lift {p : Program α} {r : Except ε α} :
    Plays (liftM p) c j r c' ↔ ∃ a, p.Plays j a ∧ r = .ok a ∧ c' = c := by
  show Program.Plays ((p >>= fun a => pure (a, c)) >>= fun x => pure (Except.ok x.1, x.2)) j (r, c')
    ↔ _
  simp only [bind_assoc, pure_bind, Program.plays_bind, Program.plays_pure, Prod.mk.injEq]
  constructor
  · rintro ⟨j₁, a, _, rfl, h, rfl, rfl, rfl⟩
    exact ⟨a, by simpa using h, rfl, rfl⟩
  · rintro ⟨a, h, rfl, rfl⟩
    exact ⟨j, a, [], by simp, h, rfl, rfl, rfl⟩

/-- A sequence either stops in its first part, or goes on from the value of its first part. -/
theorem plays_bind {s : ExceptT ε (StateT σ Program) α} {f : α → ExceptT ε (StateT σ Program) β}
    {r : Except ε β} :
    Plays (s >>= f) c j r c' ↔
      (∃ e, Plays s c j (.error e) c' ∧ r = .error e) ∨
      ∃ j₁ a c₁ j₂, j = j₁ ++ j₂ ∧ Plays s c j₁ (.ok a) c₁ ∧ Plays (f a) c₁ j₂ r c' := by
  have hbind : ((s >>= f).run.run c) = (s.run.run c >>= fun p => match p with
      | (.ok a, c₁) => (f a).run.run c₁
      | (.error e, c₁) => pure (.error e, c₁)) := by
    show (s.run.run c >>= _) = _
    congr 1
    funext ⟨a, c₁⟩
    cases a <;> rfl
  unfold Plays
  rw [hbind, Program.plays_bind]
  constructor
  · rintro ⟨j₁, ⟨a | a, c₁⟩, j₂, rfl, h₁, h₂⟩
    · obtain ⟨rfl, heq⟩ := h₂
      cases heq
      exact .inl ⟨a, by simpa using h₁, rfl⟩
    · exact .inr ⟨j₁, a, c₁, j₂, rfl, h₁, h₂⟩
  · rintro (⟨e, hs, rfl⟩ | ⟨j₁, a, c₁, j₂, rfl, h₁, h₂⟩)
    · exact ⟨j, (.error e, c'), [], by simp, hs, rfl, rfl⟩
    · exact ⟨j₁, (.ok a, c₁), j₂, rfl, h₁, h₂⟩

theorem plays_lift_bind {p : Program α} {f : α → ExceptT ε (StateT σ Program) β} {r : Except ε β} :
    Plays (liftM p >>= f) c j r c' ↔
      ∃ j₁ a j₂, j = j₁ ++ j₂ ∧ p.Plays j₁ a ∧ Plays (f a) c j₂ r c' := by
  rw [plays_bind]
  constructor
  · rintro (⟨_, h, _⟩ | ⟨j₁, _, _, j₂, rfl, h, hrest⟩)
    · obtain ⟨_, _, heq, _⟩ := plays_lift.mp h
      cases heq
    · obtain ⟨_, h, heq, rfl⟩ := plays_lift.mp h
      cases heq
      exact ⟨j₁, _, j₂, rfl, h, hrest⟩
  · rintro ⟨j₁, a, j₂, rfl, h, hrest⟩
    exact .inr ⟨j₁, a, c, j₂, rfl, plays_lift.mpr ⟨a, h, rfl, rfl⟩, hrest⟩

@[simp] theorem plays_map {f : α → β} {s : ExceptT ε (StateT σ Program) α} {r : Except ε β} :
    Plays (f <$> s) c j r c' ↔ ∃ r', Plays s c j r' c' ∧ r = r'.map f := by
  rw [← bind_pure_comp, plays_bind]
  constructor
  · rintro (⟨e, hs, rfl⟩ | ⟨j₁, a, c₁, _, rfl, hs, hpure⟩)
    · exact ⟨.error e, hs, rfl⟩
    · obtain ⟨rfl, rfl, rfl⟩ := plays_pure.mp hpure
      exact ⟨.ok a, by simpa using hs, rfl⟩
  · rintro ⟨e | a, hs, rfl⟩
    · exact .inl ⟨e, hs, rfl⟩
    · exact .inr ⟨j, a, c', [], by simp, hs, plays_pure.mpr ⟨rfl, rfl, rfl⟩⟩

@[simp] theorem plays_get_bind {f : σ → ExceptT ε (StateT σ Program) β} {r : Except ε β} :
    Plays (get >>= f) c j r c' ↔ Plays (f c) c j r c' := Iff.rfl

@[simp] theorem plays_modify_bind {g : σ → σ} {f : PUnit → ExceptT ε (StateT σ Program) β}
    {r : Except ε β} :
    Plays (modify g >>= f) c j r c' ↔ Plays (f ()) (g c) j r c' := Iff.rfl

@[simp] theorem plays_set_bind {d : σ} {f : PUnit → ExceptT ε (StateT σ Program) β}
    {r : Except ε β} :
    Plays (set d >>= f) c j r c' ↔ Plays (f ()) d j r c' := Iff.rfl

@[simp] theorem plays_throw_bind {e : ε} {f : α → ExceptT ε (StateT σ Program) β}
    {r : Except ε β} :
    Plays (throw e >>= f) c j r c' ↔ j = [] ∧ r = .error e ∧ c' = c := plays_throw

/-- The courses of a list of parts that run one after another up to the first that stops. -/
inductive Each {A : Type*} (f : A → ExceptT ε (StateT σ Program) PUnit) :
    List A → σ → Journal → Except ε PUnit → σ → Prop
  /-- No part is left. -/
  | done {c : σ} : Each f [] c [] (.ok ()) c
  /-- The first part stops the others. -/
  | stopped {a : A} {as : List A} {c : σ} {j : Journal} {e : ε} {c' : σ}
      (first : Plays (f a) c j (.error e) c') : Each f (a :: as) c j (.error e) c'
  /-- The first part comes to its end, and the others follow. -/
  | next {a : A} {as : List A} {c : σ} {j₁ : Journal} {c₁ : σ} {j₂ : Journal} {r : Except ε PUnit}
      {c' : σ} (first : Plays (f a) c j₁ (.ok ()) c₁) (rest : Each f as c₁ j₂ r c') :
      Each f (a :: as) c (j₁ ++ j₂) r c'

/-- What every part does from a state that suits the parts to come, all parts do in sequence. -/
theorem Each.preserves {A : Type*} {f : A → ExceptT ε (StateT σ Program) PUnit}
    (Inv : List A → σ → Prop) (R : σ → Journal → σ → Prop) (refl : ∀ c, R c [] c)
    (trans : ∀ {c j₁ c₁ j₂ c₂}, R c j₁ c₁ → R c₁ j₂ c₂ → R c (j₁ ++ j₂) c₂)
    (step : ∀ {a as c j r c'}, Inv (a :: as) c → Plays (f a) c j r c' → R c j c' ∧ Inv as c')
    {as : List A} {r : Except ε PUnit} (h : Each f as c j r c') (hinv : Inv as c) : R c j c' := by
  induction h with
  | done => exact refl _
  | stopped first => exact (step hinv first).1
  | next first rest ih =>
    obtain ⟨hfirst, hinv'⟩ := step hinv first
    exact trans hfirst (ih hinv')

/-- Parts that all come to their end do so in front of any point of the list, and behind it. -/
theorem Each.split {A : Type*} {f : A → ExceptT ε (StateT σ Program) PUnit} {as bs : List A}
    (h : Each f (as ++ bs) c j (.ok ()) c') :
    ∃ j₁ c₁ j₂, j = j₁ ++ j₂ ∧ Each f as c j₁ (.ok ()) c₁ ∧ Each f bs c₁ j₂ (.ok ()) c' := by
  induction as generalizing c j with
  | nil => exact ⟨[], c, j, rfl, .done, h⟩
  | cons a as ih =>
    cases h with
    | next first rest =>
      obtain ⟨j₁, c₁, j₂, rfl, hfront, hback⟩ := ih rest
      exact ⟨_, c₁, j₂, (List.append_assoc ..).symm, .next first hfront, hback⟩

theorem plays_forM {A : Type*} {f : A → ExceptT ε (StateT σ Program) PUnit} {as : List A}
    {r : Except ε PUnit} (h : Plays (as.forM f) c j r c') : Each f as c j r c' := by
  induction as generalizing c j with
  | nil =>
    obtain ⟨rfl, rfl, rfl⟩ := plays_pure.mp h
    exact .done
  | cons a as ih =>
    change Plays (f a >>= fun _ => as.forM f) c j r c' at h
    rw [plays_bind] at h
    obtain ⟨e, h₁, rfl⟩ | ⟨j₁, _, c₁, j₂, rfl, h₁, h₂⟩ := h
    · exact .stopped h₁
    · exact .next h₁ (ih h₂)

end Staged

namespace Step

variable {C α β : Type} {c c' : C} {j : Journal}

/-- The step can go through the journal from one context to a result and another context. -/
abbrev Plays (s : Step C α) (c : C) (j : Journal) (r : Except Halt α) (c' : C) : Prop :=
  Staged.Plays s c j r c'

/-! ## Steps that ask -/

theorem plays_ask (q : Request) {r : Except Halt q.Answer} :
    (ask q : Step C q.Answer).Plays c j r c' ↔ ∃ a, j = [⟨q, a⟩] ∧ r = .ok a ∧ c' = c := by
  simp only [Plays, ask, Staged.plays_lift, Program.plays_request]

@[simp] theorem plays_fail {error : ProbeError} {r : Except Halt α} :
    (fail error : Step C α).Plays c j r c' ↔ j = [] ∧ r = .error (.failed error) ∧ c' = c :=
  Staged.plays_throw

/-- A step that fails under a condition on the context changes and asks nothing. -/
theorem plays_fail_if {p : C → Prop} [DecidablePred p] {error : ProbeError} {r : Except Halt Unit}
    (h : Staged.Plays (get >>= fun d => if p d then fail error else pure () : Step C Unit)
      c j r c') :
    j = [] ∧ c' = c ∧ (p c ∧ r = .error (.failed error) ∨ ¬ p c ∧ r = .ok ()) := by
  rw [Staged.plays_get_bind] at h
  by_cases hp : p c
  · rw [if_pos hp] at h
    obtain ⟨rfl, rfl, rfl⟩ := plays_fail.mp h
    exact ⟨rfl, rfl, .inl ⟨hp, rfl⟩⟩
  · rw [if_neg hp] at h
    obtain ⟨rfl, rfl, rfl⟩ := Staged.plays_pure.mp h
    exact ⟨rfl, rfl, .inr ⟨hp, rfl⟩⟩

@[simp] theorem plays_panic {fault : Fault} {r : Except Halt α} :
    (panic fault : Step C α).Plays c j r c' ↔ j = [] ∧ r = .error (.panicked fault) ∧ c' = c :=
  Staged.plays_throw

@[simp] theorem ofExcept_ok (a : α) : (ofExcept (.ok a) : Step C α) = pure a := rfl

@[simp] theorem plays_log (event : LogEvent) {r : Except Halt Unit} :
    (log event : Step C Unit).Plays c j r c' ↔ j = [⟨.log event, ()⟩] ∧ r = .ok () ∧ c' = c := by
  simp only [log, plays_ask (.log event)]
  exact ⟨fun ⟨(), h⟩ => h, fun h => ⟨(), h⟩⟩

end Step

/-! ## Steps that call -/

namespace Returned

variable {α : Type}

/-- What an attempt makes of how a call came back: only a fault halts it. -/
def attempted : Returned α → Except Halt (Except SyscallError α)
  | value a => .ok (.ok a)
  | failed e => .ok (.error e)
  | panicked fault => .error (.panicked fault)

/-- What a step makes of how a call came back, when a failure halts it with an error. -/
def orHalt (onFailure : SyscallError → ProbeError) : Returned α → Except Halt α
  | value a => .ok a
  | failed e => .error (.failed (onFailure e))
  | panicked fault => .error (.panicked fault)

@[simp] theorem attempted_eq_ok {x : Returned α} {a : α} :
    x.attempted = .ok (.ok a) ↔ x = .value a := by
  cases x <;> simp [attempted]

@[simp] theorem attempted_eq_failed {x : Returned α} {e : SyscallError} :
    x.attempted = .ok (.error e) ↔ x = .failed e := by
  cases x <;> simp [attempted]

@[simp] theorem attempted_eq_error {x : Returned α} {h : Halt} :
    x.attempted = .error h ↔ ∃ fault, x = .panicked fault ∧ h = .panicked fault := by
  cases x <;> simp [attempted, eq_comm]

@[simp] theorem orHalt_eq_ok {onFailure : SyscallError → ProbeError} {x : Returned α} {a : α} :
    x.orHalt onFailure = .ok a ↔ x = .value a := by
  cases x <;> simp [orHalt]

/-- A call whose failure halts the step gave nothing if the step halted. -/
theorem ne_value_of_orHalt {onFailure : SyscallError → ProbeError} {x : Returned α} {h : Halt}
    (heq : x.orHalt onFailure = .error h) (a : α) : x ≠ .value a := by
  rintro rfl
  cases heq

end Returned

namespace Step

variable {C α : Type} {c c' : C} {j : Journal}

@[simp] theorem plays_attemptStoring (call : Call) (store : UInt32 → C → C)
    {r : Except Halt (Except SyscallError call.Value)} :
    (attemptStoring call store).Plays c j r c' ↔
      ∃ reply, j = [⟨.call call, reply⟩] ∧ r = reply.returned.attempted ∧
        c' = reply.stored.elim c (store · c) := by
  constructor
  · intro h
    simp only [attemptStoring, Plays, Staged.plays_bind, plays_ask (.call call)] at h
    obtain ⟨_, ⟨_, _, h, _⟩, _⟩ | ⟨_, reply, _, _, rfl, ⟨_, rfl, heq, rfl⟩, h⟩ := h
    · cases h
    cases heq
    refine ⟨reply, ?_⟩
    obtain ⟨stored, returned⟩ := reply
    cases stored <;> cases returned <;>
      simpa [Returned.attempted, Except.map, and_assoc, and_comm, and_left_comm] using h
  · rintro ⟨⟨stored, returned⟩, rfl, rfl, rfl⟩
    simp only [attemptStoring, Plays, Staged.plays_bind, plays_ask (.call call)]
    refine .inr ⟨_, ⟨stored, returned⟩, c, [], by simp, ⟨_, rfl, rfl, rfl⟩, ?_⟩
    cases stored <;> cases returned <;> simp [Returned.attempted, Except.map]

@[simp] theorem plays_attempt (call : Call) {r : Except Halt (Except SyscallError call.Value)} :
    (attempt call : Step C _).Plays c j r c' ↔
      ∃ reply, j = [⟨.call call, reply⟩] ∧ r = reply.returned.attempted ∧ c' = c := by
  simp only [attempt, plays_attemptStoring, id_eq]
  refine exists_congr fun reply => ?_
  cases reply.stored <;> simp

/-- A step that goes on from an attempt unless the call failed. -/
theorem plays_orHalt (call : Call) (onFailure : SyscallError → ProbeError)
    {r : Except Halt call.Value} :
    (attempt call >>= fun x => match x with
      | .ok a => pure a
      | .error e => fail (onFailure e) : Step C call.Value).Plays c j r c' ↔
      ∃ reply, j = [⟨.call call, reply⟩] ∧ r = reply.returned.orHalt onFailure ∧ c' = c := by
  simp only [Plays, Staged.plays_bind, plays_attempt]
  constructor
  · rintro (⟨h, ⟨reply, rfl, hr, rfl⟩, rfl⟩ | ⟨_, a, _, _, rfl, ⟨reply, rfl, hr, rfl⟩, hrest⟩)
    · obtain ⟨fault, hret, rfl⟩ := Returned.attempted_eq_error.mp hr.symm
      exact ⟨reply, rfl, by rw [hret]; rfl, rfl⟩
    · refine ⟨reply, ?_⟩
      cases a with
      | ok a =>
        rw [Returned.attempted_eq_ok.mp hr.symm]
        simpa [Returned.orHalt] using hrest
      | error e =>
        rw [Returned.attempted_eq_failed.mp hr.symm]
        simpa [Returned.orHalt] using hrest
  · rintro ⟨reply, rfl, rfl, rfl⟩
    cases hret : reply.returned with
    | value a => exact .inr ⟨_, .ok a, c', [], by simp,
      ⟨reply, rfl, by simp [hret, Returned.attempted], rfl⟩,
        by simp [Returned.orHalt]⟩
    | failed e => exact .inr ⟨_, .error e, c', [], by simp,
      ⟨reply, rfl, by simp [hret, Returned.attempted], rfl⟩,
        by simp [Returned.orHalt]⟩
    | panicked fault => exact .inl ⟨.panicked fault,
      ⟨reply, rfl, by simp [hret, Returned.attempted], rfl⟩, rfl⟩

@[simp] theorem plays_call (call : Call) {r : Except Halt call.Value} :
    (Step.call call : Step C _).Plays c j r c' ↔
      ∃ reply, j = [⟨.call call, reply⟩] ∧ r = reply.returned.orHalt .unexpected ∧ c' = c :=
  plays_orHalt call .unexpected

/-! ## What follows a question -/

section

variable {β : Type} {r : Except Halt β}

theorem plays_ask_bind (q : Request) {f : q.Answer → Step C β} :
    Staged.Plays (ask q >>= f) c j r c' ↔
      ∃ a, ∃ j' : Journal, j = ⟨q, a⟩ :: j' ∧ Staged.Plays (f a) c j' r c' := by
  rw [ask, Staged.plays_lift_bind]
  constructor
  · rintro ⟨_, a, j', rfl, h, hrest⟩
    obtain rfl := (Program.plays_request q _ _).mp h
    exact ⟨a, j', rfl, hrest⟩
  · rintro ⟨a, j', rfl, hrest⟩
    exact ⟨_, a, j', rfl, (Program.plays_request q _ _).mpr rfl, hrest⟩

theorem plays_clock_bind {f : Instant → Step C β} :
    Staged.Plays (clock >>= f) c j r c' ↔
      ∃ now, ∃ j' : Journal, j = ⟨.clock, now⟩ :: j' ∧ Staged.Plays (f now) c j' r c' :=
  plays_ask_bind .clock

theorem plays_load_bind {last : UInt32} {f : UInt32 → Step C β} :
    Staged.Plays (load last >>= f) c j r c' ↔
      ∃ word, ∃ j' : Journal, j = ⟨.load last, word⟩ :: j' ∧ Staged.Plays (f word) c j' r c' :=
  plays_ask_bind (.load last)

theorem plays_log_bind {event : LogEvent} {f : Unit → Step C β} :
    Staged.Plays (log event >>= f) c j r c' ↔
      ∃ j' : Journal, j = ⟨.log event, ()⟩ :: j' ∧ Staged.Plays (f ()) c j' r c' := by
  rw [log, plays_ask_bind (.log event)]
  exact ⟨fun ⟨(), h⟩ => h, fun h => ⟨(), h⟩⟩

theorem plays_supports_bind {syscall : Syscall} {f : Bool → Step C β} :
    Staged.Plays (supports syscall >>= f) c j r c' ↔
      (∃ fault, j = [⟨.supports syscall, .error fault⟩] ∧ r = .error (.panicked fault) ∧ c' = c) ∨
        ∃ known, ∃ j' : Journal, j = ⟨.supports syscall, .ok known⟩ :: j' ∧
          Staged.Plays (f known) c j' r c' := by
  rw [supports, bind_assoc, plays_ask_bind (.supports syscall)]
  constructor
  · rintro ⟨fault | known, j', rfl, h⟩
    · obtain ⟨rfl, rfl, rfl⟩ := Staged.plays_throw_bind.mp h
      exact .inl ⟨fault, rfl, rfl, rfl⟩
    · exact .inr ⟨known, j', rfl, h⟩
  · rintro (⟨fault, rfl, rfl, rfl⟩ | ⟨known, j', rfl, h⟩)
    · exact ⟨.error fault, [], rfl, Staged.plays_throw_bind.mpr ⟨rfl, rfl, rfl⟩⟩
    · exact ⟨.ok known, j', rfl, h⟩

/-- A step that fails without a system call comes to its end if the kernel has the call. -/
theorem plays_unless_supports {syscall : Syscall} {error : ProbeError} {r : Except Halt Unit}
    (h : Staged.Plays (do unless ← supports syscall do fail error : Step C Unit) c j r c') :
    ∃ known, j = [⟨.supports syscall, known⟩] ∧ (r = .ok () ↔ known = .ok true) ∧ c' = c := by
  obtain ⟨fault, rfl, rfl, rfl⟩ | ⟨known, j, rfl, h₁⟩ := plays_supports_bind.mp h
  · exact ⟨.error fault, rfl, by simp, rfl⟩
  · cases known with
    | false =>
      obtain ⟨rfl, rfl, rfl⟩ := plays_fail.mp h₁
      exact ⟨.ok false, rfl, by simp, rfl⟩
    | true =>
      obtain ⟨rfl, rfl, rfl⟩ := Staged.plays_pure.mp h₁
      exact ⟨.ok true, rfl, by simp, rfl⟩

/-- What follows a call that may fail follows unless the call gives up. -/
theorem plays_attemptStoring_bind {call : Call} {store : UInt32 → C → C}
    {f : Except SyscallError call.Value → Step C β} :
    Staged.Plays (attemptStoring call store >>= f) c j r c' ↔
      ∃ reply : Reply call.Value,
        (∃ fault, reply.returned = .panicked fault ∧ j = [⟨.call call, reply⟩] ∧
          r = .error (.panicked fault) ∧ c' = reply.stored.elim c (store · c)) ∨
        ∃ x, ∃ j' : Journal, reply.returned.attempted = .ok x ∧ j = ⟨.call call, reply⟩ :: j' ∧
          Staged.Plays (f x) (reply.stored.elim c (store · c)) j' r c' := by
  rw [Staged.plays_bind]
  constructor
  · rintro (⟨_, h, rfl⟩ | ⟨_, x, _, j', rfl, h, hrest⟩)
    · obtain ⟨reply, rfl, heq, rfl⟩ := (plays_attemptStoring ..).mp h
      obtain ⟨fault, hret, rfl⟩ := Returned.attempted_eq_error.mp heq.symm
      exact ⟨reply, .inl ⟨fault, hret, rfl, rfl, rfl⟩⟩
    · obtain ⟨reply, rfl, heq, rfl⟩ := (plays_attemptStoring ..).mp h
      exact ⟨reply, .inr ⟨x, j', heq.symm, rfl, hrest⟩⟩
  · rintro ⟨reply, ⟨fault, hret, rfl, rfl, rfl⟩ | ⟨x, j', heq, rfl, hrest⟩⟩
    · refine .inl ⟨_, (plays_attemptStoring ..).mpr ⟨reply, rfl, ?_, rfl⟩, rfl⟩
      exact (Returned.attempted_eq_error.mpr ⟨fault, hret, rfl⟩).symm
    · exact .inr ⟨_, x, _, j', rfl, (plays_attemptStoring ..).mpr
        ⟨reply, rfl, heq.symm, rfl⟩, hrest⟩

theorem plays_attempt_bind {call : Call} {f : Except SyscallError call.Value → Step C β} :
    Staged.Plays (attempt call >>= f) c j r c' ↔
      ∃ reply : Reply call.Value,
        (∃ fault, reply.returned = .panicked fault ∧ j = [⟨.call call, reply⟩] ∧
          r = .error (.panicked fault) ∧ c' = c) ∨
        ∃ x, ∃ j' : Journal, reply.returned.attempted = .ok x ∧ j = ⟨.call call, reply⟩ :: j' ∧
          Staged.Plays (f x) c j' r c' := by
  have hstore (reply : Reply call.Value) : reply.stored.elim c (fun _ => c) = c := by
    cases reply.stored <;> rfl
  rw [attempt, plays_attemptStoring_bind]
  simp only [id_eq, hstore]

/-- What follows a call whose failure halts the step follows if the call succeeds. -/
theorem plays_orHalt_bind {call : Call} {onFailure : SyscallError → ProbeError}
    {f : call.Value → Step C β} :
    Staged.Plays ((attempt call >>= fun x => match x with
      | .ok a => pure a
      | .error e => fail (onFailure e) : Step C call.Value) >>= f) c j r c' ↔
      ∃ reply : Reply call.Value,
        (∃ halt, reply.returned.orHalt onFailure = .error halt ∧ j = [⟨.call call, reply⟩] ∧
          r = .error halt ∧ c' = c) ∨
        ∃ v, ∃ j' : Journal, reply.returned = .value v ∧ j = ⟨.call call, reply⟩ :: j' ∧
          Staged.Plays (f v) c j' r c' := by
  rw [Staged.plays_bind]
  constructor
  · rintro (⟨halt, h, rfl⟩ | ⟨_, v, _, j', rfl, h, hrest⟩)
    · obtain ⟨reply, rfl, heq, rfl⟩ := (plays_orHalt ..).mp h
      exact ⟨reply, .inl ⟨halt, heq.symm, rfl, rfl, rfl⟩⟩
    · obtain ⟨reply, rfl, heq, rfl⟩ := (plays_orHalt ..).mp h
      exact ⟨reply, .inr ⟨v, j', Returned.orHalt_eq_ok.mp heq.symm, rfl, hrest⟩⟩
  · rintro ⟨reply, ⟨halt, heq, rfl, rfl, rfl⟩ | ⟨v, j', hret, rfl, hrest⟩⟩
    · exact .inl ⟨halt, (plays_orHalt ..).mpr ⟨reply, rfl, heq.symm, rfl⟩, rfl⟩
    · refine .inr ⟨_, v, c, j', rfl, (plays_orHalt ..).mpr ⟨reply, rfl, ?_, rfl⟩, hrest⟩
      exact (Returned.orHalt_eq_ok.mpr hret).symm

theorem plays_call_bind {call : Call} {f : call.Value → Step C β} :
    Staged.Plays (Step.call call >>= f) c j r c' ↔
      ∃ reply : Reply call.Value,
        (∃ halt, reply.returned.orHalt .unexpected = .error halt ∧ j = [⟨.call call, reply⟩] ∧
          r = .error halt ∧ c' = c) ∨
        ∃ v, ∃ j' : Journal, reply.returned = .value v ∧ j = ⟨.call call, reply⟩ :: j' ∧
          Staged.Plays (f v) c j' r c' := plays_orHalt_bind

theorem plays_need_bind {message : String} {call : Call} {f : call.Value → Step C β} :
    Staged.Plays (need message call >>= f) c j r c' ↔
      ∃ reply : Reply call.Value,
        (∃ halt, reply.returned.orHalt (.setupCall message) = .error halt ∧
          j = [⟨.call call, reply⟩] ∧ r = .error halt ∧ c' = c) ∨
        ∃ v, ∃ j' : Journal, reply.returned = .value v ∧ j = ⟨.call call, reply⟩ :: j' ∧
          Staged.Plays (f v) c j' r c' := plays_orHalt_bind

end

/-! ## Calls in turn -/

/-- A step that makes one call after another, and logs each that fails, makes them all unless one
gives up; that one is then the last. -/
theorem plays_inTurn {A : Type} {call : A → Call} {event : A → SyscallError → LogEvent}
    {inTurn : List A → Step C Unit} {next : (x : A) → List A → Except SyscallError (call x).Value →
      Step C Unit}
    (hnil : inTurn [] = pure ())
    (hcons : ∀ x rest, inTurn (x :: rest) = attempt (call x) >>= next x rest)
    (hfailed : ∀ x rest e, next x rest (.error e) = log (event x e) >>= fun _ => inTurn rest)
    (hvalue : ∀ x rest v, next x rest (.ok v) = inTurn rest)
    {xs : List A} {r : Except Halt Unit} (h : Staged.Plays (inTurn xs) c j r c') :
    c' = c ∧ j.reports = [] ∧
      ((r = .ok () ∧ j.calls = xs.map call ∧ ∀ x ∈ j.trace, ¬ x.Panicked) ∨
        ∃ done x rest before last, r ≠ .ok () ∧ xs = done ++ x :: rest ∧
          j.trace = before ++ [last] ∧
          before.map (·.call) = done.map call ∧ last.call = call x ∧ last.Panicked ∧
          ∀ x ∈ before, ¬ x.Panicked) := by
  induction xs generalizing j with
  | nil =>
    rw [hnil] at h
    obtain ⟨rfl, rfl, rfl⟩ := Staged.plays_pure.mp h
    exact ⟨rfl, rfl, .inl ⟨rfl, rfl, by simp⟩⟩
  | cons x xs ih =>
    rw [hcons] at h
    obtain ⟨reply, ⟨fault, hret, rfl, rfl, rfl⟩ | ⟨y, j, hy, rfl, h₁⟩⟩ := plays_attempt_bind.mp h
    · refine ⟨rfl, rfl, .inr ⟨[], x, xs, [], ⟨call x, reply⟩, by simp, rfl, rfl, rfl, rfl, ?_, ?_⟩⟩
      · exact ⟨fault, hret⟩
      · simp
    -- the call came back with a value or an error, as the step went on
    have hcame : ¬ (⟨call x, reply⟩ : Exchange).Panicked := by
      rintro ⟨fault, hret⟩
      rw [hret] at hy
      cases hy
    -- what follows the call is the rest, up to a log entry
    obtain ⟨j', htrace, hreports, h₂⟩ : ∃ j', j.trace = j'.trace ∧ j.reports = j'.reports ∧
        Staged.Plays (inTurn xs) c j' r c' := by
      rcases y with e | v
      · rw [hfailed] at h₁
        obtain ⟨j', rfl, h₂⟩ := plays_log_bind.mp h₁
        exact ⟨j', rfl, rfl, h₂⟩
      · rw [hvalue] at h₁
        exact ⟨j, rfl, rfl, h₁⟩
    obtain ⟨rfl, hquiet, hrest⟩ := ih h₂
    refine ⟨rfl, ?_, ?_⟩
    · simpa [Journal.reports, Entry.report?] using hreports.trans hquiet
    -- the call precedes those of the rest, whether or not one of them gives up
    rw [← Journal.map_call_trace] at hrest ⊢
    rw [Journal.trace_cons, htrace]
    obtain ⟨rfl, hcalls, hpanicked⟩ | ⟨done, z, rest, before, last, hr, rfl, hj, hcalls,
      hlast⟩ := hrest
    · refine .inl ⟨rfl, by simp [Entry.exchange?, hcalls], ?_⟩
      simpa [Entry.exchange?, hcame] using hpanicked
    · refine .inr ⟨x :: done, z, rest, ⟨call x, reply⟩ :: before, last, hr, rfl, ?_, ?_, hlast.1,
        hlast.2.1, ?_⟩
      · simp [Entry.exchange?, hj]
      · simp [hcalls]
      · simpa [hcame] using hlast.2.2

/-! ## The boundary of a probe or group -/

/-- What the boundary makes of a step's result. -/
def caught : Except Halt α → Guarded (Except ProbeError α)
  | .ok a => .completed (.ok a)
  | .error (.failed e) => .completed (.error e)
  | .error (.panicked fault) => .panicked fault.message

/-- The log entry of the boundary for a fault. -/
def faultLog (scope : String) : Except Halt α → Journal
  | .error (.panicked fault) =>
    [⟨.log
      { level := .error, target := "sysprobe_core::application::panic_guard",
        message := "Panic caught at probe boundary",
        fields := [("scope", .text scope), ("panic_msg", .text fault.message)] }, ()⟩]
  | _ => []

/-- A guarded step never halts: it goes through the step's journal and logs a fault. -/
theorem plays_guarded {scope : String} {s : Step C α} {g : Guarded (Except ProbeError α)} :
    ((guarded scope s).run c).Plays j (g, c') ↔
      ∃ r j₁, s.Plays c j₁ r c' ∧ g = caught r ∧ j = j₁ ++ faultLog scope r := by
  -- the boundary goes on from the result of the step, whichever it is
  have hbind : (guarded scope s).run c = (s.run.run c >>= fun p => match p with
      | (.ok a, c₁) => pure (.completed (.ok a), c₁)
      | (.error (.failed e), c₁) => pure (.completed (.error e), c₁)
      | (.error (.panicked fault), c₁) => Program.log
        { level := .error, target := "sysprobe_core::application::panic_guard",
          message := "Panic caught at probe boundary",
          fields := [("scope", .text scope), ("panic_msg", .text fault.message)] }
        >>= fun _ => pure (.panicked fault.message, c₁)) := by
    show (s.run.run c >>= _) = _
    congr 1
    funext ⟨a, c₁⟩
    rcases a with (_ | _) | _ <;> rfl
  rw [hbind, Program.plays_bind]
  constructor
  · rintro ⟨j₁, ⟨(e | fault) | a, c₁⟩, j₂, rfl, h₁, h₂⟩
    · obtain ⟨rfl, heq⟩ := h₂
      cases heq
      exact ⟨_, j₁, h₁, rfl, rfl⟩
    · simp only [Program.plays_bind, Program.plays_log, Program.plays_pure] at h₂
      obtain ⟨_, _, _, rfl, rfl, rfl, heq⟩ := h₂
      cases heq
      exact ⟨_, j₁, h₁, rfl, by simp [faultLog]⟩
    · obtain ⟨rfl, heq⟩ := h₂
      cases heq
      exact ⟨_, j₁, h₁, rfl, rfl⟩
  · rintro ⟨r, j₁, h₁, rfl, rfl⟩
    refine ⟨j₁, (r, c'), faultLog scope r, rfl, h₁, ?_⟩
    rcases r with (e | fault) | a
    · exact ⟨rfl, rfl⟩
    · simp only [Program.plays_bind, Program.plays_log, Program.plays_pure]
      exact ⟨_, (), [], rfl, rfl, rfl, rfl⟩
    · exact ⟨rfl, rfl⟩

end Step

end KernelProbe
