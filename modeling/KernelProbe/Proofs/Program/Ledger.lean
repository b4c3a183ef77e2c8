import Mathlib.Algebra.BigOperators.Group.List.Basic
import Mathlib.Algebra.Order.Group.Multiset
import Mathlib.Algebra.Order.Sub.Basic
import Mathlib.Tactic.Abel
import KernelProbe.Proofs.Program.Plays

/-!
# What calls take and give back

A `Ledger` says of a call with its reply what it gives to the caller, what it hands back, and what
the caller needs to hold for it. `Ledger.Keeps held t held'` is the account of calls one after
another: none needs or hands back anything that is not held at that point. The account balances
(`Keeps.balance`), and what a call needs has been given and not been handed back
(`Keeps.covered`).
-/

namespace KernelProbe

/-- What calls give, hand back and need. -/
structure Ledger (R : Type) where
  /-- What a call gives. -/
  acquires : Exchange → Multiset R
  /-- What a call hands back. -/
  releases : Exchange → Multiset R
  /-- What has to be held for a call. -/
  needs : Exchange → Multiset R

namespace Ledger

variable {R : Type} (L : Ledger R)

/-- What calls give in all. -/
def acquired (t : List Exchange) : Multiset R := (t.map L.acquires).sum

/-- What calls hand back in all. -/
def released (t : List Exchange) : Multiset R := (t.map L.releases).sum

/-- Every call needs and hands back only what is held when it is made; in the end, `held'` is. -/
def Keeps : Multiset R → List Exchange → Multiset R → Prop
  | held, [], held' => held' = held
  | held, x :: t, held' =>
    L.needs x ≤ held ∧ ∃ rest, held = L.releases x + rest ∧ Keeps (rest + L.acquires x) t held'

/-- What a call needs has been given before it and not been handed back. -/
def Covered [DecidableEq R] (t : List Exchange) : Prop :=
  ∀ before x after, t = before ++ x :: after →
    L.needs x ≤ L.acquired before - L.released before

/-- The call neither gives nor hands back nor needs anything. -/
def Ignores (x : Exchange) : Prop := L.acquires x = 0 ∧ L.releases x = 0 ∧ L.needs x = 0

@[simp] theorem acquired_nil : L.acquired [] = 0 := rfl

@[simp] theorem released_nil : L.released [] = 0 := rfl

@[simp] theorem acquired_cons (x : Exchange) (t : List Exchange) :
    L.acquired (x :: t) = L.acquires x + L.acquired t := List.sum_cons

@[simp] theorem released_cons (x : Exchange) (t : List Exchange) :
    L.released (x :: t) = L.releases x + L.released t := List.sum_cons

@[simp] theorem acquired_append (t₁ t₂ : List Exchange) :
    L.acquired (t₁ ++ t₂) = L.acquired t₁ + L.acquired t₂ := by simp [acquired]

@[simp] theorem released_append (t₁ t₂ : List Exchange) :
    L.released (t₁ ++ t₂) = L.released t₁ + L.released t₂ := by simp [released]

variable {L} {held held' : Multiset R} {t : List Exchange}

@[simp] theorem keeps_nil : L.Keeps held [] held' ↔ held' = held := Iff.rfl

theorem keeps_append {t₁ t₂ : List Exchange} :
    L.Keeps held (t₁ ++ t₂) held' ↔ ∃ mid, L.Keeps held t₁ mid ∧ L.Keeps mid t₂ held' := by
  induction t₁ generalizing held with
  | nil => simp
  | cons x t₁ ih =>
    simp only [List.cons_append, Keeps, ih]
    constructor
    · rintro ⟨hneeds, rest, heq, mid, h₁, h₂⟩
      exact ⟨mid, ⟨hneeds, rest, heq, h₁⟩, h₂⟩
    · rintro ⟨mid, ⟨hneeds, rest, heq, h₁⟩, h₂⟩
      exact ⟨hneeds, rest, heq, mid, h₁, h₂⟩

/-- What is held at first and what is given makes up what is handed back and what is left. -/
theorem Keeps.balance (h : L.Keeps held t held') : held + L.acquired t = held' + L.released t := by
  induction t generalizing held with
  | nil =>
    obtain rfl := keeps_nil.mp h
    rfl
  | cons x t ih =>
    obtain ⟨-, rest, rfl, hrest⟩ := h
    have hbalance := ih hrest
    calc L.releases x + rest + L.acquired (x :: t)
        = L.releases x + (rest + L.acquires x + L.acquired t) := by rw [acquired_cons]; abel
      _ = L.releases x + (held' + L.released t) := by rw [hbalance]
      _ = held' + L.released (x :: t) := by rw [released_cons]; abel

/-- From an account that starts with nothing, what a call needs comes from the calls before it. -/
theorem Keeps.covered [DecidableEq R] (h : L.Keeps 0 t held') : L.Covered t := by
  rintro before x after rfl
  obtain ⟨mid, hbefore, hneeds, -⟩ := keeps_append.mp h
  have hbalance := hbefore.balance
  rw [zero_add] at hbalance
  rwa [hbalance, Multiset.add_sub_cancel_right]

/-- After a call that only gives, more is held. -/
theorem Keeps.gain {x : Exchange} {gained : Multiset R} (hacquires : L.acquires x = gained)
    (hreleases : L.releases x = 0) (hneeds : L.needs x = 0) (h : L.Keeps (held + gained) t held') :
    L.Keeps held (x :: t) held' :=
  ⟨hneeds ▸ Multiset.zero_le held, held, by rw [hreleases, zero_add], hacquires ▸ h⟩

/-- A call that the ledger ignores changes nothing. -/
theorem Keeps.skip {x : Exchange} (hx : L.Ignores x) (h : L.Keeps held t held') :
    L.Keeps held (x :: t) held' := by
  obtain ⟨hacquires, hreleases, hneeds⟩ := hx
  exact .gain hacquires hreleases hneeds (by rwa [add_zero])

theorem keeps_of_ignored (h : ∀ x ∈ t, L.Ignores x) : L.Keeps held t held := by
  induction t with
  | nil => rfl
  | cons x t ih =>
    exact .skip (h x List.mem_cons_self) (ih fun y hy => h y (List.mem_cons_of_mem x hy))

/-- Calls that hand back one thing each hand back what they name. -/
theorem keeps_of_releases {A : Type} {f : A → R} {call : A → Call}
    (hcall : ∀ a reply, L.acquires ⟨call a, reply⟩ = 0 ∧ L.releases ⟨call a, reply⟩ = {f a} ∧
      L.needs ⟨call a, reply⟩ = {f a}) {as : List A} (h : t.map (·.call) = as.map call) :
    L.Keeps ((as.map f : List R) + held) t held := by
  induction as generalizing t with
  | nil =>
    obtain rfl := List.map_eq_nil_iff.mp h
    exact (zero_add held).symm
  | cons a as ih =>
    obtain ⟨⟨_, reply⟩, t, rfl, rfl, ht⟩ := List.map_eq_cons_iff.mp h
    obtain ⟨hacquires, hreleases, hneeds⟩ := hcall a reply
    have hheld : ((a :: as).map f : List R) + held = {f a} + ((as.map f : List R) + held) := by
      rw [← add_assoc]
      rfl
    refine ⟨?_, (as.map f : List R) + held, ?_, ?_⟩
    · rw [hneeds, hheld]
      exact Multiset.le_add_right ..
    · rw [hreleases, hheld]
    · rw [hacquires, add_zero]
      exact ih ht

end Ledger

end KernelProbe
