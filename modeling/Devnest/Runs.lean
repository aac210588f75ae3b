import Mathlib.Data.List.Basic

/-!
# Runs of a deterministic system

A system is a state type and a step function on inputs; everything the
environment decides (answers of other services, the order of events) is
part of the input. A run folds the step over a list of inputs.

`Reachable.invariant` is the invariant rule. `Along` says that a predicate on
a state and the input it meets there holds at every step of a run; the
rules `run_of_along`, `always_of_along` and `always_iff_along` trade a per-step condition
for a property of every state a run reaches.
-/

namespace Runs

variable {σ ι : Type} (step : σ → ι → σ)

/-- The state after the inputs, in order. -/
def run (s : σ) : List ι → σ
  | [] => s
  | i :: is => run (step s i) is

/-- `P` holds of every state and input met along the run. -/
def Along (P : σ → ι → Prop) (s : σ) : List ι → Prop
  | [] => True
  | i :: is => P s i ∧ Along P (step s i) is

/-- `Q` holds of every state of the run, the first included. -/
def Always (Q : σ → Prop) (s : σ) : List ι → Prop
  | [] => Q s
  | i :: is => Q s ∧ Always Q (step s i) is

/-- Reached from `s₀` by some inputs. -/
def Reachable (s₀ s : σ) : Prop := ∃ is, s = run step s₀ is

variable {step}

@[simp] theorem run_nil (s : σ) : run step s [] = s := rfl

@[simp] theorem run_cons (s : σ) (i : ι) (is : List ι) :
    run step s (i :: is) = run step (step s i) is := rfl

theorem run_append (s : σ) (is js : List ι) :
    run step s (is ++ js) = run step (run step s is) js := by
  induction is generalizing s with
  | nil => rfl
  | cons i is ih => exact ih (step s i)

/-- The invariant rule: what holds first and is kept by every step holds of
every state reached. -/
theorem Reachable.invariant {Q : σ → Prop} {s₀ s : σ} (h : Reachable step s₀ s)
    (h0 : Q s₀) (hstep : ∀ s i, Q s → Q (step s i)) : Q s := by
  obtain ⟨is, rfl⟩ := h
  induction is generalizing s₀ with
  | nil => exact h0
  | cons i is ih => exact ih (hstep s₀ i h0)

theorem Along.mono {P P' : σ → ι → Prop} (hP : ∀ s i, P s i → P' s i) {s : σ} {is : List ι}
    (h : Along step P s is) : Along step P' s is := by
  induction is generalizing s with
  | nil => trivial
  | cons i is ih => exact ⟨hP s i h.1, ih h.2⟩

/-- A predicate that does not look at the state. -/
theorem along_input {P : ι → Prop} {s : σ} {is : List ι} :
    Along step (fun _ i => P i) s is ↔ ∀ i ∈ is, P i := by
  induction is generalizing s with
  | nil => simp [Along]
  | cons i is ih => simp only [Along, ih, List.mem_cons, forall_eq_or_imp]

theorem Along.at {P : σ → ι → Prop} {s : σ} {is js : List ι} {i : ι}
    (h : Along step P s (is ++ i :: js)) : P (run step s is) i := by
  induction is generalizing s with
  | nil => exact h.1
  | cons j is ih => exact ih h.2

instance decidableAlong {P : σ → ι → Prop} [∀ s i, Decidable (P s i)] :
    ∀ (s : σ) (is : List ι), Decidable (Along step P s is)
  | _, [] => .isTrue trivial
  | s, i :: is => @instDecidableAnd _ _ _ (decidableAlong (step s i) is)

/-- The invariant rule under a per-step condition. -/
theorem run_of_along {P : σ → ι → Prop} {Q : σ → Prop} {s : σ} {is : List ι}
    (h0 : Q s) (hstep : ∀ s i, Q s → P s i → Q (step s i))
    (h : Along step P s is) : Q (run step s is) := by
  induction is generalizing s with
  | nil => exact h0
  | cons i is ih => exact ih (hstep s i h0 h.1) h.2

/-- The same for every state on the way. -/
theorem always_of_along {P : σ → ι → Prop} {Q : σ → Prop} {s : σ} {is : List ι}
    (h0 : Q s) (hstep : ∀ s i, Q s → P s i → Q (step s i))
    (h : Along step P s is) : Always step Q s is := by
  induction is generalizing s with
  | nil => exact h0
  | cons i is ih => exact ⟨h0, ih (hstep s i h0 h.1) h.2⟩

/-- Under an invariant that steps meeting `P` keep, `P` along a run gives `R` along it. -/
theorem along_of_along {I : σ → Prop} {P R : σ → ι → Prop} {s : σ} {is : List ι} (h0 : I s)
    (hstep : ∀ s i, I s → P s i → I (step s i)) (hR : ∀ s i, I s → P s i → R s i)
    (h : Along step P s is) : Along step R s is := by
  induction is generalizing s with
  | nil => trivial
  | cons i is ih => exact ⟨hR s i h0 h.1, ih (hstep s i h0 h.1) h.2⟩

/-- Under an invariant that steps meeting `P` keep, a step meets `R` exactly when it meets `P`:
then so do the steps of a run. -/
theorem along_iff_along {I : σ → Prop} {P R : σ → ι → Prop} {s : σ} {is : List ι} (h0 : I s)
    (hstep : ∀ s i, I s → P s i → I (step s i)) (hR : ∀ s i, I s → (R s i ↔ P s i)) :
    Along step R s is ↔ Along step P s is := by
  refine ⟨fun h => ?_, along_of_along h0 hstep fun s i hI => (hR s i hI).mpr⟩
  induction is generalizing s with
  | nil => trivial
  | cons i is ih =>
      have hp := (hR s i h0).mp h.1
      exact ⟨hp, ih (hstep s i h0 hp) h.2⟩

theorem Always.mono {Q Q' : σ → Prop} (hQ : ∀ s, Q s → Q' s) {s : σ} {is : List ι}
    (h : Always step Q s is) : Always step Q' s is := by
  induction is generalizing s with
  | nil => exact hQ s h
  | cons i is ih => exact ⟨hQ s h.1, ih h.2⟩

theorem Always.last {Q : σ → Prop} {s : σ} {is : List ι} (h : Always step Q s is) :
    Q (run step s is) := by
  induction is generalizing s with
  | nil => exact h
  | cons i is ih => exact ih h.2

/-- Under `I`, which steps that meet `P` keep, a step keeps `Q` exactly when it meets `P`:
then every state of a run has `Q` exactly when every step of the run meets `P`. -/
theorem always_iff_along {I Q : σ → Prop} {P : σ → ι → Prop} {s : σ} {is : List ι}
    (hI : I s) (hstepI : ∀ s i, I s → P s i → I (step s i)) (h0 : Q s)
    (hstep : ∀ s i, I s → Q s → (Q (step s i) ↔ P s i)) :
    Always step Q s is ↔ Along step P s is := by
  induction is generalizing s with
  | nil => exact ⟨fun _ => trivial, fun _ => h0⟩
  | cons i is ih =>
      refine ⟨fun ⟨_, h⟩ => ?_, fun ⟨hp, h⟩ => ⟨h0, ?_⟩⟩
      · have hq : Q (step s i) := by
          cases is with
          | nil => exact h
          | cons j js => exact h.1
        have hp := (hstep s i hI h0).mp hq
        exact ⟨hp, (ih (hstepI s i hI hp) hq).mp h⟩
      · exact (ih (hstepI s i hI hp) ((hstep s i hI h0).mpr hp)).mpr h

end Runs
