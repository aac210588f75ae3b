import Mathlib.Data.List.Basic

/-!
# Programs that log what they do

A program goes from the log so far, the newest event first, to a value or an
exception and a longer log. What it is answered may be any function of the
log, so an outside that others change in the meantime is covered too.

`Spec P m Q R` is a triple with a second postcondition for exceptions; its
rules go through sequences, branches and loops. `Sound J` says of a log that
each event in it was justified by the events before.
-/

namespace Logged

variable {E X α β : Type}

def Program (E X α : Type) : Type := List E → Except X α × List E

namespace Program

instance : Monad (Program E X) where
  pure a := fun log => (.ok a, log)
  bind m f := fun log =>
    match m log with
    | (.ok a, log') => f a log'
    | (.error x, log') => (.error x, log')

def raise (x : X) : Program E X α := fun log => (.error x, log)

/-- One event; the outside sees the whole log. -/
def ask (answer : List E → Except X α × E) : Program E X α := fun log =>
  ((answer log).1, (answer log).2 :: log)

/-- `for a in l: b = f(b, a)`. -/
def foldEach (f : β → α → Program E X β) (b : β) : List α → Program E X β
  | [] => pure b
  | a :: l => do
      let b' ← f b a
      foldEach f b' l

end Program

open Program

/-- From a log with `P` the program ends with a value that has `Q`, or with an exception and a
log that has `R`. -/
def Spec (P : List E → Prop) (m : Program E X α) (Q : α → List E → Prop) (R : List E → Prop) :
    Prop :=
  ∀ log, P log → (∀ a log', m log = (.ok a, log') → Q a log') ∧
    ∀ x log', m log = (.error x, log') → R log'

namespace Spec

variable {P P' : List E → Prop} {Q Q' : α → List E → Prop} {R R' : List E → Prop}

theorem pure {a : α} (h : ∀ log, P log → Q a log) : Spec P (pure a : Program E X α) Q R := by
  refine fun log hP => ⟨fun a' log' heq => ?_, fun x log' heq => ?_⟩
  · obtain ⟨ha, rfl⟩ := Prod.mk.inj heq
    rw [← Except.ok.inj ha]
    exact h log hP
  · cases (Prod.mk.inj heq).1

theorem raise {x : X} (h : ∀ log, P log → R log) : Spec P (raise x : Program E X α) Q R := by
  refine fun log hP => ⟨fun a' log' heq => ?_, fun x log' heq => ?_⟩
  · cases (Prod.mk.inj heq).1
  · obtain ⟨-, rfl⟩ := Prod.mk.inj heq
    exact h log hP

theorem ask {answer : List E → Except X α × E}
    (hok : ∀ log a e, P log → answer log = (.ok a, e) → Q a (e :: log))
    (herror : ∀ log x e, P log → answer log = (.error x, e) → R (e :: log)) :
    Spec P (ask answer) Q R := by
  refine fun log hP => ⟨fun a log' heq => ?_, fun x log' heq => ?_⟩
  · obtain ⟨ha, rfl⟩ := Prod.mk.inj heq
    exact hok log a _ hP (Prod.ext ha rfl)
  · obtain ⟨hx, rfl⟩ := Prod.mk.inj heq
    exact herror log x _ hP (Prod.ext hx rfl)

theorem bind {m : Program E X β} {f : β → Program E X α} {S : β → List E → Prop}
    (hm : Spec P m S R) (hf : ∀ b, Spec (S b) (f b) Q R) : Spec P (m >>= f) Q R := by
  intro log hP
  obtain ⟨hok, herror⟩ := hm log hP
  have hbind : (m >>= f) log = match m log with
      | (.ok b, log') => f b log'
      | (.error x, log') => (.error x, log') := rfl
  rcases hm : m log with ⟨b | b, log₁⟩
  · rw [hm] at hbind
    refine ⟨fun a log' heq => ?_, fun x log' heq => ?_⟩
    · rw [hbind] at heq
      cases (Prod.mk.inj heq).1
    · obtain ⟨-, rfl⟩ := Prod.mk.inj (hbind.symm.trans heq)
      exact herror b log₁ hm
  · rw [hm] at hbind
    rw [hbind]
    exact hf b log₁ (hok b log₁ hm)

theorem conseq {m : Program E X α} (h : Spec P m Q R) (hP : ∀ log, P' log → P log)
    (hQ : ∀ a log, Q a log → Q' a log) (hR : ∀ log, R log → R' log) : Spec P' m Q' R' :=
  fun log hP' => ⟨fun a log' heq => hQ a log' ((h log (hP log hP')).1 a log' heq),
    fun x log' heq => hR log' ((h log (hP log hP')).2 x log' heq)⟩

/-- A precondition is met one log at a time. -/
theorem pointwise {m : Program E X α} (h : ∀ log, P log → Spec (· = log) m Q R) : Spec P m Q R :=
  fun log hP => h log hP log rfl

theorem ite {c : Prop} [Decidable c] {m m' : Program E X α}
    (h : c → Spec P m Q R) (h' : ¬ c → Spec P m' Q R) : Spec P (if c then m else m') Q R := by
  split
  · exact h ‹c›
  · exact h' ‹¬ c›

/-- The log a program leaves, whichever way it ends. -/
theorem log {m : Program E X α} {S : List E → Prop} (h : Spec P m Q R) {log : List E} (hP : P log)
    (hQ : ∀ a log, Q a log → S log) (hR : ∀ log, R log → S log) : S (m log).2 := by
  obtain ⟨hok, herror⟩ := h log hP
  rcases hm : m log with ⟨x | a, log'⟩
  · exact hR log' (herror x log' hm)
  · exact hQ a log' (hok a log' hm)

/-- The loop rule: `I d b` holds after the elements `d`, with the value `b`. -/
theorem foldEach {f : β → α → Program E X β} {I : List α → β → List E → Prop} {l d : List α}
    {b : β} (hstep : ∀ d a b, a ∈ l → Spec (I d b) (f b a) (fun b' => I (d ++ [a]) b') R) :
    Spec (I d b) (foldEach f b l) (fun b' => I (d ++ l) b') R := by
  induction l generalizing d b with
  | nil => exact pure fun log h => (List.append_nil d).symm ▸ h
  | cons a l ih =>
      rw [Program.foldEach]
      refine bind (hstep d a b List.mem_cons_self) fun b' => ?_
      rw [show d ++ a :: l = (d ++ [a]) ++ l by simp]
      exact ih fun d' a' b' ha' => hstep d' a' b' (List.mem_cons_of_mem a ha')

end Spec

/-! ## Sound logs -/

/-- Each event is justified by the log before it. -/
def Sound (J : List E → E → Prop) : List E → Prop
  | [] => True
  | e :: log => J log e ∧ Sound J log

end Logged
