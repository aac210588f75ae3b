import Mathlib.Data.List.Basic

/-!
# Programs that call the outside

A program asks the outside one thing after another. Each answer is a text or
an exception, and a handler may take an exception for an answer of its own.
The log keeps what was answered.

`Surfaces P m` says that `m` hides no exception of the kind `P` and makes up
none: it ends with one exactly when one was answered. The rules below go
through sequences, branches and handlers, so the property is read off from
the handlers of a program.
-/

namespace Calls

/-- The exceptions that handlers tell apart, with their texts. -/
inductive PyError where
  | runtime (text : String)
  | value (text : String)
  | other (text : String)
  deriving DecidableEq, Repr

namespace PyError

def text : PyError → String
  | runtime t | value t | other t => t

def isRuntime : PyError → Bool
  | runtime _ => true
  | _ => false

def isOther : PyError → Bool
  | other _ => true
  | _ => false

end PyError

abbrev Answer := Except PyError String

def Program (α : Type) : Type := List Answer → Except PyError α × List Answer

namespace Program

variable {α β : Type}

instance : Monad Program where
  pure a := fun log => (.ok a, log)
  bind m f := fun log =>
    match m log with
    | (.ok a, log') => f a log'
    | (.error e, log') => (.error e, log')

/-- What is known without asking. -/
def lift (x : Except PyError α) : Program α := fun log => (x, log)

def raise (e : PyError) : Program α := lift (.error e)

/-- The next question; the answer may depend on how many came before. -/
def ask (answer : Nat → Answer) : Program String :=
  fun log => (answer log.length, log ++ [answer log.length])

/-- A look at the outside that cannot fail. -/
def look (see : Nat → α) : Program α := fun log => (.ok (see log.length), log)

/-- `try: m / except …: h`, for the exceptions that pass the test. -/
def handle (catches : PyError → Bool) (m : Program α) (h : PyError → Program α) : Program α :=
  fun log =>
    match m log with
    | (.error e, log') => if catches e then h e log' else (.error e, log')
    | (.ok a, log') => (.ok a, log')

/-- What the program was answered. -/
def answers (m : Program α) (log : List Answer) : List Answer := (m log).2.drop log.length

theorem bind_ok {m : Program α} {f : α → Program β} {log log' : List Answer} {b : β}
    (h : (m >>= f) log = (.ok b, log')) :
    ∃ a log₁, m log = (.ok a, log₁) ∧ f a log₁ = (.ok b, log') := by
  change (match m log with
    | (.ok a, log') => f a log'
    | (.error e, log') => (.error e, log')) = _ at h
  split at h
  next a log₁ hm => exact ⟨a, log₁, hm, h⟩
  next => cases h

theorem bind_eq_ok {m : Program α} {f : α → Program β} {log log₁ : List Answer} {a : α}
    (h : m log = (.ok a, log₁)) : (m >>= f) log = f a log₁ := by
  change (match m log with
    | (.ok a, log') => f a log'
    | (.error e, log') => (.error e, log')) = _
  rw [h]

theorem bind_eq_error {m : Program α} {f : α → Program β} {log log₁ : List Answer} {e : PyError}
    (h : m log = (.error e, log₁)) : (m >>= f) log = (.error e, log₁) := by
  change (match m log with
    | (.ok a, log') => f a log'
    | (.error e, log') => (.error e, log')) = _
  rw [h]

theorem lift_ok {x : Except PyError α} {log log' : List Answer} {a : α}
    (h : lift x log = (.ok a, log')) : x = .ok a := congrArg Prod.fst h

/-- A handler that raises again hides no failure. -/
theorem handle_ok_of_raises {catches : PyError → Bool} {m : Program α} {h : PyError → Program α}
    (hr : ∀ e log, ∃ e' log', h e log = (.error e', log')) {log log' : List Answer} {a : α}
    (hok : handle catches m h log = (.ok a, log')) : m log = (.ok a, log') := by
  unfold handle at hok
  split at hok
  next e log₁ hm =>
    split at hok
    · obtain ⟨e', log₂, he⟩ := hr e log₁
      rw [he] at hok
      cases hok
    · cases hok
  next a' log₁ hm => rw [hm, hok]

end Program

open Program

variable {α β : Type} {P : PyError → Prop}

/-- An exception of the kind `P` ends the program when it is answered, and only then. -/
def Surfaces (P : PyError → Prop) (m : Program α) : Prop :=
  ∀ log, ∃ new, (m log).2 = log ++ new ∧
    ((∃ e, (m log).1 = .error e ∧ P e) ↔ ∃ e, .error e ∈ new ∧ P e)

/-- A value, or an exception of another kind. -/
def Quiet (P : PyError → Prop) (x : Except PyError α) : Prop := ∀ e, x = .error e → ¬ P e

theorem quiet_of_ok {x : Except PyError α} {a : α} (h : x = .ok a) : Quiet P x := by
  intro e he
  rw [h] at he
  cases he

namespace Surfaces

theorem lift {x : Except PyError α} (h : Quiet P x) : Surfaces P (Program.lift x) := by
  intro log
  refine ⟨[], (List.append_nil log).symm, ?_⟩
  constructor
  · rintro ⟨e, he, hP⟩
    exact absurd hP (h e he)
  · rintro ⟨e, he, -⟩
    cases he

theorem pure (a : α) : Surfaces P (Pure.pure a : Program α) :=
  lift (x := .ok a) (quiet_of_ok rfl)

theorem raise {e : PyError} (h : ¬ P e) : Surfaces P (Program.raise e : Program α) := by
  refine lift fun e' he' => ?_
  rw [← Except.error.inj he']
  exact h

theorem ask (answer : Nat → Answer) : Surfaces P (Program.ask answer) := by
  intro log
  refine ⟨[answer log.length], rfl, ?_⟩
  constructor
  · rintro ⟨e, he, hP⟩
    exact ⟨e, List.mem_singleton.mpr he.symm, hP⟩
  · rintro ⟨e, he, hP⟩
    exact ⟨e, (List.mem_singleton.mp he).symm, hP⟩

theorem look (see : Nat → α) : Surfaces P (Program.look see) := fun log =>
  pure (see log.length) log

/-- A sequence surfaces what its steps do. -/
theorem bind {m : Program α} {f : α → Program β} (hm : Surfaces P m)
    (hf : ∀ a log, (m log).1 = .ok a → Surfaces P (f a)) : Surfaces P (m >>= f) := by
  intro log
  obtain ⟨new, hlog, hiff⟩ := hm log
  change ∃ new', (match m log with
    | (.ok a, log') => f a log'
    | (.error e, log') => (.error e, log')).2 = log ++ new' ∧ _
  generalize hr : m log = r at hlog hiff
  obtain ⟨res, log'⟩ := r
  dsimp only at hlog hiff
  subst hlog
  cases res with
  | error e =>
      refine ⟨new, rfl, ?_⟩
      rw [← hiff]
      change (∃ e', (match m log with
        | (.ok a, log') => f a log'
        | (.error e, log') => (.error e, log')).1 = .error e' ∧ P e') ↔ _
      rw [hr]
      constructor
      · rintro ⟨e', he', hP⟩
        exact ⟨e, rfl, Except.error.inj he' ▸ hP⟩
      · rintro ⟨e', he', hP⟩
        exact ⟨e, rfl, Except.error.inj he' ▸ hP⟩
  | ok a =>
      obtain ⟨new', hlog', hiff'⟩ := hf a log (congrArg Prod.fst hr) (log ++ new)
      refine ⟨new ++ new', by rw [← List.append_assoc]; exact hlog', ?_⟩
      change (∃ e', (match m log with
        | (.ok a, log') => f a log'
        | (.error e, log') => (.error e, log')).1 = .error e' ∧ P e') ↔ _
      rw [hr]
      dsimp only
      rw [hiff']
      constructor
      · rintro ⟨e, he, hP⟩
        exact ⟨e, List.mem_append_right new he, hP⟩
      · rintro ⟨e, he, hP⟩
        rcases List.mem_append.mp he with he | he
        · obtain ⟨e', he', -⟩ := hiff.mpr ⟨e, he, hP⟩
          cases he'
        · exact ⟨e, he, hP⟩

/-- A handler of other exceptions takes away none of the kind. -/
theorem handle {catches : PyError → Bool} {m : Program α} {h : PyError → Program α}
    (hm : Surfaces P m) (hc : ∀ e, catches e = true → ¬ P e)
    (hh : ∀ e, catches e = true → Surfaces P (h e)) : Surfaces P (Program.handle catches m h) := by
  intro log
  obtain ⟨new, hlog, hiff⟩ := hm log
  unfold Program.handle
  generalize hr : m log = r at hlog hiff
  obtain ⟨res, log'⟩ := r
  dsimp only at hlog hiff
  subst hlog
  cases res with
  | ok a => exact ⟨new, rfl, hiff⟩
  | error e =>
      dsimp only
      split
      next hcatch =>
        obtain ⟨new', hlog', hiff'⟩ := hh e hcatch (log ++ new)
        refine ⟨new ++ new', by rw [← List.append_assoc]; exact hlog', ?_⟩
        rw [hiff']
        constructor
        · rintro ⟨e', he', hP⟩
          exact ⟨e', List.mem_append_right new he', hP⟩
        · rintro ⟨e', he', hP⟩
          rcases List.mem_append.mp he' with he' | he'
          · obtain ⟨e'', he'', hP''⟩ := hiff.mpr ⟨e', he', hP⟩
            rw [← Except.error.inj he''] at hP''
            exact absurd hP'' (hc e hcatch)
          · exact ⟨e', he', hP⟩
      next => exact ⟨new, rfl, hiff⟩

theorem ite {c : Prop} [Decidable c] {m m' : Program α} (h : Surfaces P m)
    (h' : Surfaces P m') : Surfaces P (if c then m else m') := by
  split
  · exact h
  · exact h'

/-- The property in terms of what the program was answered. -/
theorem answered {m : Program α} (h : Surfaces P m) (log : List Answer) :
    (∃ e, (m log).1 = .error e ∧ P e) ↔ ∃ e, .error e ∈ m.answers log ∧ P e := by
  obtain ⟨new, hlog, hiff⟩ := h log
  rw [hiff, answers, hlog, List.drop_left]

end Surfaces

/-- Every exception that ends the program is of the kind `P`. -/
def RaisesOnly (P : PyError → Prop) (m : Program α) : Prop :=
  ∀ log e, (m log).1 = .error e → P e

namespace RaisesOnly

theorem lift {x : Except PyError α} (h : ∀ e, x = .error e → P e) :
    RaisesOnly P (Program.lift x) := fun _ e he => h e he

theorem pure (a : α) : RaisesOnly P (Pure.pure a : Program α) := fun _ e he => by cases he

theorem bind {m : Program α} {f : α → Program β} (hm : RaisesOnly P m)
    (hf : ∀ a, RaisesOnly P (f a)) : RaisesOnly P (m >>= f) := by
  intro log e he
  cases hr : m log with
  | mk res log₁ =>
      cases res with
      | error e' =>
          rw [bind_eq_error hr] at he
          rw [← Except.error.inj he]
          exact hm log e' (congrArg Prod.fst hr)
      | ok a =>
          rw [bind_eq_ok hr] at he
          exact hf a log₁ e he

/-- What a handler lets by, and what it raises itself. -/
theorem handle {catches : PyError → Bool} {m : Program α} {h : PyError → Program α}
    (hlet : ∀ e, catches e = false → P e) (hh : ∀ e, RaisesOnly P (h e)) :
    RaisesOnly P (Program.handle catches m h) := by
  intro log e he
  unfold Program.handle at he
  split at he
  next e' log₁ hm =>
    split at he
    · exact hh e' log₁ e he
    next hcatch =>
      rw [← Except.error.inj he]
      exact hlet e' (Bool.eq_false_iff.mpr hcatch)
  · cases he

theorem ite {c : Prop} [Decidable c] {m m' : Program α} (h : RaisesOnly P m)
    (h' : RaisesOnly P m') : RaisesOnly P (if c then m else m') := by
  split
  · exact h
  · exact h'

end RaisesOnly

end Calls
