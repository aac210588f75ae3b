import Devnest.Runs

/-!
# Processes that share a state

A process is a sequence of atomic actions on a shared state. An action takes
an input from the outside, and what follows it may depend on the state and
the input it met. A server starts a process for each request and lets any of
them act next, so a process that is never chosen again has died where it
stood.

`Keeps` is the judgement of rely and guarantee, with rules for sequences,
branches and loops. `Server.sound` puts processes side by side: when what each
guarantees is what the others rely on, the invariant holds of every run.
-/

namespace Interleaving

open Runs

variable {σ ι α β ρ : Type}

inductive Process (σ ι α : Type) : Type
  | done (a : α)
  | act (next : σ → ι → σ) (rest : σ → ι → Process σ ι α)

namespace Process

def bind : Process σ ι α → (α → Process σ ι β) → Process σ ι β
  | done a, f => f a
  | act next rest, f => act next fun s i => (rest s i).bind f

instance : Monad (Process σ ι) where
  pure := done
  bind := bind

/-- One action, with a value. -/
def action (next : σ → ι → σ) (value : σ → ι → α) : Process σ ι α :=
  act next fun s i => done (value s i)

/-- A look at the state. -/
def read (value : σ → α) : Process σ ι α := action (fun s _ => s) fun s _ => value s

def write (next : σ → σ) : Process σ ι Unit := action (fun s _ => next s) fun _ _ => ()

/-- `for a in l: f(a)`, until a turn ends the loop; the value says whether none did. -/
def forEach (f : α → Process σ ι Bool) : List α → Process σ ι Bool
  | [] => pure true
  | a :: l => do
      let go ← f a
      if go then forEach f l else pure false

end Process

open Process

/-! ## Rely and guarantee -/

/-- Nothing that the others do takes `P` away. -/
def Stable (I : σ → Prop) (R : σ → σ → Prop) (P : σ → Prop) : Prop :=
  ∀ s s', I s → R s s' → P s → P s'

/-- From `P` on, the process keeps `I` and changes the state by `G` only, and it ends with `Q`,
as long as the others keep `I` and change the state by `R` only. -/
def Keeps (I : σ → Prop) (R G : σ → σ → Prop) :
    (σ → Prop) → Process σ ι α → (α → σ → Prop) → Prop
  | P, done a, Q => ∀ s, I s → P s → Q a s
  | P, act next rest, Q => ∀ s i, I s → P s → I (next s i) ∧ G s (next s i) ∧
      ∃ P', Stable I R P' ∧ P' (next s i) ∧ Keeps I R G P' (rest s i) Q

section Rules

variable {I : σ → Prop} {R G : σ → σ → Prop}

theorem stable_const (p : Prop) : Stable I R fun _ => p := fun _ _ _ _ hp => hp

theorem Stable.and {P P' : σ → Prop} (h : Stable I R P) (h' : Stable I R P') :
    Stable I R fun s => P s ∧ P' s :=
  fun s s' hI hR hs => ⟨h s s' hI hR hs.1, h' s s' hI hR hs.2⟩

namespace Keeps

variable {P P' : σ → Prop} {Q Q' : α → σ → Prop}

theorem pure {a : α} (h : ∀ s, I s → P s → Q a s) : Keeps I R G P (pure a : Process σ ι α) Q := h

theorem conseq {m : Process σ ι α} (h : Keeps I R G P m Q) (hP : ∀ s, I s → P' s → P s)
    (hQ : ∀ a s, I s → Q a s → Q' a s) : Keeps I R G P' m Q' := by
  induction m generalizing P P' with
  | done a => exact fun s hI hs => hQ a s hI (h s hI (hP s hI hs))
  | act next rest ih =>
      intro s i hI hs
      obtain ⟨hI', hG, P₁, hstable, hP₁, hrest⟩ := h s i hI (hP s hI hs)
      exact ⟨hI', hG, P₁, hstable, hP₁, ih s i hrest fun _ _ h => h⟩

theorem action {next : σ → ι → σ} {value : σ → ι → α} (hQ : ∀ a, Stable I R (Q a))
    (h : ∀ s i, I s → P s → I (next s i) ∧ G s (next s i) ∧ Q (value s i) (next s i)) :
    Keeps I R G P (Process.action next value) Q := by
  intro s i hI hs
  obtain ⟨hI', hG, hq⟩ := h s i hI hs
  exact ⟨hI', hG, Q (value s i), hQ _, hq, fun _ _ h => h⟩

theorem read {value : σ → α} (hG : ∀ s, G s s) (hQ : ∀ a, Stable I R (Q a))
    (h : ∀ s, I s → P s → Q (value s) s) :
    Keeps I R G P (Process.read value : Process σ ι α) Q :=
  action hQ fun s _ hI hs => ⟨hI, hG s, h s hI hs⟩

theorem write {next : σ → σ} {Q : σ → Prop} (hQ : Stable I R Q)
    (h : ∀ s, I s → P s → I (next s) ∧ G s (next s) ∧ Q (next s)) :
    Keeps I R G P (Process.write next : Process σ ι Unit) fun _ => Q :=
  action (fun _ => hQ) fun s _ => h s

/-- What holds between two parts must be stable. -/
theorem bind {m : Process σ ι β} {f : β → Process σ ι α} {S : β → σ → Prop}
    (hm : Keeps I R G P m S) (hf : ∀ b, Keeps I R G (S b) (f b) Q) :
    Keeps I R G P (m >>= f) Q := by
  induction m generalizing P with
  | done b => exact (hf b).conseq hm fun _ _ _ h => h
  | act next rest ih =>
      intro s i hI hs
      obtain ⟨hI', hG, P₁, hstable, hP₁, hrest⟩ := hm s i hI hs
      exact ⟨hI', hG, P₁, hstable, hP₁, ih s i hrest⟩

theorem ite {c : Prop} [Decidable c] {m m' : Process σ ι α} (h : c → Keeps I R G P m Q)
    (h' : ¬ c → Keeps I R G P m' Q) : Keeps I R G P (if c then m else m') Q := by
  split
  · exact h ‹c›
  · exact h' ‹¬ c›

/-- The loop rule: `S done` holds after the elements `done`, `B` after a turn that ended the
loop. -/
theorem forEach {f : β → Process σ ι Bool} {S : List β → σ → Prop} {B : σ → Prop} {l : List β}
    (hstep : ∀ done b rest, l = done ++ b :: rest →
      Keeps I R G (S done) (f b) fun go s => if go then S (done ++ [b]) s else B s) :
    Keeps I R G (S []) (forEach f l) fun all s => if all then S l s else B s := by
  have hrest : ∀ rest done, l = done ++ rest →
      Keeps I R G (S done) (Process.forEach f rest) fun all s => if all then S l s else B s := by
    intro rest
    induction rest with
    | nil => exact fun done heq => pure fun s _ h => by rwa [if_pos rfl, heq, List.append_nil]
    | cons b rest ih =>
        intro done heq
        rw [Process.forEach]
        refine bind (hstep done b rest heq) fun go => ?_
        cases go with
        | false => exact pure fun s _ h => h
        | true => exact ih (done ++ [b]) (by rw [heq, List.append_assoc]; rfl)
  exact hrest l [] rfl

end Keeps

end Rules

/-! ## Requests side by side -/

/-- The state, and the processes with the requests they serve, in the order of their starts. -/
structure Server (σ ι α ρ : Type) where
  state : σ
  running : List (ρ × Process σ ι α)

inductive Turn (ι ρ : Type)
  | start (request : ρ)
  | act (k : Nat) (input : ι)

/-- The next action of one process. -/
def Server.act (c : Server σ ι α ρ) (k : Nat) (input : ι) : Server σ ι α ρ :=
  match c.running[k]? with
  | some (request, .act next rest) =>
      ⟨next c.state input, c.running.set k (request, rest c.state input)⟩
  | _ => c

/-- A program is told which process it is. -/
def Server.step (program : Nat → ρ → Process σ ι α) (c : Server σ ι α ρ) :
    Turn ι ρ → Server σ ι α ρ
  | .start request =>
      { c with running := c.running ++ [(request, program c.running.length request)] }
  | .act k input => c.act k input

/-- The requests that a run starts. -/
def started : List (Turn ι ρ) → List ρ
  | [] => []
  | .start request :: turns => request :: started turns
  | .act _ _ :: turns => started turns

/-- The invariant holds, every process is where its request allows, and those to come find what
they start from. -/
structure Server.Safe (I : σ → Prop) (R G : Nat → σ → σ → Prop) (pre : Nat → σ → Prop)
    (post : Nat → ρ → α → σ → Prop) (c : Server σ ι α ρ) : Prop where
  invariant : I c.state
  running : ∀ k p, c.running[k]? = some p →
    ∃ P, Stable I (R k) P ∧ P c.state ∧ Keeps I (R k) (G k) P p.2 (post k p.1)
  fresh : ∀ k, c.running.length ≤ k → pre k c.state

section Sound

variable {I : σ → Prop} {R G : Nat → σ → σ → Prop} {pre : Nat → σ → Prop}
  {post : Nat → ρ → α → σ → Prop} {program : Nat → ρ → Process σ ι α}

theorem Server.Safe.act (hrely : ∀ j k s s', j ≠ k → I s → I s' → G j s s' → R k s s')
    (hpre : ∀ k, Stable I (R k) (pre k)) {c : Server σ ι α ρ} (h : c.Safe I R G pre post)
    (k : Nat) (input : ι) : (c.act k input).Safe I R G pre post := by
  unfold Server.act
  split
  next request next rest hget =>
    obtain ⟨P, -, hP, hkeeps⟩ := h.running k _ hget
    obtain ⟨hI, hG, P', hstable', hP', hrest⟩ := hkeeps c.state input h.invariant hP
    obtain ⟨hlt, -⟩ := List.getElem?_eq_some_iff.mp hget
    have hothers : ∀ j, k ≠ j → R j c.state (next c.state input) :=
      fun j hkj => hrely k j _ _ hkj h.invariant hI hG
    refine ⟨hI, fun j p hp => ?_, fun j hj => ?_⟩
    · by_cases hkj : k = j
      · subst hkj
        rw [List.getElem?_set_self hlt] at hp
        obtain rfl := Option.some.inj hp
        exact ⟨P', hstable', hP', hrest⟩
      · rw [List.getElem?_set_ne hkj] at hp
        obtain ⟨P₁, hstable₁, hP₁, hkeeps₁⟩ := h.running j p hp
        exact ⟨P₁, hstable₁, hstable₁ _ _ h.invariant (hothers j hkj) hP₁, hkeeps₁⟩
    · rw [List.length_set] at hj
      exact hpre j _ _ h.invariant (hothers j (by omega)) (h.fresh j hj)
  next => exact h

theorem Server.Safe.start (hpre : ∀ k, Stable I (R k) (pre k)) {c : Server σ ι α ρ}
    (h : c.Safe I R G pre post) {request : ρ}
    (hprogram : ∀ k, Keeps I (R k) (G k) (pre k) (program k request) (post k request)) :
    (c.step program (.start request)).Safe I R G pre post := by
  refine ⟨h.invariant, fun k p hp => ?_, fun k hk => h.fresh k ?_⟩
  · change (c.running ++ [(request, program c.running.length request)])[k]? = some p at hp
    rw [List.getElem?_append] at hp
    split at hp
    · exact h.running k p hp
    · rcases hk : k - c.running.length with - | m
      · rw [hk] at hp
        obtain rfl := Option.some.inj hp
        obtain rfl : k = c.running.length := by omega
        exact ⟨pre c.running.length, hpre _, h.fresh _ (Nat.le_refl _), hprogram _⟩
      · rw [hk] at hp
        cases hp
  · refine Nat.le_trans ?_ hk
    simp [Server.step]

variable (I R G pre post program) in
/-- **Requests side by side.** If the program of each request keeps the invariant against the
others, the invariant holds after every run, and what a request promises holds from its end on. -/
theorem Server.sound (hrely : ∀ j k s s', j ≠ k → I s → I s' → G j s s' → R k s s')
    (hpre : ∀ k, Stable I (R k) (pre k)) {s₀ : σ} (h₀ : I s₀) (hpre₀ : ∀ k, pre k s₀)
    (turns : List (Turn ι ρ))
    (hprogram : ∀ r ∈ started turns, ∀ k,
      Keeps I (R k) (G k) (pre k) (program k r) (post k r)) :
    I (run (Server.step program) ⟨s₀, []⟩ turns).state ∧
      ∀ k r a, (run (Server.step program) ⟨s₀, []⟩ turns).running[k]? = some (r, .done a) →
        post k r a (run (Server.step program) ⟨s₀, []⟩ turns).state := by
  have hsafe : ∀ (turns : List (Turn ι ρ)) (c : Server σ ι α ρ), c.Safe I R G pre post →
      (∀ r ∈ started turns, ∀ k,
        Keeps I (R k) (G k) (pre k) (program k r) (post k r)) →
        (run (Server.step program) c turns).Safe I R G pre post := by
    intro turns
    induction turns with
    | nil => exact fun c hc _ => hc
    | cons t turns ih =>
        intro c hc hprogram
        cases t with
        | start request =>
            exact ih _ (hc.start hpre (hprogram request List.mem_cons_self)) fun r hr =>
              hprogram r (List.mem_cons_of_mem _ hr)
        | act k input => exact ih _ (hc.act hrely hpre k input) hprogram
  obtain ⟨hI, hrunning, -⟩ := hsafe turns ⟨s₀, []⟩
    ⟨h₀, fun k p hp => absurd hp (by simp), fun k _ => hpre₀ k⟩ hprogram
  refine ⟨hI, fun k r a hdone => ?_⟩
  obtain ⟨P, -, hP, hkeeps⟩ := hrunning k (r, .done a) hdone
  exact hkeeps _ hI hP

end Sound

end Interleaving
